import WidgetSource.Dart.Layout

namespace WidgetSource.Dart

/-- How a named argument is written: its name before the value, or a text that already holds both. -/
inductive Label
  | named (name : String)
  | spelled (name : String)
  deriving DecidableEq, Repr

def Label.name : Label → String
  | .named name | .spelled name => name

def Label.write (value : String) : Label → String
  | .named name => name ++ ": " ++ value
  | .spelled _ => value

inductive Expr
  | text (s : String)
  | call (constant : Bool) (name : String) (positional : Option Expr) (named : List (Label × Expr))
  | list (items : List Expr)
  deriving Inhabited

namespace Expr

def ofArgs (name : String) (args : List (String × Expr)) : Expr :=
  .call false name none (args.map fun (name, value) => (.named name, value))

mutual

/-- The text of an expression on a level; arguments and items stand one level deeper. -/
def render (layout : Layout) (level : Nat) : Expr → String
  | .text s => s
  | .call constant name positional named =>
    (if constant then "const " else "") ++
      layout.call name (renderPositional layout (level + 1) positional) (renderNamed layout (level + 1) named) level
  | .list items => layout.list none (renderItems layout (level + 1) items) level

def renderPositional (layout : Layout) (level : Nat) : Option Expr → Option String
  | none => none
  | some value => some (value.render layout level)

def renderNamed (layout : Layout) (level : Nat) : List (Label × Expr) → List String
  | [] => []
  | (label, value) :: named => label.write (value.render layout level) :: renderNamed layout level named

def renderItems (layout : Layout) (level : Nat) : List Expr → List String
  | [] => []
  | item :: items => item.render layout level :: renderItems layout level items

end

theorem renderNamed_eq_map (layout : Layout) (level : Nat) (named : List (Label × Expr)) :
    renderNamed layout level named = named.map fun (label, value) => label.write (value.render layout level) := by
  induction named with
  | nil => rfl
  | cons entry named ih => rw [renderNamed, ih, List.map_cons]

theorem renderItems_eq_map (layout : Layout) (level : Nat) (items : List Expr) :
    renderItems layout level items = items.map (·.render layout level) := by
  induction items with
  | nil => rfl
  | cons item items ih => rw [renderItems, ih, List.map_cons]

end Expr

end WidgetSource.Dart
