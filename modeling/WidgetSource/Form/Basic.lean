import WidgetSource.Dart.Expr
import WidgetSource.Dart.Token
import WidgetSource.Widget.Embedded

/-!
# Forms

What a widget is written as: a call whose arguments hold expressions, or other widgets in slots. A form says nothing
about what the widgets in its slots are written as. They are all lighter than the widget itself, so that writing ends.
-/
namespace WidgetSource

open Dart (Expr Label)

variable {α β : Type}

/-- A place for widgets: for one, for several in a column, or for a list. -/
inductive Slot (α : Type)
  | one (item : α)
  | column (items : List α)
  | list (items : List α)

namespace Slot

def toList : Slot α → List α
  | .one item => [item]
  | .column items | .list items => items

def map (f : α → β) : Slot α → Slot β
  | .one item => .one (f item)
  | .column items => .column (items.map f)
  | .list items => .list (items.map f)

def mapMem (slot : Slot α) (f : (item : α) → item ∈ slot.toList → β) : Slot β :=
  match slot, f with
  | .one item, f => .one (f item (List.mem_singleton_self item))
  | .column items, f => .column (items.attach.map fun item => f item.1 item.2)
  | .list items, f => .list (items.attach.map fun item => f item.1 item.2)

theorem mapMem_eq_map (slot : Slot α) (f : α → β) : (slot.mapMem fun item _ => f item) = slot.map f := by
  cases slot <;> simp [mapMem, map]

/-- How many levels below the widget itself the widgets in a slot stand. -/
def inset : Slot α → Nat
  | .one _ => 1
  | .column _ => 3
  | .list _ => 2

end Slot

/-- A named argument: an expression, or a slot. The widgets of an embedded slot come from a property and are no part of
the tree. -/
inductive Argument (α : Type)
  | value (label : Label) (expr : Expr)
  | slot (name : String) (embedded : Bool) (place : Slot α)

namespace Argument

def name : Argument α → String
  | .value label _ => label.name
  | .slot name _ _ => name

def items : Argument α → List α
  | .value _ _ => []
  | .slot _ _ place => place.toList

def map (f : α → β) : Argument α → Argument β
  | .value label expr => .value label expr
  | .slot name embedded place => .slot name embedded (place.map f)

def mapMem (argument : Argument α) (f : (item : α) → item ∈ argument.items → β) : Argument β :=
  match argument, f with
  | .value label expr, _ => .value label expr
  | .slot name embedded place, f => .slot name embedded (place.mapMem f)

theorem mapMem_eq_map (argument : Argument α) (f : α → β) :
    (argument.mapMem fun item _ => f item) = argument.map f := by
  cases argument with
  | value => rfl
  | slot name embedded place => exact congrArg (Argument.slot name embedded) (place.mapMem_eq_map f)

def inset : Argument α → Nat
  | .value _ _ => 0
  | .slot _ _ place => place.inset

def text (name value : String) : Argument α :=
  .value (.named name) (.text value)

def ofExpr? (name : String) (expr : Option Expr) : List (Argument α) :=
  (expr.map fun expr => Argument.value (.named name) expr).toList

end Argument

structure Form where
  target : String
  positional : Option Expr := none
  args : List (Argument Node) := []
  /-- Arguments that give way to one of the same name. Their widgets still ask for imports. -/
  shadowed : List (Argument Node) := []
  /-- Children that have no place in the call. -/
  dropped : List Node := []
  imports : List String := []

abbrev Writer := Value → Option String

def Writer.always (f : Value → String) : Writer := fun value => some (f value)

def Writer.constant (text : String) : Writer := fun _ => some text

def Writer.word (table : Dart.TokenTable) : Writer := fun value => value.text?.map table.read

def Writer.text : Writer := fun value => value.text?.map Dart.textLiteral

def Writer.ifTruthy (writer : Writer) : Writer := fun value => if value.isTruthy then writer value else none

namespace Node

def written? (name : String) (writer : Writer) (node : Node) : Option String :=
  (node.property? name).bind writer

def named (writers : List (String × Writer)) (node : Node) : List (Argument Node) :=
  writers.flatMap fun (name, writer) => ((node.written? name writer).map (Argument.text name)).toList

def fields (writers : List (String × Writer)) (node : Node) : List (String × Expr) :=
  writers.flatMap fun (name, writer) => ((node.written? name writer).map fun s => (name, Expr.text s)).toList

/-- The child, or a column of the children. -/
def childSlot (name : String) : List Node → List (Argument Node)
  | [] => []
  | [child] => [.slot name false (.one child)]
  | children => [.slot name false (.column children)]

def childList : List Node → List (Argument Node)
  | [] => [.text "children" "const <Widget>[]"]
  | children => [.slot "children" false (.list children)]

def embeddedSlot? : Value → Option (Slot Node)
  | .list items =>
    match items.filterMap Value.widget? with
    | [] => none
    | widgets => some (.list widgets)
  | value => value.widget?.map .one

def embeddedIn (name : String) (value : Option Value) : List (Argument Node) :=
  ((value.bind embeddedSlot?).map (Argument.slot name true)).toList

end Node

def Lighter (node : Node) (args : List (Argument Node)) : Prop :=
  ∀ arg ∈ args, ∀ item ∈ arg.items, item.weight < node.weight

namespace Lighter

variable {node : Node} {args more : List (Argument Node)}

theorem append (h : Lighter node args) (k : Lighter node more) : Lighter node (args ++ more) := fun arg member =>
  (List.mem_append.mp member).elim (h arg) (k arg)

theorem of_subset (h : Lighter node args) (sub : ∀ arg ∈ more, arg ∈ args) : Lighter node more := fun arg member =>
  h arg (sub arg member)

theorem nil : Lighter node [] := fun _ member => absurd member List.not_mem_nil

theorem cons_text (name value : String) (h : Lighter node args) : Lighter node (.text name value :: args) := by
  intro arg member item inside
  rcases List.mem_cons.mp member with rfl | later
  · simp [Argument.text, Argument.items] at inside
  · exact h arg later item inside

theorem ofExpr? (name : String) (expr : Option Expr) : Lighter node (Argument.ofExpr? name expr) := by
  intro arg member item inside
  cases expr <;> simp [Argument.ofExpr?] at member
  subst member
  simp [Argument.items] at inside

theorem named (writers : List (String × Writer)) : Lighter node (node.named writers) := by
  intro arg member item inside
  obtain ⟨_, _, written⟩ := List.mem_flatMap.mp member
  obtain ⟨_, _, rfl⟩ := Option.map_eq_some_iff.mp (Option.mem_toList.mp written)
  simp [Argument.text, Argument.items] at inside

theorem childSlot (name : String) {children : List Node} (h : ∀ child ∈ children, child.weight < node.weight) :
    Lighter node (Node.childSlot name children) := by
  intro arg member item inside
  unfold Node.childSlot at member
  split at member <;> simp only [List.mem_singleton, List.not_mem_nil] at member <;> subst member <;>
    exact h item inside

theorem childList {children : List Node} (h : ∀ child ∈ children, child.weight < node.weight) :
    Lighter node (Node.childList children) := by
  intro arg member item inside
  unfold Node.childList at member
  split at member <;> simp only [List.mem_singleton] at member <;> subst member
  · simp [Argument.text, Argument.items] at inside
  · exact h item inside

theorem embeddedSlot? {value : Value} {slot : Slot Node} {item : Node} (h : Node.embeddedSlot? value = some slot)
    (inside : item ∈ slot.toList) : item.weight ≤ value.weight := by
  refine Value.widgets_weight ?_
  unfold Node.embeddedSlot? at h
  unfold Value.widgets
  split at h
  · split at h
    · simp at h
    · simp only [Option.some.injEq] at h
      subst h
      exact inside
  · simp only [Option.map_eq_some_iff] at h
    obtain ⟨widget, found, rfl⟩ := h
    simp only [Slot.toList, List.mem_singleton] at inside
    subst inside
    simp [found]

theorem embeddedIn (name : String) {value : Option Value} (h : ∀ v, value = some v → v.weight < node.weight) :
    Lighter node (Node.embeddedIn name value) := by
  intro arg member item inside
  obtain ⟨slot, found, rfl⟩ := Option.map_eq_some_iff.mp (Option.mem_toList.mp member)
  obtain ⟨v, same, found⟩ := Option.bind_eq_some_iff.mp found
  exact Nat.lt_of_le_of_lt (embeddedSlot? found inside) (h v same)

theorem embeddedProperty (name property : String) :
    Lighter node (Node.embeddedIn name (node.property? property)) :=
  embeddedIn name fun _ => Node.property?_weight

end Lighter

end WidgetSource
