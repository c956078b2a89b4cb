import WidgetSource.Proofs.ClearedFields
import WidgetSource.Proofs.UnsetColors

/-!
# Colors of containers

A container has its color as an argument, or, if it has a decoration, folded into it. The decoration keeps a color that it
has an entry for, even if this entry is cleared, and it leaves out values that are not true. So a color of a container is
lost if the entry of its decoration is cleared, or if the color is a value that is not true.
-/
namespace WidgetSource

open Dart (Expr Label)

def Dart.valuesOf (name : String) (entries : List (Label × Expr)) : List Expr :=
  (entries.filter fun entry => entry.1.name = name).map Prod.snd

def Dart.Expr.valuesOf (name : String) (call : Expr) : List Expr :=
  Dart.valuesOf name call.arguments.2

namespace Dart

theorem valuesOf_append (name : String) (entries more : List (Label × Expr)) :
    valuesOf name (entries ++ more) = valuesOf name entries ++ valuesOf name more := by
  rw [valuesOf, List.filter_append, List.map_append]
  rfl

theorem valuesOf_eq_nil {name : String} {entries : List (Label × Expr)}
    (absent : name ∉ entries.map fun entry => entry.1.name) : valuesOf name entries = [] := by
  rw [valuesOf, List.map_eq_nil_iff, List.filter_eq_nil_iff]
  intro entry member same
  exact absent (List.mem_map.mpr ⟨entry, member, of_decide_eq_true same⟩)

def namedEntries (fields : List (String × Expr)) : List (Label × Expr) :=
  fields.map fun (name, value) => (.named name, value)

theorem valuesOf_ofArgs (name target : String) (fields : List (String × Expr)) :
    (Expr.ofArgs target fields).valuesOf name = valuesOf name (namedEntries fields) :=
  rfl

theorem valuesOf_given {name : String} {args : List (Option (String × Expr))}
    (others : ∀ arg ∈ args, ∀ field ∈ arg, field.1 ≠ name) : valuesOf name (namedEntries (given args)) = [] := by
  refine valuesOf_eq_nil fun inside => ?_
  rw [namedEntries, List.map_map] at inside
  obtain ⟨field, member, same⟩ := List.mem_map.mp inside
  obtain ⟨arg, listed, found⟩ := List.mem_filterMap.mp member
  exact others arg listed field found same

theorem argument?_apart {name other : String} {value : Option String} (apart : other ≠ name) :
    ∀ field ∈ argument? other value, field.1 ≠ name := by
  rintro _ member
  obtain ⟨s, -, rfl⟩ := Option.map_eq_some_iff.mp member
  exact apart

theorem valuesOf_first {name : String} {args : List (Option (String × Expr))}
    (others : ∀ arg ∈ args, ∀ field ∈ arg, field.1 ≠ name) (first : Option String) (s target : String) :
    (if (given (argument? name first :: args)).isEmpty then Expr.text s
      else .ofArgs target (given (argument? name first :: args))).valuesOf name = (first.map Expr.text).toList := by
  have rest : valuesOf name (namedEntries (given args)) = [] := valuesOf_given others
  cases first with
  | none =>
    split
    · rfl
    · rw [valuesOf_ofArgs]
      exact rest
  | some value =>
    have entries : namedEntries (given (argument? name (some value) :: args)) =
        (.named name, .text value) :: namedEntries (given args) := rfl
    rw [if_neg (by simp [argument?, given]), valuesOf_ofArgs, entries, ← List.singleton_append, valuesOf_append, rest]
    simp [valuesOf, Label.name]

theorem decorationOf_color (fields : Fields Value) : (decorationOf (.map fields)).valuesOf "color" =
    ((((Fields.get? "color" fields).filter (·.isTruthy)).bind colorOf?).map Expr.text).toList := by
  have shadows (value : Option Value) :
      ∀ field ∈ value.map (fun shadows => ("boxShadow", boxShadowOf shadows)), field.1 ≠ "color" := by
    rintro _ member
    obtain ⟨value, -, rfl⟩ := Option.map_eq_some_iff.mp member
    exact (by decide : "boxShadow" ≠ "color")
  refine valuesOf_first ?_ _ _ _
  simp only [List.forall_mem_cons]
  exact ⟨argument?_apart (by decide), argument?_apart (by decide), shadows _, argument?_apart (by decide),
    fun _ none => absurd none List.not_mem_nil⟩

theorem decorationOf_call {value : Value} (colored : (decorationOf value).valuesOf "color" ≠ []) :
    ∃ fields, decorationOf value = .ofArgs "BoxDecoration" fields := by
  unfold decorationOf at colored ⊢
  dsimp only at colored ⊢
  split at colored
  · exact absurd rfl colored
  · rename_i nonempty
    exact ⟨_, if_neg nonempty⟩

end Dart

namespace Node

open Dart (valuesOf valuesOf_append valuesOf_eq_nil)

variable {node : Node} (options : Options) (table : Mapping.Table) (depth level : Nat)

def entriesOf (args : List (Argument Node)) : List (Label × Expr) :=
  (renderArgs options table depth level args).map (·.entry options.useConstConstructors)

theorem entriesOf_append (args more : List (Argument Node)) : entriesOf options table depth level (args ++ more) =
    entriesOf options table depth level args ++ entriesOf options table depth level more := by
  rw [entriesOf, ← renderArgs_append, List.map_append]
  rfl

theorem entriesOf_valuesOf_eq_nil {name : String} {names : List String} {args : List (Argument Node)}
    (named : Form.NamedFrom names args) (absent : name ∉ names) :
    valuesOf name (entriesOf options table depth level args) = [] := by
  refine valuesOf_eq_nil fun inside => absent (named.subset ?_)
  rw [entriesOf, renderArgs, List.map_map, List.map_map] at inside
  obtain ⟨arg, member, same⟩ := List.mem_map.mp inside
  refine List.mem_map.mpr ⟨arg, member, ?_⟩
  cases arg <;> exact same

theorem keyEntry_valuesOf_eq_nil {name : String} (apart : name ≠ "key") :
    valuesOf name (node.keyEntry options.includeKeys) = [] :=
  valuesOf_eq_nil fun inside => apart (List.mem_singleton.mp (keyEntry_names.subset inside))

def decoration? (node : Node) : Option Expr :=
  (Form.decorationFields? node).map fun fields => Dart.decorationOf (.map fields)

def plainColor (node : Node) : List (String × Writer) :=
  if node.decoration?.isNone then [("color", Dart.colorOf?)] else []

theorem plainColor_names (node : Node) : Form.NamedFrom ["color"] (node.named node.plainColor) := by
  rw [plainColor]
  split
  · exact .named _
  · exact .missing _

variable (isContainer : node.kind = .container)
include isContainer

theorem container_valuesOf {name : String} (apart : name ∉ ["key", "width", "height", "padding", "margin", "alignment",
    "constraints", "transform", "child"]) : (node.render options table depth level).expr.valuesOf name =
      valuesOf name (entriesOf options table depth level (node.named node.plainColor)) ++
        valuesOf name (entriesOf options table depth level (Argument.ofExpr? "decoration" node.decoration?)) := by
  have absent {names : List String} {args : List (Argument Node)} (named : Form.NamedFrom names args)
      (some : names ⊆ ["key", "width", "height", "padding", "margin", "alignment", "constraints", "transform", "child"]) :
      valuesOf name (entriesOf options table depth level args) = [] :=
    entriesOf_valuesOf_eq_nil options table depth level named fun inside => apart (some inside)
  have args : (node.formAt options table level).args =
      node.named Form.sizes ++ node.named node.plainColor ++
        node.named [("padding", Form.insets), ("margin", Form.insets), ("alignment", .word Dart.alignments)] ++
        Argument.ofExpr? "decoration" node.decoration? ++
        node.named [("constraints", fun value => value.map?.map fun fields => Dart.constraintsOf (.map fields)),
          ("transform", .always Dart.transformOf)] ++ Form.child node := by
    rw [formAt, form_args, isContainer]
    rfl
  have key : name ≠ "key" := fun same => apart (same ▸ .head _)
  rw [Dart.Expr.valuesOf, render_arguments, valuesOf_append, keyEntry_valuesOf_eq_nil options key, entries, args]
  change valuesOf name (entriesOf options table depth level _) = _
  have child : Form.NamedFrom ["child"] (Form.child node) := .childSlot "child" _
  generalize node.named node.plainColor = color
  simp only [entriesOf_append, valuesOf_append]
  rw [absent (.named _) (by decide), absent (.named _) (by decide), absent (.named _) (by decide),
    absent child (by decide)]
  simp only [List.nil_append, List.append_nil]

theorem container_color : (node.render options table depth level).expr.valuesOf "color" =
    if node.decoration?.isNone then ((node.written? "color" Dart.colorOf?).map Expr.text).toList else [] := by
  rw [container_valuesOf options table depth level isContainer (by decide),
    entriesOf_valuesOf_eq_nil options table depth level (.ofExpr? "decoration" _) (by decide), List.append_nil, plainColor]
  have single : node.named [("color", Dart.colorOf?)] =
      ((node.written? "color" Dart.colorOf?).map (Argument.text "color")).toList := List.append_nil _
  split
  · rw [single]
    cases node.written? "color" Dart.colorOf? <;> rfl
  · rfl

theorem container_decoration : (node.render options table depth level).expr.valuesOf "decoration" =
    node.decoration?.toList := by
  rw [container_valuesOf options table depth level isContainer (by decide),
    entriesOf_valuesOf_eq_nil options table depth level (plainColor_names node) (by decide), List.nil_append]
  cases node.decoration? <;> rfl

end Node

namespace Node

variable {node : Node} {value : Value} {c : String}

def decorationEntries (node : Node) : Fields Value :=
  ((node.property? "decoration").bind Value.map?).getD []

theorem decoration?_isSome {color : Value} (found : Fields.get? "color" node.decorationEntries = some color) :
    node.decoration?.isSome := by
  rw [decorationEntries] at found
  rw [decoration?, Form.decorationFields?, Option.isSome_map]
  cases entries : (node.property? "decoration").bind Value.map? with
  | none =>
    rw [entries] at found
    cases found
  | some => rfl

theorem decoration?_color {decoration : Expr} (found : node.decoration? = some decoration) :
    decoration.valuesOf "color" =
      (((((Fields.get? "color" node.decorationEntries).or (node.property? "color")).filter (·.isTruthy)).bind
        Dart.colorOf?).map Expr.text).toList := by
  obtain ⟨fields, folded, rfl⟩ := Option.map_eq_some_iff.mp found
  rw [Form.decorationFields?] at folded
  have apart : "color" ≠ "borderRadius" := by decide
  split at folded
  · cases folded
  · cases folded
    rw [Dart.decorationOf_color, Form.get?_complete, Form.get?_complete, if_neg apart, if_pos rfl, Option.or_none]
    rfl

def DecorationShows (decoration : Expr) (c : String) : Prop :=
  ∃ fields, decoration = .ofArgs "BoxDecoration" fields ∧ decoration.valuesOf "color" = [.text c]

/-- A container shows a color: as an argument if it has no decoration, and else as the color of its decoration, unless
this is given one of its own. -/
def ShowsColor (node : Node) (call : Expr) (c : String) : Prop :=
  (call.valuesOf "decoration" = [] → call.valuesOf "color" = [.text c]) ∧
    (call.valuesOf "decoration" ≠ [] → call.valuesOf "color" = [] ∧
      (¬ Fields.Holds "color" node.decorationEntries →
        ∃ decoration, call.valuesOf "decoration" = [decoration] ∧ DecorationShows decoration c))

/-- A container loses its color: it is folded into a decoration with a cleared color, or it is not true. -/
def LosesColor (node : Node) (color : Value) : Prop :=
  Fields.Cleared "color" node.decorationEntries ∨
    Fields.get? "color" node.decorationEntries = none ∧ node.decoration?.isSome ∧ color.isTruthy = false

theorem decorationShows_iff {decoration : Expr} (found : node.decoration? = some decoration) :
    DecorationShows decoration c ↔ decoration.valuesOf "color" = [.text c] := by
  constructor
  · rintro ⟨_, -, colored⟩
    exact colored
  · intro colored
    obtain ⟨fields, -, rfl⟩ := Option.map_eq_some_iff.mp found
    obtain ⟨args, call⟩ := Dart.decorationOf_call (by rw [colored]; exact List.cons_ne_nil _ _)
    exact ⟨args, call, colored⟩

theorem folded_shows_iff {decoration : Expr} (found : node.decoration? = some decoration)
    (color : node.property? "color" = some value) (written : Dart.colorOf? value = some c) :
    (¬ Fields.Holds "color" node.decorationEntries → DecorationShows decoration c) ↔ ¬ node.LosesColor value := by
  rw [decorationShows_iff found, decoration?_color found, color, LosesColor, found, Fields.Holds, Fields.Cleared]
  cases Fields.get? "color" node.decorationEntries with
  | none => cases truthy : value.isTruthy <;> simp [Option.filter_some, truthy, written]
  | some own =>
    cases null : own.isNull with
    | true =>
      have dropped : own.isTruthy = false := by rw [← own.isNull_or_isTruthy, null]; rfl
      simp [Option.filter_some, dropped, null]
    | false => simp [null]

section

variable (options : Options) (table : Mapping.Table) (depth level : Nat) (isContainer : node.kind = .container)
include isContainer

theorem container_color_or_decoration :
    (node.render options table depth level).expr.valuesOf "color" = [] ∨
      (node.render options table depth level).expr.valuesOf "decoration" = [] := by
  rw [container_color options table depth level isContainer, container_decoration options table depth level isContainer]
  cases node.decoration? with
  | none => exact .inr rfl
  | some => exact .inl rfl

theorem container_showsColor_iff (color : node.property? "color" = some value) (written : Dart.colorOf? value = some c) :
    node.ShowsColor (node.render options table depth level).expr c ↔ ¬ node.LosesColor value := by
  rw [ShowsColor, container_color options table depth level isContainer,
    container_decoration options table depth level isContainer]
  cases found : node.decoration? with
  | none =>
    have kept : ¬ node.LosesColor value := by
      rintro (⟨own, entry, -⟩ | ⟨-, some, -⟩)
      · have some := decoration?_isSome entry
        rw [found] at some
        cases some
      · rw [found] at some
        cases some
    simp [written?, color, written, kept]
  | some decoration => simpa using folded_shows_iff found color written

end

end Node

/-- A container never has both a color and a decoration. It shows a color that can be written exactly if it does not lose
it. -/
theorem containerColor_shown_iff (options : Options) (table : Mapping.Table) (depth level : Nat) {node : Node}
    {value : Value} {c : String} (isContainer : node.kind = .container) (color : node.property? "color" = some value)
    (written : Dart.colorOf? value = some c) :
    let call := (node.render options table depth level).expr
    (call.valuesOf "color" = [] ∨ call.valuesOf "decoration" = []) ∧
      (node.ShowsColor call c ↔ ¬ node.LosesColor value) :=
  ⟨Node.container_color_or_decoration options table depth level isContainer,
    Node.container_showsColor_iff options table depth level isContainer color written⟩

def roundBox : Node :=
  ⟨none, "Container", [("color", .text "red"), ("decoration", .map [("shape", .text "circle")])], []⟩

theorem roundBox_shows : roundBox.kind = .container ∧ roundBox.property? "color" = some (.text "red") ∧
    Dart.colorOf? (.text "red") = some "Colors.red" ∧
    roundBox.ShowsColor (roundBox.render exprOptions .stock 0 0).expr "Colors.red" := by
  have isContainer : roundBox.kind = .container := by decide
  have color : roundBox.property? "color" = some (.text "red") := rfl
  have written : Dart.colorOf? (.text "red") = some "Colors.red" := by decide
  refine ⟨isContainer, color, written,
    (containerColor_shown_iff exprOptions .stock 0 0 isContainer color written).2.mpr ?_⟩
  rintro (⟨own, entry, -⟩ | ⟨-, -, dropped⟩)
  · cases entry
  · exact absurd dropped (by decide)

def clearedBox : Node :=
  ⟨none, "Container", [("color", .text "red"), ("decoration", .map [("color", .null)])], []⟩

theorem clearedBox_colorless : clearedBox.kind = .container ∧ clearedBox.property? "color" = some (.text "red") ∧
    Dart.colorOf? (.text "red") = some "Colors.red" ∧
    ¬ clearedBox.ShowsColor (clearedBox.renderRoot exprOptions .empty).expr "Colors.red" ∧
      ∃ generation, generate exprOptions .empty clearedBox = .ok generation ∧
        generation.code = "Container(\n  decoration: const BoxDecoration(),\n)" := by
  have isContainer : clearedBox.kind = .container := by decide
  have color : clearedBox.property? "color" = some (.text "red") := rfl
  have written : Dart.colorOf? (.text "red") = some "Colors.red" := by decide
  refine ⟨isContainer, color, written, fun shown => ?_, _, rfl, ?_⟩
  · exact (Node.container_showsColor_iff exprOptions .empty 0 _ isContainer color written).mp shown
      (.inl ⟨.null, rfl, rfl⟩)
  · rw [exprOptions_code]
    decide +kernel

end WidgetSource
