import WidgetSource.Proofs.Names
import WidgetSource.Proofs.Styles

namespace WidgetSource

open Dart (Expr Phrase isIdentifier EntryAllowed FieldPhrased)

def ArgumentPhrased (runtime : Prop) : Argument Node → Prop
  | .value label expr => EntryAllowed runtime (label, expr) ∧ expr.Phrased runtime
  | .slot name _ _ => isIdentifier name = true ∧ (runtime ∨ isDynamicName name = false)

def ArgsPhrased (runtime : Prop) (args : List (Argument Node)) : Prop :=
  ∀ arg ∈ args, ArgumentPhrased runtime arg

theorem Node.not_const_of_mem {table : Mapping.Table} {node : Node} {name : String} {value : Value}
    (given : (name, value) ∈ node.properties) (isSet : value.isNull = false) (dynamic : isDynamicName name = true) :
    node.isLocallyConst table = false := by
  have found : node.hasDynamicProperty = true :=
    List.any_eq_true.mpr ⟨(name, value), given, by simp [isSet, dynamic]⟩
  simp [Node.isLocallyConst, found]

theorem Node.not_const_of_dynamic {table : Mapping.Table} {node : Node} {name : String} {value : Value}
    (given : node.property? name = some value) (dynamic : isDynamicName name = true) :
    node.isLocallyConst table = false :=
  not_const_of_mem (Node.property?_mem given) (Node.property?_isNull given) dynamic

variable {runtime : Prop} {node : Node} {args more : List (Argument Node)}

namespace ArgsPhrased

theorem nil : ArgsPhrased runtime [] := fun _ member => absurd member List.not_mem_nil

theorem append (h : ArgsPhrased runtime args) (k : ArgsPhrased runtime more) : ArgsPhrased runtime (args ++ more) :=
  List.forall_mem_append.mpr ⟨h, k⟩

theorem cons {arg : Argument Node} (first : ArgumentPhrased runtime arg) (h : ArgsPhrased runtime args) :
    ArgsPhrased runtime (arg :: args) :=
  List.forall_mem_cons.mpr ⟨first, h⟩

end ArgsPhrased

theorem valueArgument_phrased {name : String} {expr : Expr} (identifier : isIdentifier name = true)
    (static : isDynamicName name = false) (phrased : expr.Phrased runtime) :
    ArgumentPhrased runtime (.value (.named name) expr) :=
  ⟨⟨identifier, Dart.allowed_of_static (.inr static)⟩, phrased⟩

theorem textArgument_phrased {name value : String} (identifier : isIdentifier name = true)
    (static : isDynamicName name = false) (phrase : Phrase runtime False value.toList) : ArgumentPhrased runtime (.text name value) :=
  valueArgument_phrased identifier static (.text phrase)

theorem ofExpr?_phrased {name : String} {expr : Option Expr} (identifier : isIdentifier name = true)
    (static : isDynamicName name = false) (phrased : ∀ e, expr = some e → e.Phrased runtime) :
    ArgsPhrased runtime (Argument.ofExpr? name expr) := by
  cases expr with
  | none => exact .nil
  | some expr => exact .cons (valueArgument_phrased identifier static (phrased expr rfl)) .nil

theorem childSlot_phrased {name : String} (identifier : isIdentifier name = true) (static : isDynamicName name = false)
    (children : List Node) : ArgsPhrased runtime (Node.childSlot name children) := by
  unfold Node.childSlot
  split
  · exact .nil
  · exact .cons ⟨identifier, .inr static⟩ .nil
  · exact .cons ⟨identifier, .inr static⟩ .nil

theorem childList_phrased (children : List Node) : ArgsPhrased runtime (Node.childList children) := by
  unfold Node.childList
  split
  · have none : Phrase runtime False ('<' :: ("Widget".toList ++ ">[]".toList)) :=
      .noItems (by decide) (.inr (Dart.isMild_of_plain (by decide)))
    exact .cons (textArgument_phrased (by decide) (by decide) (by simpa using none.constant)) .nil
  · exact .cons ⟨by decide, .inr (by decide)⟩ .nil

theorem embeddedIn_phrased {name : String} (identifier : isIdentifier name = true) (static : isDynamicName name = false)
    (value : Option Value) : ArgsPhrased runtime (Node.embeddedIn name value) := by
  unfold Node.embeddedIn
  cases value.bind Node.embeddedSlot? with
  | none => exact .nil
  | some place => exact .cons ⟨identifier, .inr static⟩ .nil

/-- What the writers make of the properties of a widget. A property of its own name may bring what is known only at run
time. -/
def WritersPhrased (runtime : Prop) (node : Node) (writers : List (String × Writer)) : Prop :=
  ∀ entry ∈ writers, isIdentifier entry.1 = true ∧
    ∀ value s, node.property? entry.1 = some value → entry.2 value = some s → Phrase runtime False s.toList

namespace WritersPhrased

theorem nil : WritersPhrased runtime node [] := fun _ member => absurd member List.not_mem_nil

theorem cons {name : String} {writer : Writer} {writers : List (String × Writer)}
    (identifier : isIdentifier name = true) (phrases : ∀ value s, writer value = some s → Phrase runtime False s.toList)
    (h : WritersPhrased runtime node writers) : WritersPhrased runtime node ((name, writer) :: writers) :=
  List.forall_mem_cons.mpr ⟨⟨identifier, fun value s _ => phrases value s⟩, h⟩

theorem append {writers more : List (String × Writer)} (h : WritersPhrased runtime node writers)
    (k : WritersPhrased runtime node more) : WritersPhrased runtime node (writers ++ more) :=
  List.forall_mem_append.mpr ⟨h, k⟩

end WritersPhrased

section

variable (needed : node.isLocallyConst .empty = false → runtime)
include needed

theorem WritersPhrased.dynamic {name : String} {writer : Writer} {writers : List (String × Writer)}
    (identifier : isIdentifier name = true) (dynamic : isDynamicName name = true)
    (phrases : runtime → ∀ value s, writer value = some s → Phrase runtime False s.toList)
    (h : WritersPhrased runtime node writers) : WritersPhrased runtime node ((name, writer) :: writers) :=
  List.forall_mem_cons.mpr ⟨⟨identifier, fun value s given =>
    phrases (needed (Node.not_const_of_dynamic given dynamic)) value s⟩, h⟩

theorem named_phrased {writers : List (String × Writer)} (phrased : WritersPhrased runtime node writers) :
    ArgsPhrased runtime (node.named writers) := by
  intro arg member
  obtain ⟨⟨name, writer⟩, known, inside⟩ := List.mem_flatMap.mp member
  obtain ⟨s, found, rfl⟩ := Option.map_eq_some_iff.mp (Option.mem_toList.mp inside)
  obtain ⟨value, given, written⟩ := Option.bind_eq_some_iff.mp found
  obtain ⟨identifier, phrases⟩ := phrased (name, writer) known
  refine ⟨⟨identifier, ?_⟩, .text (phrases value s given written)⟩
  cases dynamic : isDynamicName name with
  | true => exact .inl (needed (Node.not_const_of_dynamic given dynamic))
  | false => exact .inr fun wrong => by cases wrong

omit needed in
theorem fields_phrased {writers : List (String × Writer)} (phrased : WritersPhrased runtime node writers)
    (static : ∀ name ∈ writers.map Prod.fst, isDynamicName name = false) :
    ∀ field ∈ node.fields writers, FieldPhrased runtime field := by
  intro field member
  obtain ⟨⟨name, writer⟩, known, inside⟩ := List.mem_flatMap.mp member
  obtain ⟨s, found, rfl⟩ := Option.map_eq_some_iff.mp (Option.mem_toList.mp inside)
  obtain ⟨value, given, written⟩ := Option.bind_eq_some_iff.mp found
  obtain ⟨identifier, phrases⟩ := phrased (name, writer) known
  exact ⟨identifier, .inr (static name (List.mem_map_of_mem known)), .text (phrases value s given written)⟩

end

theorem stub_phrase {text : String} (known : runtime) (member : text ∈ Dart.stubs) (value : Value) (s : String)
    (written : Writer.constant text value = some s) : Phrase runtime False s.toList := by
  cases written
  exact .stub known member

theorem word_writer {table : Dart.TokenTable} (known : table ∈ Dart.plainTables) (value : Value) (s : String)
    (written : Writer.word table value = some s) : Phrase runtime False s.toList :=
  Dart.phrase_of_map (Dart.word_phrase known) s written

theorem text_writer (value : Value) (s : String) (written : Writer.text value = some s) :
    Phrase runtime False s.toList :=
  Dart.phrase_of_map Dart.textLiteral_phrase s written

theorem always_writer {f : Value → String} (phrases : ∀ value, Phrase runtime False (f value).toList) (value : Value)
    (s : String) (written : Writer.always f value = some s) : Phrase runtime False s.toList := by
  cases written
  exact phrases value

theorem ifTruthy_writer {writer : Writer} (phrases : ∀ value s, writer value = some s → Phrase runtime False s.toList)
    (value : Value) (s : String) (written : writer.ifTruthy value = some s) : Phrase runtime False s.toList := by
  unfold Writer.ifTruthy at written
  split at written
  · exact phrases value s written
  · cases written

end WidgetSource
