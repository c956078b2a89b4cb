import WidgetSource.Proofs.Findings
import WidgetSource.Proofs.Constness

/-!
# Warnings and what is written

A widget of a document is said to lose its children exactly if it has some and is written without them, and to be of an
unknown type exactly if it is written under its own type because nothing else is known of it.
-/
namespace WidgetSource

open Argument (treeItems)

variable {table : Mapping.Table}

/-- The widget has no place for children: its kind takes none, or it has no form of its own and its entry says that it
takes none. -/
def Node.LosesChildren (table : Mapping.Table) (node : Node) : Prop :=
  node.kind.cardinality = .leaf ∨
    node.kind = .generic ∧ ∃ entry, table.lookup? node.type = some entry ∧ entry.takesChildren = false

def Node.IsUnmapped (table : Mapping.Table) (node : Node) : Prop :=
  node.kind = .generic ∧ table.lookup? node.type = none

theorem dropsChildren_iff {node : Node} : dropsChildren table node.type = true ↔ node.LosesChildren table := by
  have same : Kind.ofType node.type = node.kind := rfl
  unfold dropsChildren Node.LosesChildren
  rw [same]
  cases kind : node.kind with
  | generic =>
    unfold takesChildren
    cases table.lookup? node.type <;> simp [Kind.cardinality]
  | _ => simp

theorem dropsChildren_trim (table : Mapping.Table) (type : String) :
    dropsChildren table (Text.trim type) = dropsChildren table type := by
  simp only [dropsChildren, takesChildren, Mapping.Table.lookup?, Kind.ofType_trim, normalizeType_trim]

theorem Node.isUnmapped_iff_trim {node : Node} : node.IsUnmapped table ↔
    Kind.ofType (Text.trim node.type) = .generic ∧ table.lookup? (Text.trim node.type) = none := by
  rw [Mapping.Table.lookup?, Kind.ofType_trim, normalizeType_trim]
  rfl

theorem Node.not_unmapped_of_default {node : Node} (default : node.type = defaultType) : ¬ node.IsUnmapped table := by
  have named : Kind.ofType defaultType = .container := by decide
  rw [IsUnmapped, kind, default, named]
  exact fun unmapped => Kind.noConfusion unmapped.1

theorem Node.formAt_children (options : Options) (table : Mapping.Table) (level : Nat) (node : Node) :
    let form := node.formAt options table level
    (node.LosesChildren table → form.dropped = node.children ∧ form.allArgs.flatMap treeItems = []) ∧
      (¬ node.LosesChildren table → form.dropped = [] ∧ (form.allArgs.flatMap treeItems).Perm node.children) := by
  have slots := (Form.ofKind_slotted node (fun expr => expr.render options.layout (level + 1)) table).tree_perm
  dsimp only [formAt]
  rw [form_allArgs, form_dropped, ← dropsChildren_iff]
  constructor
  · intro drops
    rw [if_pos drops] at slots ⊢
    exact ⟨rfl, slots.eq_nil⟩
  · intro keeps
    rw [if_neg keeps] at slots ⊢
    exact ⟨rfl, slots⟩

theorem Node.formAt_target_of_unmapped (options : Options) (level : Nat) {node : Node}
    (unmapped : node.IsUnmapped table) : (node.formAt options table level).target = Text.trim node.type := by
  rw [formAt, form_target, unmapped.1]
  simp only [Form.ofKind, Form.mapped, genericTarget, unmapped.2, Option.map_none, Option.getD_none]

theorem intText_injective {n m : Nat} (same : intText n = intText m) : n = m := by
  rw [← natOfDigits_natDigits n, ← natOfDigits_natDigits m, ← intText_toList, ← intText_toList, same]

namespace TreeWarning

theorem message_omitted (count : Nat) :
    (childrenOmitted count).message = "widget cannot have children, " ++ intText count ++ " will be omitted" := rfl

theorem message_unmapped (type : String) :
    (unmapped type).message = "no mapping for widget type '" ++ type ++ "'" := rfl

def initial : TreeWarning → Char
  | .deprecated .. => '\''
  | .unmapped _ => 'n'
  | .propertiesNoObject => 'p'
  | .childrenOmitted _ => 'w'

theorem message_initial (warning : TreeWarning) : warning.message.toList.head? = some warning.initial := by
  have begins {start : String} (rest : String) {c : Char} (first : start.toList.head? = some c) :
      (start ++ rest).toList.head? = some c := by
    rw [String.toList_append, List.head?_append, first]
    rfl
  cases warning with
  | deprecated type replacement =>
    have quoted : "'".toList.head? = some '\'' := rfl
    exact begins _ (begins _ (begins _ (begins _ quoted)))
  | unmapped type =>
    have quoted : "no mapping for widget type '".toList.head? = some 'n' := rfl
    exact begins _ (begins _ quoted)
  | propertiesNoObject => rfl
  | childrenOmitted count =>
    have known : "widget cannot have children, ".toList.head? = some 'w' := rfl
    exact begins _ (begins _ known)

theorem eq_omitted_of_message {warning : TreeWarning} {count : Nat}
    (same : warning.message = (childrenOmitted count).message) : warning = .childrenOmitted count := by
  have begins := congrArg (·.toList.head?) same
  simp only [message_initial, Option.some.injEq] at begins
  cases warning with
  | childrenOmitted other =>
    rw [message_omitted, message_omitted] at same
    have counts : intText other = intText count := by simpa using same
    rw [intText_injective counts]
  | deprecated | unmapped | propertiesNoObject => cases begins

theorem eq_unmapped_of_message {warning : TreeWarning} {type : String}
    (same : warning.message = (unmapped type).message) : warning = .unmapped type := by
  have begins := congrArg (·.toList.head?) same
  simp only [message_initial, Option.some.injEq] at begins
  cases warning with
  | unmapped other =>
    rw [message_unmapped, message_unmapped] at same
    exact congrArg unmapped (by simpa using same)
  | deprecated | childrenOmitted | propertiesNoObject => cases begins

end TreeWarning

def Diagnosis.KeepsTo (path : TreePath) (diagnosis : Diagnosis) : Prop :=
  ∀ found ∈ diagnosis.warnings, found.1 = path

namespace Diagnosis.KeepsTo

theorem none (path : TreePath) : Diagnosis.none.KeepsTo path :=
  fun _ member => absurd member List.not_mem_nil

theorem error (path : TreePath) (error : TreeError) : (Diagnosis.error path error).KeepsTo path :=
  fun _ member => absurd member List.not_mem_nil

theorem warning (path : TreePath) (warning : TreeWarning) : (Diagnosis.warning path warning).KeepsTo path :=
  fun _ member => congrArg Prod.fst (List.mem_singleton.mp member)

theorem append {path : TreePath} {first second : Diagnosis} (one : first.KeepsTo path) (two : second.KeepsTo path) :
    (first ++ second).KeepsTo path :=
  fun found member => (List.mem_append.mp member).elim (one found) (two found)

end Diagnosis.KeepsTo

namespace Json.Document

variable {document : Document} {fields : Fields Document} {path : TreePath}

theorem node_type_of_given {type : String} (given : givenType? fields = some type) :
    Text.trim (node (.object fields)).type = type := by
  obtain ⟨text, found, rfl, filled⟩ := givenType?_eq_some_iff.mp given
  rw [node, found, Option.bind_some, text?, Option.getD_some, typeOrDefault_eq, if_neg filled]

theorem node_type_of_not_given (missing : givenType? fields = none) : (node (.object fields)).type = defaultType := by
  rw [node, typeOrDefault_eq]
  cases given : (Fields.get? "type" fields).bind text? with
  | none => rfl
  | some text =>
    obtain ⟨value, found, isText⟩ := Option.bind_eq_some_iff.mp given
    cases value <;> cases isText
    exact if_pos (givenType?_eq_none_iff.mp missing _ found)

theorem any_dropsChildren (table : Mapping.Table) (fields : Fields Document) :
    (givenType? fields).any (dropsChildren table) = dropsChildren table (node (.object fields)).type := by
  cases given : givenType? fields with
  | none =>
    -- The default type keeps its children, whatever the table says of it.
    rw [node_type_of_not_given given]
    rfl
  | some type => rw [Option.any_some, ← node_type_of_given given, dropsChildren_trim]

theorem omitted_not_mem_typeWarnings {given : Option String} {count : Nat} :
    (path, .childrenOmitted count) ∉ (diagnoseType table path given).warnings := by
  cases given with
  | none => exact List.not_mem_nil
  | some type =>
    rw [diagnoseType, Diagnosis.warnings_append, List.mem_append]
    rintro (deprecated | unmapped)
    · split at deprecated <;> simp [Diagnosis.warning, Diagnosis.none] at deprecated
    · split at unmapped <;> simp [Diagnosis.warning, Diagnosis.none] at unmapped

theorem unmapped_mem_typeWarnings {given : Option String} {type : String} :
    (path, .unmapped type) ∈ (diagnoseType table path given).warnings ↔
      given = some type ∧ Kind.ofType type = .generic ∧ table.lookup? type = none := by
  cases given with
  | none => simp [diagnoseType, Diagnosis.error]
  | some name =>
    rw [diagnoseType, Diagnosis.warnings_append, List.mem_append, Mapping.Table.contains, Kind.isNamed]
    constructor
    · rintro (deprecated | unmapped)
      · split at deprecated <;> simp [Diagnosis.warning, Diagnosis.none] at deprecated
      · split at unmapped
        · rename_i unknown
          cases List.mem_singleton.mp unmapped
          exact ⟨rfl, by simpa using unknown⟩
        · cases unmapped
    · rintro ⟨same, generic, missing⟩
      cases same
      exact .inr (by simp [generic, missing, Diagnosis.warning])

theorem eq_of_mem_propertyWarnings {properties : Option Document} {warning : TreeWarning}
    (member : (path, warning) ∈ (diagnoseProperties path properties).warnings) : warning = .propertiesNoObject := by
  unfold diagnoseProperties at member
  split at member
  · cases member
  · cases member
  · cases member
  · cases List.mem_singleton.mp member
    rfl

theorem mem_childrenWarnings {drops : Bool} {warning : TreeWarning} :
    (path, warning) ∈ (remarksOnChildren path drops (Fields.get? "children" fields)).warnings ↔
      drops = true ∧ 0 < (childItems (.object fields)).length ∧
        warning = .childrenOmitted (childItems (.object fields)).length := by
  rw [childItems]
  cases Fields.get? "children" fields with
  | none => simp [remarksOnChildren, Diagnosis.none]
  | some children =>
    cases children with
    | list items => cases items <;> cases drops <;> simp [remarksOnChildren, Diagnosis.warning, Diagnosis.none]
    | null | bool | number | text | object => simp [remarksOnChildren, Diagnosis.error, Diagnosis.none]

theorem remarks_keepsTo (path : TreePath) (document : Document) : (document.remarks table path).KeepsTo path := by
  have type (given : Option String) : (diagnoseType table path given).KeepsTo path := by
    cases given with
    | none => exact .error _ _
    | some type =>
      refine .append ?_ ?_
      · split
        · exact .warning _ _
        · exact .none _
      · split
        · exact .warning _ _
        · exact .none _
  have properties (given : Option Document) : (diagnoseProperties path given).KeepsTo path := by
    unfold diagnoseProperties
    split
    · exact .none _
    · exact .none _
    · exact .none _
    · exact .warning _ _
  have children (drops : Bool) (given : Option Document) : (remarksOnChildren path drops given).KeepsTo path := by
    unfold remarksOnChildren
    split
    · exact .none _
    · exact .none _
    · split
      · exact .warning _ _
      · exact .none _
    · exact .error _ _
  cases document with
  | object fields => exact ((type _).append (properties _)).append (children _ _)
  | null | bool | number | text | list => exact .error _ _

theorem mem_warnings {warning : TreeWarning} (other : warning ≠ .propertiesNoObject) :
    (path, warning) ∈ (remarks table path (.object fields)).warnings ↔
      (path, warning) ∈ (diagnoseType table path (givenType? fields)).warnings ∨
        (path, warning) ∈ (remarksOnChildren path ((givenType? fields).any (dropsChildren table))
          (Fields.get? "children" fields)).warnings := by
  rw [remarks, Diagnosis.warnings_append, Diagnosis.warnings_append, List.mem_append, List.mem_append,
    or_iff_left fun member => other (eq_of_mem_propertyWarnings member)]

theorem omitted_mem_warnings {count : Nat} :
    (path, .childrenOmitted count) ∈ (document.remarks table path).warnings ↔
      document.node.children.length = count ∧ 0 < count ∧ document.node.LosesChildren table := by
  rw [node_children, List.length_map, ← dropsChildren_iff]
  cases document with
  | object fields =>
    rw [mem_warnings TreeWarning.noConfusion, or_iff_right omitted_not_mem_typeWarnings, mem_childrenWarnings,
      any_dropsChildren]
    constructor
    · rintro ⟨drops, some, same⟩
      cases same
      exact ⟨rfl, some, drops⟩
    · rintro ⟨rfl, some, drops⟩
      exact ⟨drops, some, rfl⟩
  | null | bool | number | text | list =>
    simp only [remarks, Diagnosis.error, childItems, List.length_nil, List.not_mem_nil, false_iff]
    rintro ⟨rfl, more, _⟩
    cases more

theorem unmapped_mem_warnings {type : String} :
    (path, .unmapped type) ∈ (document.remarks table path).warnings ↔
      Text.trim document.node.type = type ∧ document.node.IsUnmapped table := by
  cases document with
  | object fields =>
    have elsewhere : (path, .unmapped type) ∉ (remarksOnChildren path ((givenType? fields).any (dropsChildren table))
        (Fields.get? "children" fields)).warnings := fun member => by
      cases (mem_childrenWarnings.mp member).2.2
    rw [mem_warnings TreeWarning.noConfusion, or_iff_left elsewhere, unmapped_mem_typeWarnings]
    cases given : givenType? fields with
    | none =>
      have known : ¬ (node (.object fields)).IsUnmapped table :=
        Node.not_unmapped_of_default (node_type_of_not_given given)
      simp [known]
    | some name =>
      rw [← node_type_of_given given, Node.isUnmapped_iff_trim, Option.some.injEq]
      exact and_congr_right fun same => by rw [same]
  | null | bool | number | text | list =>
    have known : ¬ (Node.ofType defaultType).IsUnmapped table := Node.not_unmapped_of_default rfl
    simp [remarks, Diagnosis.error, node, known]

end Json.Document

def Diagnosis.printedWarnings (diagnosis : Diagnosis) : List (String × String) :=
  diagnosis.warnings.map fun found => (found.1.print, found.2.message)

theorem mem_printedWarnings {document : Json.Document} {path : TreePath} {warning : TreeWarning} {Tells : Node → Prop}
    (only : ∀ other : TreeWarning, other.message = warning.message → other = warning)
    (here : ∀ item : Json.Document, (path, warning) ∈ (item.remarks table path).warnings ↔ Tells item.node) :
    (path.print, warning.message) ∈ (diagnose table document).printedWarnings ↔
      ∃ node, (path, node) ∈ document.node.places ∧ Tells node := by
  rw [Diagnosis.printedWarnings, diagnose_warnings, List.mem_map]
  constructor
  · rintro ⟨⟨there, other⟩, member, same⟩
    obtain ⟨⟨place, item⟩, inside, found⟩ := List.mem_flatMap.mp member
    obtain ⟨printed, message⟩ := Prod.mk.inj same
    cases TreePath.print_injective printed
    cases item.remarks_keepsTo place _ found
    rw [only other message] at found
    exact ⟨item.node, Json.Document.mem_node_places.mpr ⟨item, Json.Document.mem_places.mp inside, rfl⟩,
      (here item).mp found⟩
  · rintro ⟨node, inside, tells⟩
    obtain ⟨item, found, rfl⟩ := Json.Document.mem_node_places.mp inside
    have place := Json.Document.mem_places.mpr found
    exact ⟨(path, warning), List.mem_flatMap.mpr ⟨(path, item), place, (here item).mpr tells⟩, rfl⟩

/-- What is warned of comes true wherever the widget is written, and nothing else of the kind does. -/
theorem diagnose_warnings_predict (options : Options) (table : Mapping.Table) (document : Json.Document)
    (path : TreePath) :
    let report := (diagnose table document).printedWarnings
    (∀ count : Nat, (path.print, "widget cannot have children, " ++ intText count ++ " will be omitted") ∈ report ↔
      ∃ node, (path, node) ∈ document.node.places ∧ node.children.length = count ∧ 0 < count ∧
        node.LosesChildren table) ∧
    (∀ type : String, (path.print, "no mapping for widget type '" ++ type ++ "'") ∈ report ↔
      ∃ node, (path, node) ∈ document.node.places ∧ Text.trim node.type = type ∧ node.IsUnmapped table) ∧
    ∀ node, (path, node) ∈ document.node.places → ∀ depth level,
      (node.LosesChildren table → (node.formAt options table level).dropped = node.children ∧
        (node.formAt options table level).allArgs.flatMap treeItems = []) ∧
      (¬ node.LosesChildren table → (node.formAt options table level).dropped = [] ∧
        ((node.formAt options table level).allArgs.flatMap treeItems).Perm node.children) ∧
      (node.IsUnmapped table → ∃ constant positional args,
        (node.render options table depth level).expr = .call constant (Text.trim node.type) positional args) := by
  intro report
  refine ⟨fun count => ?_, fun type => ?_, fun node _ depth level => ⟨?_, ?_, ?_⟩⟩
  · exact mem_printedWarnings (fun _ => TreeWarning.eq_omitted_of_message)
      fun _ => Json.Document.omitted_mem_warnings
  · exact mem_printedWarnings (fun _ => TreeWarning.eq_unmapped_of_message)
      fun _ => Json.Document.unmapped_mem_warnings
  · exact (node.formAt_children options table level).1
  · exact (node.formAt_children options table level).2
  · intro unmapped
    rw [node.render_expr options table depth level, Node.formAt_target_of_unmapped options level unmapped]
    exact ⟨_, _, _, rfl⟩

end WidgetSource
