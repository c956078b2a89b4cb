import WidgetSource.Proofs.Findings
import Mathlib.Data.List.Nodup

/-!
# Repairs

A document is without errors exactly if it is a widget tree as it stands. Where it is not, each error leads to a
document that lacks something, and the errors that tell of a missing type or of a missing widget are as many as the
types that the reading of the tree supplies.
-/
namespace WidgetSource

/-- An object with a type that is not blank, whose children, if there are any, are well formed too. -/
inductive Json.Document.WellFormed : Document → Prop
  | alone {fields : Fields Document} {type : String} : Fields.get? "type" fields = some (.text type) →
      Text.trim type ≠ "" → Fields.get? "children" fields = none ∨ Fields.get? "children" fields = some .null →
      WellFormed (.object fields)
  | parent {fields : Fields Document} {type : String} {items : List Document} :
      Fields.get? "type" fields = some (.text type) → Text.trim type ≠ "" →
      Fields.get? "children" fields = some (.list items) → (∀ item ∈ items, WellFormed item) →
      WellFormed (.object fields)

def TreeError.Describes : TreeError → Json.Document → Prop
  | .noObject, document => ∀ fields, document ≠ .object fields
  | .noType, document => ∃ fields, document = .object fields ∧
      ∀ type, Fields.get? "type" fields = some (.text type) → Text.trim type = ""
  | .childrenNoList, document => ∃ fields children, document = .object fields ∧
      Fields.get? "children" fields = some children ∧ children ≠ .null ∧ ∀ items, children ≠ .list items

namespace Json.Document

variable {document item : Document} {fields : Fields Document} {error : TreeError} {path : TreePath}

def typeFaults (fields : Fields Document) : List TreeError :=
  if givenType? fields = none then [.noType] else []

def childrenFaults : Option Document → List TreeError
  | none | some .null | some (.list _) => []
  | some _ => [.childrenNoList]

def faults : Document → List TreeError
  | .object fields => typeFaults fields ++ childrenFaults (Fields.get? "children" fields)
  | _ => [.noObject]

theorem mem_typeFaults : error ∈ typeFaults fields ↔ error = .noType ∧ givenType? fields = none := by
  unfold typeFaults
  split <;> simp_all

theorem mem_childrenFaults {children : Option Document} : error ∈ childrenFaults children ↔
    error = .childrenNoList ∧ ∃ value, children = some value ∧ value ≠ .null ∧ ∀ items, value ≠ .list items := by
  cases children with
  | none => simp [childrenFaults]
  | some value => cases value <;> simp [childrenFaults]

theorem remarks_errors (table : Mapping.Table) (path : TreePath) (document : Document) :
    (document.remarks table path).errors = document.faults.map fun error => (path, error) := by
  cases document with
  | object fields =>
    have type : (diagnoseType table path (givenType? fields)).errors =
        (typeFaults fields).map fun error => (path, error) := by
      unfold typeFaults
      cases givenType? fields with
      | none => rfl
      | some type =>
        simp only [diagnoseType, Diagnosis.errors_append]
        split <;> split <;> rfl
    have properties : (diagnoseProperties path (Fields.get? "properties" fields)).errors = [] := by
      unfold diagnoseProperties
      split <;> rfl
    have children (drops : Bool) (children : Option Document) : (remarksOnChildren path drops children).errors =
        (childrenFaults children).map fun error => (path, error) := by
      cases children with
      | none => rfl
      | some value =>
        cases value with
        | list items =>
          simp only [remarksOnChildren]
          split <;> rfl
        | null | bool | number | text | object => rfl
    rw [remarks, faults, Diagnosis.errors_append, Diagnosis.errors_append, type, properties, List.append_nil,
      List.map_append, children]
  | null | bool | number | text | list => rfl

theorem mem_faults : error ∈ document.faults ↔ error.Describes document := by
  cases document with
  | object fields =>
    rw [faults, List.mem_append, mem_typeFaults, mem_childrenFaults, givenType?_eq_none_iff]
    cases error <;> simp [TreeError.Describes]
  | null | bool | number | text | list => cases error <;> simp [faults, TreeError.Describes]

theorem faults_nodup (document : Document) : document.faults.Nodup := by
  cases document with
  | object fields =>
    have once : (typeFaults fields).Nodup := by
      unfold typeFaults
      split <;> decide
    have listed : (childrenFaults (Fields.get? "children" fields)).Nodup := by
      unfold childrenFaults
      split <;> simp
    refine List.nodup_append.mpr ⟨once, listed, ?_⟩
    rintro first here second there rfl
    have untyped := (mem_typeFaults.mp here).1
    rw [(mem_childrenFaults.mp there).1] at untyped
    cases untyped
  | null | bool | number | text | list => exact List.nodup_singleton _

theorem faults_object : faults (.object fields) = [] ↔
    (∃ type, givenType? fields = some type) ∧ childrenFaults (Fields.get? "children" fields) = [] := by
  rw [faults, List.append_eq_nil_iff, typeFaults, ite_eq_right_iff, ← Option.ne_none_iff_exists']
  simp

theorem wellFormed_iff :
    document.WellFormed ↔ document.faults = [] ∧ ∀ item ∈ document.childItems, item.WellFormed := by
  constructor
  · intro wellFormed
    cases wellFormed with
    | alone type filled none =>
      have given := givenType?_eq_some_iff.mpr ⟨_, type, rfl, filled⟩
      refine ⟨faults_object.mpr ⟨⟨_, given⟩, ?_⟩, ?_⟩ <;> rcases none with none | none <;>
        simp [childrenFaults, childItems, none]
    | parent type filled list each =>
      have given := givenType?_eq_some_iff.mpr ⟨_, type, rfl, filled⟩
      refine ⟨faults_object.mpr ⟨⟨_, given⟩, by rw [list, childrenFaults]⟩, ?_⟩
      simpa [childItems, list] using each
  · rintro ⟨faultless, each⟩
    cases document with
    | object fields =>
      obtain ⟨⟨_, given⟩, listed⟩ := faults_object.mp faultless
      obtain ⟨type, found, rfl, filled⟩ := givenType?_eq_some_iff.mp given
      cases children : Fields.get? "children" fields with
      | none => exact .alone found filled (.inl children)
      | some value =>
        cases value with
        | null => exact .alone found filled (.inr children)
        | list items => exact .parent found filled children (by simpa [childItems, children] using each)
        | bool | number | text | object => simp [childrenFaults, children] at listed
    | null | bool | number | text | list => cases faultless

theorem wellFormed_iff_places : document.WellFormed ↔ ∀ place ∈ document.places, place.2.faults = [] := by
  induction document using induct with
  | step document ih =>
    rw [wellFormed_iff, places_eq, List.forall_mem_cons]
    refine and_congr_right fun _ => ?_
    constructor
    · rintro each ⟨path, inner⟩ member
      obtain ⟨index, rest, item, _, found, inside⟩ := mem_placesOfItems.mp member
      have known := List.mem_of_getElem? found
      exact (ih item known).mp (each item known) (rest, inner) inside
    · intro faultless item known
      obtain ⟨index, found⟩ := List.mem_iff_getElem?.mp known
      rw [ih item known]
      rintro ⟨rest, inner⟩ inside
      exact faultless ((0 + index) :: rest, inner) (mem_placesOfItems.mpr ⟨index, rest, item, rfl, found, inside⟩)

def typeText? (path : TreePath) (document : Document) : Option String :=
  (document.at? path).bind fun item => (item.field? "type").bind text?

/-- The widget has the default type, and the document does not say so. -/
def isSupplied (document : Document) (place : TreePath × Node) : Bool :=
  place.2.type == defaultType && document.typeText? place.1 != some defaultType

def tellsOfType (error : TreeError) : Bool :=
  error.message == "missing widget type" || error.message == "expected a widget object"

theorem countP_childrenFaults (children : Option Document) : (childrenFaults children).countP tellsOfType = 0 := by
  rw [List.countP_eq_zero]
  intro error member
  rw [(mem_childrenFaults.mp member).1]
  decide

theorem countP_faults (found : document.at? path = some item) :
    item.faults.countP tellsOfType = if document.isSupplied (path, item.node) then 1 else 0 := by
  rw [isSupplied, typeText?, found, Option.bind_some]
  cases item with
  | object fields =>
    rw [faults, List.countP_append, countP_childrenFaults, Nat.add_zero, typeFaults, givenType?, field?, node]
    cases given : (Fields.get? "type" fields).bind text? with
    | none => rfl
    | some type =>
      simp only [Option.map_some, Option.getD_some, typeOrDefault_eq, Option.filter_eq_none_iff]
      -- The default is not blank itself, so a document that gives it is told from one that leaves it out.
      by_cases blank : Text.trim type = ""
      · have other : type ≠ defaultType := by
          rintro rfl
          exact absurd blank (by decide)
        simp [blank, other]
        decide
      · simp [blank]
  | null | bool | number | text | list => rfl

end Json.Document

theorem countP_flatMap_of_each {α β : Type} {p : β → Bool} {q : α → Bool} {f : α → List β} {items : List α}
    (each : ∀ item ∈ items, (f item).countP p = if q item then 1 else 0) :
    (items.flatMap f).countP p = items.countP q := by
  induction items with
  | nil => rfl
  | cons item items ih =>
    obtain ⟨here, later⟩ := List.forall_mem_cons.mp each
    rw [List.flatMap_cons, List.countP_append, here, ih later, List.countP_cons, Nat.add_comm]

theorem diagnose_errors_eq (table : Mapping.Table) (document : Json.Document) : (diagnose table document).errors =
    document.places.flatMap fun place => place.2.faults.map fun error => (place.1, error) := by
  simp only [diagnose_errors, Json.Document.remarks_errors]

theorem mem_diagnose_errors {table : Mapping.Table} {document : Json.Document} {path : TreePath} {error : TreeError} :
    (path, error) ∈ (diagnose table document).errors ↔
      ∃ item, document.at? path = some item ∧ error.Describes item := by
  rw [diagnose_errors_eq, List.mem_flatMap]
  constructor
  · rintro ⟨⟨path, item⟩, inside, member⟩
    obtain ⟨error, fault, same⟩ := List.mem_map.mp member
    cases same
    exact ⟨item, Json.Document.mem_places.mp inside, Json.Document.mem_faults.mp fault⟩
  · rintro ⟨item, found, describes⟩
    have fault := Json.Document.mem_faults.mpr describes
    exact ⟨(path, item), Json.Document.mem_places.mpr found, List.mem_map.mpr ⟨error, fault, rfl⟩⟩

theorem isValid_iff {table : Mapping.Table} {document : Json.Document} :
    (diagnose table document).isValid = true ↔ document.WellFormed := by
  rw [Json.Document.wellFormed_iff_places, Diagnosis.isValid, List.isEmpty_iff, diagnose_errors_eq,
    List.flatMap_eq_nil_iff]
  simp only [List.map_eq_nil_iff]

theorem diagnose_errors_supplied (table : Mapping.Table) (document : Json.Document) :
    (diagnose table document).errors.countP (fun found => Json.Document.tellsOfType found.2) =
      document.node.places.countP document.isSupplied := by
  rw [diagnose_errors_eq, Json.Document.node_places, List.countP_map]
  refine countP_flatMap_of_each fun place member => ?_
  rw [List.countP_map]
  exact Json.Document.countP_faults (Json.Document.mem_places.mp member)

theorem diagnose_errors_ordered (table : Mapping.Table) (document : Json.Document) :
    (diagnose table document).errors.Pairwise fun first second =>
      first.1 < second.1 ∨ first.1 = second.1 ∧ first.2 ≠ second.2 := by
  rw [diagnose_errors_eq, List.pairwise_flatMap]
  constructor
  · intro place _
    rw [List.pairwise_map]
    exact (Json.Document.faults_nodup place.2).imp fun other => .inr ⟨rfl, other⟩
  · refine (Json.Document.places_ascending document).imp fun {first second} before => ?_
    intro here member there behind
    obtain ⟨_, _, rfl⟩ := List.mem_map.mp member
    obtain ⟨_, _, rfl⟩ := List.mem_map.mp behind
    exact .inl before

/-- Errors tell what is wrong at their places, in the order of the document, and nothing else is wrong. -/
theorem diagnose_errors_match_repairs (table : Mapping.Table) (document : Json.Document) :
    ((diagnose table document).isValid = true ↔ document.WellFormed) ∧
    (diagnose table document).errors.countP (fun found => Json.Document.tellsOfType found.2) =
      document.node.places.countP document.isSupplied ∧
    ((diagnose table document).errors.Pairwise fun first second =>
      first.1 < second.1 ∨ first.1 = second.1 ∧ first.2 ≠ second.2) ∧
    ∀ (path : TreePath) (error : TreeError), (path, error) ∈ (diagnose table document).errors ↔
      ∃ item, document.atText? path.print = some item ∧ error.Describes item := by
  refine ⟨isValid_iff, diagnose_errors_supplied table document, diagnose_errors_ordered table document, ?_⟩
  intro path error
  rw [mem_diagnose_errors, Json.Document.atText?, TreePath.read?_print, Option.bind_some]

end WidgetSource
