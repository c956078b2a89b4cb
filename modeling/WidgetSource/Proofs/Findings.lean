import WidgetSource.Proofs.Places
import WidgetSource.Proofs.TypeNames

namespace WidgetSource

namespace Diagnosis

def join (parts : List Diagnosis) : Diagnosis :=
  parts.foldr (· ++ ·) .none

@[simp]
theorem errors_append (d e : Diagnosis) : (d ++ e).errors = d.errors ++ e.errors := rfl

@[simp]
theorem warnings_append (d e : Diagnosis) : (d ++ e).warnings = d.warnings ++ e.warnings := rfl

theorem append_assoc (d e f : Diagnosis) : d ++ e ++ f = d ++ (e ++ f) :=
  congrArg₂ mk (List.append_assoc _ _ _) (List.append_assoc _ _ _)

theorem append_none (d : Diagnosis) : d ++ .none = d :=
  congrArg₂ mk (List.append_nil _) (List.append_nil _)

theorem join_append (parts more : List Diagnosis) : join (parts ++ more) = join parts ++ join more := by
  induction parts with
  | nil => rfl
  | cons part parts ih => exact (congrArg (part ++ ·) ih).trans (append_assoc _ _ _).symm

theorem errors_join (parts : List Diagnosis) : (join parts).errors = parts.flatMap (·.errors) := by
  induction parts with
  | nil => rfl
  | cons part parts ih => exact congrArg (part.errors ++ ·) ih

theorem warnings_join (parts : List Diagnosis) : (join parts).warnings = parts.flatMap (·.warnings) := by
  induction parts with
  | nil => rfl
  | cons part parts ih => exact congrArg (part.warnings ++ ·) ih

end Diagnosis

def remarksOnChildren (path : TreePath) (drops : Bool) : Option Json.Document → Diagnosis
  | none | some .null => .none
  | some (.list items) =>
    if drops && !items.isEmpty then .warning path (.childrenOmitted items.length) else .none
  | some _ => .error path .childrenNoList

namespace Json.Document

/-- What is to be said of a document at a place, apart from what is said of those below it. -/
def remarks (table : Mapping.Table) (path : TreePath) : Document → Diagnosis
  | .object fields =>
    diagnoseType table path (givenType? fields) ++ diagnoseProperties path (Fields.get? "properties" fields) ++
      remarksOnChildren path ((givenType? fields).any (dropsChildren table)) (Fields.get? "children" fields)
  | _ => .error path .noObject

variable {table : Mapping.Table}

theorem diagnose_eq (path : TreePath) (document : Document) :
    document.diagnose table path = document.remarks table path ++ diagnoseItems table path 0 document.childItems := by
  have children (drops : Bool) (fields : List (String × Document)) : diagnoseChildren table path drops fields =
      remarksOnChildren path drops (Fields.get? "children" fields) ++
        diagnoseItems table path 0 (childItems (.object fields)) := by
    induction fields with
    | nil => rfl
    | cons field fields ih =>
      obtain ⟨name, value⟩ := field
      by_cases here : name = "children"
      · cases value <;> simp only [diagnoseChildren, here, if_true, diagnoseList, childItems, Fields.get?] <;> rfl
      · rw [diagnoseChildren, if_neg here, ih, Fields.get?, if_neg here, childItems, childItems, Fields.get?,
          if_neg here]
  cases document with
  | object fields =>
    rw [diagnose, children, remarks]
    exact (Diagnosis.append_assoc _ _ _).symm
  | null | bool | number | text | list => exact (Diagnosis.append_none _).symm

/-- What is said of a document is what is said at each of its places. -/
theorem diagnose_eq_join (path : TreePath) (document : Document) : document.diagnose table path =
    Diagnosis.join (document.places.map fun place => place.2.remarks table (path ++ place.1)) := by
  induction document using induct generalizing path with
  | step document ih =>
    have items (index : Nat) {items : List Document} (each : ∀ item ∈ items, ∀ path, item.diagnose table path =
        Diagnosis.join (item.places.map fun place => place.2.remarks table (path ++ place.1))) :
        diagnoseItems table path index items =
          Diagnosis.join ((placesOfItems index items).map fun place => place.2.remarks table (path ++ place.1)) := by
      induction items generalizing index with
      | nil => rfl
      | cons item items rest =>
        obtain ⟨here, later⟩ := List.forall_mem_cons.mp each
        rw [diagnoseItems, here, rest (index + 1) later, placesOfItems, List.map_append, Diagnosis.join_append,
          List.map_map]
        simp only [Function.comp_def, Prod.map_fst, Prod.map_snd, id_eq, List.append_assoc, List.singleton_append]
    rw [diagnose_eq, items 0 ih, places_eq, List.map_cons, List.append_nil]
    rfl

end Json.Document

theorem diagnose_errors (table : Mapping.Table) (document : Json.Document) :
    (diagnose table document).errors =
      document.places.flatMap fun place => (place.2.remarks table place.1).errors := by
  rw [diagnose, Json.Document.diagnose_eq_join, Diagnosis.errors_join, List.flatMap_map]
  rfl

theorem diagnose_warnings (table : Mapping.Table) (document : Json.Document) :
    (diagnose table document).warnings =
      document.places.flatMap fun place => (place.2.remarks table place.1).warnings := by
  rw [diagnose, Json.Document.diagnose_eq_join, Diagnosis.warnings_join, List.flatMap_map]
  rfl

theorem typeOrDefault_eq (type : String) : typeOrDefault type = if Text.trim type = "" then defaultType else type := by
  rw [typeOrDefault, if_congr Text.trim_eq_empty_iff rfl rfl]

theorem givenType?_eq_some_iff {fields : Fields Json.Document} {type : String} : givenType? fields = some type ↔
    ∃ given, Fields.get? "type" fields = some (.text given) ∧ Text.trim given = type ∧ type ≠ "" := by
  unfold givenType?
  cases found : Fields.get? "type" fields with
  | none => simp
  | some value =>
    cases value with
    | text given =>
      simp only [Option.bind_some, Json.Document.text?, Option.map_some, Option.filter_eq_some_iff, Option.some.injEq,
        Json.Document.text.injEq, bne_iff_ne, exists_eq_left']
    | null | bool | number | list | object => simp [Json.Document.text?]

theorem givenType?_eq_none_iff {fields : Fields Json.Document} : givenType? fields = none ↔
    ∀ given, Fields.get? "type" fields = some (.text given) → Text.trim given = "" := by
  rw [Option.eq_none_iff_forall_ne_some]
  constructor
  · intro none given found
    by_contra filled
    exact none _ (givenType?_eq_some_iff.mpr ⟨given, found, rfl, filled⟩)
  · intro blank type some
    obtain ⟨given, found, rfl, filled⟩ := givenType?_eq_some_iff.mp some
    exact filled (blank given found)

end WidgetSource
