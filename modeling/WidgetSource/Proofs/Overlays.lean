import WidgetSource.Config
import WidgetSource.Proofs.Histories

namespace WidgetSource

namespace Mapping

namespace Table

theorem lookup?_put (table : Table) (entry : Entry) (query : String) : (table.put entry).lookup? query =
    if entry.key = normalizeType query then some entry else table.lookup? query :=
  Fields.get?_set

def putAll (table : Table) (entries : List Entry) : Table :=
  entries.foldl (fun table entry => table.put entry) table

def insertAll (table : Table) (entries : List Entry) : Except InvalidEntry Table :=
  entries.foldlM (fun table entry => table.insert entry) table

theorem lookup?_putAll (table : Table) (entries : List Entry) (query : String) :
    (table.putAll entries).lookup? query =
      (entries.reverse.find? fun entry => entry.key = normalizeType query).or (table.lookup? query) := by
  induction entries generalizing table with
  | nil => rfl
  | cons entry entries ih =>
    rw [putAll, List.foldl_cons, ← putAll, ih, lookup?_put, List.reverse_cons, List.find?_append, Option.or_assoc]
    by_cases same : entry.key = normalizeType query <;> simp [same]

theorem insertAll_cons (table : Table) {entry : Entry} (entries : List Entry) (faultless : entry.fault? = none) :
    table.insertAll (entry :: entries) = (table.put entry).insertAll entries := by
  rw [insertAll, List.foldlM_cons, insert, faultless]
  rfl

theorem insertAll_eq_error (table : Table) {before after : List Entry} {entry : Entry} {fault : EntryFault}
    (faultless : ∀ earlier ∈ before, earlier.fault? = none) (faulty : entry.fault? = some fault) :
    table.insertAll (before ++ entry :: after) = .error ⟨entry.type, fault⟩ := by
  induction before generalizing table with
  | nil =>
    rw [List.nil_append, insertAll, List.foldlM_cons, insert, faulty]
    rfl
  | cons first before ih =>
    obtain ⟨here, later⟩ := List.forall_mem_cons.mp faultless
    rw [List.cons_append, insertAll_cons table _ here, ih _ later]

theorem insertAll_eq_ok_iff {table result : Table} {entries : List Entry} :
    table.insertAll entries = .ok result ↔
      (∀ entry ∈ entries, entry.fault? = none) ∧ table.putAll entries = result := by
  induction entries generalizing table with
  | nil => simp [insertAll, putAll, pure, Except.pure]
  | cons entry entries ih =>
    rw [List.forall_mem_cons, and_assoc]
    cases faulty : entry.fault? with
    | none =>
      rw [insertAll_cons table entries faulty, ih, putAll, putAll, List.foldl_cons]
      simp
    | some fault =>
      have refused : table.insertAll ([] ++ entry :: entries) = .error ⟨entry.type, fault⟩ :=
        insertAll_eq_error table (by simp) faulty
      rw [List.nil_append] at refused
      simp [refused]

end Table

end Mapping

open Mapping (Table Entry)

namespace MappingRecord

theorem withImports_eq (lines : List String) (entry : Entry) :
    lines.foldl (fun entry line => entry.withImport line) entry =
      { entry with imports := entry.imports ++ lines.filterMap Mapping.importAddress? } := by
  induction lines generalizing entry with
  | nil => simp
  | cons line lines ih =>
    rw [List.foldl_cons, ih, Entry.withImport, List.filterMap_cons]
    cases Mapping.importAddress? line <;> simp

theorem withTemplates_eq (templates : Fields String) (entry : Entry) :
    templates.foldl (fun entry (property, template) => entry.withTemplate property template) entry =
      { entry with templates :=
          templates.foldl (fun done (name, template) => Fields.set name template done) entry.templates } := by
  induction templates generalizing entry with
  | nil => rfl
  | cons template templates ih =>
    rw [List.foldl_cons, ih, List.foldl_cons]
    rfl

theorem entry_eq (record : MappingRecord) : record.entry =
    { type := record.type
      target := record.target
      templates := record.templates.foldl (fun done (name, template) => Fields.set name template done) []
      imports := ((Text.lines record.imports).filter (!Text.isBlank ·)).filterMap Mapping.importAddress?
      takesChildren := record.takesChildren } := by
  rw [entry]
  dsimp only
  rw [withImports_eq, withTemplates_eq]
  rfl

end MappingRecord

namespace Config

def entries (config : Config) : List Entry :=
  (config.mappings.filter (·.isActive)).map (·.entry)

theorem forall_mem_active {records : List MappingRecord} {P : Entry → Prop} :
    (∀ entry ∈ (records.filter (·.isActive)).map (·.entry), P entry) ↔
      ∀ record ∈ records, record.isActive = true → P record.entry := by
  simp only [List.forall_mem_map, List.mem_filter, and_imp]

theorem table_eq_insertAll (config : Config) : config.table = config.base.insertAll config.entries := by
  rw [entries, Table.insertAll, List.foldlM_map, List.foldlM_filter]
  rfl

theorem base_lookup? (config : Config) (query : String) : config.base.lookup? query =
    if config.includeDefaultMappings then Table.stock.lookup? query else none := by
  unfold base
  split <;> rfl

/-- The table of a configuration is there exactly if no active record is refused; otherwise the first one that is gives
the error. Under each type it has the entry of the last active record for it, or else the stock entry if these are asked
for. The entry has the type, target, templates and import addresses of its record, a repeated template in its first place
with its last text. Records that are not active make no difference. -/
theorem table_overlay (config : Config) :
    ((∃ table, config.table = .ok table) ↔
      ∀ record ∈ config.mappings, record.isActive = true → record.entry.fault? = none) ∧
    (∀ before record after fault, config.mappings = before ++ record :: after →
      (∀ earlier ∈ before, earlier.isActive = true → earlier.entry.fault? = none) →
      record.isActive = true → record.entry.fault? = some fault → config.table = .error ⟨record.type, fault⟩) ∧
    (∀ table, config.table = .ok table → ∀ query, table.lookup? query =
      ((config.mappings.reverse.find? fun record =>
        record.isActive ∧ normalizeType record.type = normalizeType query).map (·.entry)).or
      (if config.includeDefaultMappings then Table.stock.lookup? query else none)) ∧
    (∀ record : MappingRecord, record.entry =
      { type := record.type
        target := record.target
        templates := record.templates.foldl (fun done (name, template) => Fields.set name template done) []
        imports := ((Text.lines record.imports).filter (!Text.isBlank ·)).filterMap Mapping.importAddress?
        takesChildren := record.takesChildren }) ∧
    { config with mappings := config.mappings.filter (·.isActive) }.table = config.table := by
  have entryType (record : MappingRecord) : record.entry.type = record.type := by rw [record.entry_eq]
  refine ⟨?_, ?_, ?_, MappingRecord.entry_eq, ?_⟩
  · simp only [table_eq_insertAll, Table.insertAll_eq_ok_iff, exists_and_left, exists_eq', and_true]
    exact forall_mem_active
  · intro before record after fault split faultless active faulty
    rw [table_eq_insertAll, entries, split, List.filter_append, List.filter_cons_of_pos active, List.map_append,
      List.map_cons, ← entryType]
    exact Table.insertAll_eq_error _ (forall_mem_active.mpr faultless) faulty
  · intro table written query
    rw [table_eq_insertAll, Table.insertAll_eq_ok_iff] at written
    rw [← written.2, Table.lookup?_putAll, base_lookup?, entries, ← List.map_reverse, List.find?_map,
      ← List.filter_reverse, List.find?_filter]
    simp only [Function.comp_def, Entry.key, entryType, decide_eq_true_eq]
  · rw [table_eq_insertAll, table_eq_insertAll, entries, entries, List.filter_filter]
    simp only [Bool.and_self]
    rfl

end Config

end WidgetSource
