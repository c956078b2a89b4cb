import WidgetSource.Mapping.Table
import WidgetSource.Proofs.Trees
import WidgetSource.Widget.Embedded

/-!
# Histories of mapping tables

A table holds what its history left there. Under each type that is the entry that came in last, if the type has not been
taken out since, and the types stand in the order in which they came in to stay.
-/
namespace WidgetSource

namespace Fields

variable {α : Type} {name other : String} {a : α} {fields : Fields α}

theorem get?_set : get? other (set name a fields) = if name = other then some a else get? other fields := by
  induction fields with
  | nil => rfl
  | cons field rest ih =>
    obtain ⟨first, b⟩ := field
    rw [set]
    split
    · rename_i same
      subst same
      by_cases here : first = other <;> simp [get?, here]
    · rename_i different
      rw [get?, get?, ih]
      by_cases here : first = other
      · rw [if_pos here, if_pos here, if_neg]
        exact fun same => different (here.trans same.symm)
      · rw [if_neg here, if_neg here]

theorem names_set_of_mem (member : name ∈ names fields) : names (set name a fields) = names fields := by
  induction fields with
  | nil => cases member
  | cons field rest ih =>
    obtain ⟨first, b⟩ := field
    rw [set]
    split
    · rfl
    · rename_i different
      have later : name ∈ names rest := (List.mem_cons.mp member).resolve_left (Ne.symm different)
      exact congrArg (first :: ·) (ih later)

theorem names_set_of_not_mem (missing : name ∉ names fields) : names (set name a fields) = names fields ++ [name] := by
  induction fields with
  | nil => rfl
  | cons field rest ih =>
    obtain ⟨first, b⟩ := field
    obtain ⟨different, missing⟩ := List.ne_and_not_mem_of_not_mem_cons missing
    rw [set, if_neg (Ne.symm different)]
    exact congrArg (first :: ·) (ih missing)

theorem names_erase : names (erase name fields) = (names fields).erase name := by
  induction fields with
  | nil => rfl
  | cons field rest ih =>
    obtain ⟨first, b⟩ := field
    rw [erase]
    split
    · rename_i same
      rw [same]
      exact (List.erase_cons_head name (names rest)).symm
    · rename_i different
      have kept := List.erase_cons_tail (l := names rest) (a := name) (b := first) (by simpa using different)
      exact (congrArg (first :: ·) ih).trans kept.symm

theorem get?_erase (once : (names fields).Nodup) :
    get? other (erase name fields) = if name = other then none else get? other fields := by
  induction fields with
  | nil => simp [erase, get?]
  | cons field rest ih =>
    obtain ⟨first, b⟩ := field
    obtain ⟨apart, later⟩ := List.nodup_cons.mp once
    rw [erase]
    split
    · rename_i same
      subst same
      by_cases here : first = other
      · rw [if_pos here, ← here, get?_eq_none apart]
      · rw [if_neg here, get?, if_neg here]
    · rename_i different
      rw [get?, get?, ih later]
      by_cases here : first = other
      · rw [if_pos here, if_pos here, if_neg]
        exact fun same => different (here.trans same.symm)
      · rw [if_neg here, if_neg here]

theorem get?_of_mem (once : (names fields).Nodup) (member : (name, a) ∈ fields) : get? name fields = some a := by
  induction fields with
  | nil => cases member
  | cons field rest ih =>
    obtain ⟨first, b⟩ := field
    obtain ⟨apart, later⟩ := List.nodup_cons.mp once
    rcases List.mem_cons.mp member with same | member
    · cases same
      rw [get?, if_pos rfl]
    · have inside : name ∈ names rest := List.mem_map_of_mem member
      have different : first ≠ name := fun same => apart (same ▸ inside)
      rw [get?, if_neg different, ih later member]

end Fields

namespace Mapping

/-! ## Entries that are taken -/

/-- An entry with a target, and with exactly one place for the value in each of its templates. -/
structure Entry.Sound (entry : Entry) : Prop where
  target : Text.isBlank entry.target = false
  templates : ∀ template ∈ entry.templates, placeholderCount template.2 = 1

theorem Entry.fault?_eq_none_iff {entry : Entry} : entry.fault? = none ↔ entry.Sound := by
  unfold fault?
  constructor
  · intro faultless
    split at faultless
    · cases faultless
    · rename_i given
      refine ⟨by simpa using given, fun template member => ?_⟩
      simpa using List.find?_eq_none.mp (Option.map_eq_none_iff.mp faultless) template member
  · intro sound
    rw [sound.target, if_neg Bool.false_ne_true, Option.map_eq_none_iff, List.find?_eq_none]
    exact fun template member => by simp [sound.templates template member]

def Entry.key (entry : Entry) : String :=
  normalizeType entry.type

/-! ## Changes -/

inductive Change
  | insert (entry : Entry)
  | remove (type : String)

def Table.change (table : Table) : Change → Table
  | .insert entry =>
    match table.insert entry with
    | .ok changed => changed
    | .error _ => table
  | .remove type => (table.remove type).2

def Table.changeAll (table : Table) (changes : List Change) : Table :=
  changes.foldl Table.change table

inductive Origin
  | empty
  | stock

def Origin.table : Origin → Table
  | .empty => .empty
  | .stock => .stock

/-- The changes that lead from the empty table to the one to begin with. -/
def Origin.changes : Origin → List Change
  | .empty => []
  | .stock => stockEntries.map .insert

theorem Table.entries_put (table : Table) (entry : Entry) :
    (table.put entry).entries = Fields.set entry.key entry table.entries := rfl

theorem Table.insert_of_sound {table : Table} {entry : Entry} (sound : entry.Sound) :
    table.insert entry = .ok (table.put entry) := by
  rw [insert, Entry.fault?_eq_none_iff.mpr sound]

theorem Table.insert_of_not_sound (table : Table) {entry : Entry} (faulty : ¬ entry.Sound) :
    ∃ invalid, table.insert entry = .error invalid := by
  unfold insert
  cases found : entry.fault? with
  | none => exact absurd (Entry.fault?_eq_none_iff.mp found) faulty
  | some fault => exact ⟨_, rfl⟩

theorem Table.change_of_sound {table : Table} {entry : Entry} (sound : entry.Sound) :
    table.change (.insert entry) = table.put entry := by
  rw [change, insert_of_sound sound]

theorem Table.change_of_not_sound {table : Table} {entry : Entry} (faulty : ¬ entry.Sound) :
    table.change (.insert entry) = table := by
  obtain ⟨invalid, refused⟩ := table.insert_of_not_sound faulty
  rw [change, refused]

theorem stockEntries_sound : ∀ entry ∈ stockEntries, entry.Sound := by
  have faultless : ∀ entry ∈ stockEntries, entry.fault? = none := by decide
  exact fun entry member => Entry.fault?_eq_none_iff.mp (faultless entry member)

theorem Table.changeAll_insert {entries : List Entry} (sound : ∀ entry ∈ entries, entry.Sound) (table : Table) :
    table.changeAll (entries.map .insert) = entries.foldl (fun table entry => table.put entry) table := by
  induction entries generalizing table with
  | nil => rfl
  | cons entry entries ih =>
    obtain ⟨first, later⟩ := List.forall_mem_cons.mp sound
    rw [List.foldl_cons, ← ih later, ← change_of_sound first]
    rfl

theorem Origin.table_eq (origin : Origin) : origin.table = Table.empty.changeAll origin.changes := by
  cases origin with
  | empty => rfl
  | stock => exact (Table.changeAll_insert stockEntries_sound .empty).symm

/-! ## Reading a history -/

section

variable {history : List Change} {last change : Change} {key : String} {place : Nat}

/-- The change brings an entry for a key. One that is refused brings nothing. -/
def Change.Brings (key : String) : Change → Prop
  | .insert entry => entry.Sound ∧ entry.key = key
  | .remove _ => False

def Change.Takes (key : String) : Change → Prop
  | .insert _ => False
  | .remove type => normalizeType type = key

/-- The entry came in, and no later change brought another one for its type or took it out. -/
def Current (history : List Change) (entry : Entry) : Prop :=
  ∃ place : Nat, history[place]? = some (.insert entry) ∧ entry.Sound ∧ ∀ later change, place < later →
    history[later]? = some change → ¬ change.Brings entry.key ∧ ¬ change.Takes entry.key

def Gone (history : List Change) (key : String) (bound : Nat) : Prop :=
  ∀ place change, place < bound → history[place]? = some change → change.Brings key →
    ∃ later other, place < later ∧ later < bound ∧ history[later]? = some other ∧ other.Takes key

/-- The key came in at that place, when it was not there, and has not been taken out since. -/
structure Since (history : List Change) (key : String) (place : Nat) : Prop where
  brought : ∃ change, history[place]? = some change ∧ change.Brings key
  kept : ∀ later change, place < later → history[later]? = some change → ¬ change.Takes key
  fresh : Gone history key place

theorem Since.unique {other : Nat} (first : Since history key place) (second : Since history key other) :
    place = other := by
  have notBefore {i j : Nat} (one : Since history key i) (two : Since history key j) : ¬ i < j := by
    intro before
    obtain ⟨change, here, brings⟩ := one.brought
    obtain ⟨later, taking, after, _, there, takes⟩ := two.fresh i change before here brings
    exact one.kept later taking after there takes
  have one := notBefore first second
  have two := notBefore second first
  omega

theorem Since.lt_length (since : Since history key place) : place < history.length := by
  obtain ⟨change, here, _⟩ := since.brought
  exact (List.getElem?_eq_some_iff.mp here).1

/-! ## One change more -/

theorem getElem?_snoc : (history ++ [last])[place]? = some change ↔
    history[place]? = some change ∨ place = history.length ∧ last = change := by
  rw [List.getElem?_append]
  split
  · rename_i inside
    constructor
    · exact .inl
    · rintro (here | ⟨rfl, _⟩)
      · exact here
      · omega
  · rename_i outside
    have beyond : history[place]? = none := List.getElem?_eq_none (by omega)
    rw [beyond, List.getElem?_singleton]
    constructor
    · intro here
      split at here
      · exact .inr ⟨by omega, Option.some.inj here⟩
      · cases here
    · rintro (none | ⟨rfl, rfl⟩)
      · cases none
      · simp

theorem getElem?_snoc_of_some (here : history[place]? = some change) : (history ++ [last])[place]? = some change :=
  getElem?_snoc.mpr (.inl here)

theorem current_snoc_iff {entry : Entry} : Current (history ++ [last]) entry ↔
    last = .insert entry ∧ entry.Sound ∨
      Current history entry ∧ ¬ last.Brings entry.key ∧ ¬ last.Takes entry.key := by
  constructor
  · rintro ⟨place, here, sound, untouched⟩
    rcases getElem?_snoc.mp here with before | ⟨_, same⟩
    · have inside := (List.getElem?_eq_some_iff.mp before).1
      refine .inr ⟨⟨place, before, sound, fun later change after there => ?_⟩, ?_⟩
      · exact untouched later change after (getElem?_snoc_of_some there)
      · exact untouched history.length last inside (getElem?_snoc.mpr (.inr ⟨rfl, rfl⟩))
    · exact .inl ⟨same, sound⟩
  · rintro (⟨rfl, sound⟩ | ⟨⟨place, here, sound, untouched⟩, stays⟩)
    · refine ⟨history.length, getElem?_snoc.mpr (.inr ⟨rfl, rfl⟩), sound, fun later change after there => ?_⟩
      rcases getElem?_snoc.mp there with before | ⟨same, _⟩
      · have := (List.getElem?_eq_some_iff.mp before).1
        omega
      · omega
    · refine ⟨place, getElem?_snoc_of_some here, sound, fun later change after there => ?_⟩
      rcases getElem?_snoc.mp there with before | ⟨_, rfl⟩
      · exact untouched later change after before
      · exact stays

theorem Gone.snoc {bound : Nat} (inside : bound ≤ history.length) (gone : Gone history key bound) :
    Gone (history ++ [last]) key bound := by
  intro place change before here brings
  rcases getElem?_snoc.mp here with here | ⟨same, _⟩
  · obtain ⟨later, other, after, below, there, takes⟩ := gone place change before here brings
    exact ⟨later, other, after, below, getElem?_snoc_of_some there, takes⟩
  · omega

theorem Gone.extend (gone : Gone history key history.length) (silent : ¬ last.Brings key) :
    Gone (history ++ [last]) key (history ++ [last]).length := by
  intro place change _ here brings
  rcases getElem?_snoc.mp here with here | ⟨_, rfl⟩
  · have inside := (List.getElem?_eq_some_iff.mp here).1
    obtain ⟨later, other, after, below, there, takes⟩ := gone place change inside here brings
    exact ⟨later, other, after, by rw [List.length_append]; omega, getElem?_snoc_of_some there, takes⟩
  · exact absurd brings silent

theorem Gone.of_takes (silent : ¬ last.Brings key) (takes : last.Takes key) :
    Gone (history ++ [last]) key (history ++ [last]).length := by
  intro place change _ here brings
  rcases getElem?_snoc.mp here with here | ⟨_, rfl⟩
  · refine ⟨history.length, last, (List.getElem?_eq_some_iff.mp here).1, ?_, getElem?_snoc.mpr (.inr ⟨rfl, rfl⟩), takes⟩
    simp
  · exact absurd brings silent

theorem Since.snoc (since : Since history key place) (stays : ¬ last.Takes key) :
    Since (history ++ [last]) key place where
  brought := by
    obtain ⟨change, here, brings⟩ := since.brought
    exact ⟨change, getElem?_snoc_of_some here, brings⟩
  kept later change after there := by
    rcases getElem?_snoc.mp there with before | ⟨_, rfl⟩
    · exact since.kept later change after before
    · exact stays
  fresh := since.fresh.snoc (Nat.le_of_lt since.lt_length)

theorem Since.newest (brings : last.Brings key) (gone : Gone history key history.length) :
    Since (history ++ [last]) key history.length where
  brought := ⟨last, getElem?_snoc.mpr (.inr ⟨rfl, rfl⟩), brings⟩
  kept later change after there := by
    have := (List.getElem?_eq_some_iff.mp there).1
    rw [List.length_append, List.length_singleton] at this
    omega
  fresh := gone.snoc (Nat.le_refl _)

end

/-! ## Tables and their histories -/

structure Table.Records (table : Table) (history : List Change) : Prop where
  once : (Fields.names table.entries).Nodup
  current : ∀ key entry, Fields.get? key table.entries = some entry ↔ Current history entry ∧ entry.key = key
  since : ∀ key ∈ Fields.names table.entries, ∃ place, Since history key place
  order : (Fields.names table.entries).Pairwise fun first second =>
    ∃ i j, Since history first i ∧ Since history second j ∧ i < j
  gone : ∀ key, key ∉ Fields.names table.entries → Gone history key history.length

namespace Table

theorem empty_records : Table.empty.Records [] where
  once := List.nodup_nil
  current key entry := by
    refine ⟨fun found => (by cases found), ?_⟩
    rintro ⟨⟨place, here, _⟩, _⟩
    cases here
  since _ none := absurd none List.not_mem_nil
  order := List.Pairwise.nil
  gone _ _ place _ inside := absurd inside (Nat.not_lt_zero place)

variable {table : Table} {history : List Change}

theorem Records.refuse (records : table.Records history) {entry : Entry} (faulty : ¬ entry.Sound) :
    table.Records (history ++ [.insert entry]) where
  once := records.once
  current key other := by
    rw [records.current, current_snoc_iff]
    have silent : ¬ (Change.insert entry).Brings other.key := fun brings => faulty brings.1
    have stays : ¬ (Change.insert entry).Takes other.key := id
    have different : ¬ (Change.insert entry = .insert other ∧ other.Sound) := by
      rintro ⟨same, sound⟩
      cases same
      exact faulty sound
    tauto
  since key member :=
    have ⟨place, since⟩ := records.since key member
    ⟨place, since.snoc id⟩
  order := records.order.imp fun ⟨i, j, first, second, before⟩ => ⟨i, j, first.snoc id, second.snoc id, before⟩
  gone key missing := (records.gone key missing).extend fun brings => faulty brings.1

theorem Records.put (records : table.Records history) {entry : Entry} (sound : entry.Sound) :
    (table.put entry).Records (history ++ [.insert entry]) where
  once := Fields.set_nodup records.once
  current key other := by
    rw [Table.entries_put, Fields.get?_set, current_snoc_iff]
    have stays : ¬ (Change.insert entry).Takes other.key := id
    by_cases here : entry.key = key
    · rw [if_pos here]
      constructor
      · intro same
        cases same
        exact ⟨.inl ⟨rfl, sound⟩, here⟩
      · rintro ⟨⟨same, _⟩ | ⟨_, silent, _⟩, there⟩
        · cases same
          rfl
        · exact absurd ⟨sound, here.trans there.symm⟩ silent
    · rw [if_neg here, records.current]
      constructor
      · rintro ⟨current, there⟩
        exact ⟨.inr ⟨current, fun brings => here (brings.2.trans there), stays⟩, there⟩
      · rintro ⟨⟨same, _⟩ | ⟨current, _⟩, there⟩
        · cases same
          exact absurd there here
        · exact ⟨current, there⟩
  since key member := by
    by_cases known : key ∈ Fields.names table.entries
    · obtain ⟨place, since⟩ := records.since key known
      exact ⟨place, since.snoc id⟩
    · have same := (Fields.mem_names_set.mp member).resolve_right known
      exact ⟨history.length, .newest ⟨sound, same.symm⟩ (records.gone key known)⟩
  order := by
    have before := records.order.imp (S := fun first second => ∃ i j, Since (history ++ [.insert entry]) first i ∧
        Since (history ++ [.insert entry]) second j ∧ i < j)
      fun ⟨i, j, first, second, before⟩ => ⟨i, j, first.snoc id, second.snoc id, before⟩
    -- A key that is there keeps its place, however late its entry is. A new one came in after all others.
    by_cases known : entry.key ∈ Fields.names table.entries
    · exact (Fields.names_set_of_mem known).symm ▸ before
    · refine (Fields.names_set_of_not_mem known).symm ▸ List.pairwise_append.mpr
        ⟨before, List.pairwise_singleton _ _, fun key member other only => ?_⟩
      obtain ⟨place, since⟩ := records.since key member
      rw [List.mem_singleton.mp only]
      exact ⟨place, history.length, since.snoc id, .newest ⟨sound, rfl⟩ (records.gone _ known), since.lt_length⟩
  gone key missing := by
    have ⟨different, missing⟩ := not_or.mp (fun either => missing (Fields.mem_names_set.mpr either))
    exact (records.gone key missing).extend fun brings => different brings.2.symm

theorem Records.remove (records : table.Records history) (type : String) :
    (table.remove type).2.Records (history ++ [.remove type]) := by
  have kept {key : String} (member : key ∈ (Fields.names table.entries).erase (normalizeType type)) :
      key ∈ Fields.names table.entries ∧ ¬ (Change.remove type).Takes key := by
    obtain ⟨different, member⟩ := (List.Nodup.mem_erase_iff records.once).mp member
    exact ⟨member, Ne.symm different⟩
  constructor
  case once =>
    rw [Table.remove, Fields.names_erase]
    exact records.once.erase _
  case current =>
    intro key entry
    rw [Table.remove, Fields.get?_erase records.once, current_snoc_iff]
    have silent : ¬ (Change.remove type).Brings entry.key := id
    have different : ¬ (Change.remove type = .insert entry ∧ entry.Sound) := by
      rintro ⟨same, _⟩
      cases same
    by_cases here : normalizeType type = key
    · rw [if_pos here]
      constructor
      · intro found
        cases found
      · rintro ⟨inserted | ⟨_, _, stays⟩, there⟩
        · exact absurd inserted different
        · exact absurd (here.trans there.symm) stays
    · rw [if_neg here, records.current]
      constructor
      · rintro ⟨current, there⟩
        exact ⟨.inr ⟨current, silent, fun takes => here (takes.trans there)⟩, there⟩
      · rintro ⟨inserted | ⟨current, _⟩, there⟩
        · exact absurd inserted different
        · exact ⟨current, there⟩
  case since =>
    intro key member
    rw [Table.remove, Fields.names_erase] at member
    obtain ⟨place, since⟩ := records.since key (kept member).1
    exact ⟨place, since.snoc (kept member).2⟩
  case order =>
    rw [Table.remove, Fields.names_erase]
    refine (records.order.sublist (List.erase_sublist (a := normalizeType type))).imp_of_mem ?_
    rintro first second one two ⟨i, j, sinceFirst, sinceSecond, before⟩
    exact ⟨i, j, sinceFirst.snoc (kept one).2, sinceSecond.snoc (kept two).2, before⟩
  case gone =>
    intro key missing
    rw [Table.remove, Fields.names_erase] at missing
    by_cases here : normalizeType type = key
    · exact .of_takes id here
    · refine (records.gone key fun member => missing ?_).extend id
      exact (List.Nodup.mem_erase_iff records.once).mpr ⟨Ne.symm here, member⟩

theorem Records.change (records : table.Records history) (change : Change) :
    (table.change change).Records (history ++ [change]) := by
  cases change with
  | insert entry =>
    by_cases sound : entry.Sound
    · rw [change_of_sound sound]
      exact records.put sound
    · rw [change_of_not_sound sound]
      exact records.refuse sound
  | remove type => exact records.remove type

theorem Records.changeAll (records : table.Records history) (changes : List Change) :
    (table.changeAll changes).Records (history ++ changes) := by
  induction changes generalizing table history with
  | nil =>
    rw [List.append_nil]
    exact records
  | cons change changes ih =>
    have rest := ih (records.change change)
    rwa [List.append_assoc] at rest

theorem Records.entry_mem (records : table.Records history) {key : String} {entry : Entry}
    (member : (key, entry) ∈ table.entries) : Current history entry ∧ entry.key = key :=
  (records.current key entry).mp (Fields.get?_of_mem records.once member)

theorem Records.names_eq (records : table.Records history) :
    Fields.names table.entries = table.toList.map Entry.key := by
  rw [toList, List.map_map]
  refine List.map_congr_left fun field member => ?_
  exact (records.entry_mem member).2.symm

end Table

theorem Origin.records (origin : Origin) (changes : List Change) :
    (origin.table.changeAll changes).Records (origin.changes ++ changes) := by
  have start : origin.table.Records origin.changes := by
    rw [origin.table_eq]
    exact Table.empty_records.changeAll origin.changes
  exact start.changeAll changes

/-- After any changes the types of a table are apart, its entries are sound, and an entry that is refused has changed
nothing. The table finds the current entry of each type, lists these entries in the order in which their types came in
to stay, and gives back what it takes out. -/
theorem table_records_history (origin : Origin) (changes : List Change) :
    let table := origin.table.changeAll changes
    let history := origin.changes ++ changes
    (Fields.names table.entries).Nodup ∧
    (∀ key entry, (key, entry) ∈ table.entries → key = normalizeType entry.type ∧ entry.fault? = none) ∧
    (∀ entry : Entry, (entry.Sound → table.insert entry = .ok (table.change (.insert entry))) ∧
      (¬ entry.Sound → (∃ invalid, table.insert entry = .error invalid) ∧ table.change (.insert entry) = table)) ∧
    (∀ type entry, table.lookup? type = some entry ↔
      Current history entry ∧ normalizeType entry.type = normalizeType type) ∧
    (∀ entry, entry ∈ table.toList ↔ Current history entry) ∧
    (∀ entry ∈ table.toList, ∃ place, Since history (normalizeType entry.type) place) ∧
    (table.toList.Pairwise fun first second => ∀ i j, Since history (normalizeType first.type) i →
      Since history (normalizeType second.type) j → i < j) ∧
    ∀ type, (table.remove type).1 = table.lookup? type ∧ (table.remove type).2 = table.change (.remove type) := by
  intro table history
  have records : table.Records history := origin.records changes
  have named {entry : Entry} (member : entry ∈ table.toList) : entry.key ∈ Fields.names table.entries := by
    rw [records.names_eq]
    exact List.mem_map_of_mem member
  refine ⟨records.once, fun key entry member => ?_, fun entry => ⟨fun sound => ?_, fun faulty => ?_⟩,
    fun type entry => records.current (normalizeType type) entry, fun entry => ⟨fun member => ?_, fun current => ?_⟩,
    fun entry member => records.since _ (named member), ?_, fun type => ⟨rfl, rfl⟩⟩
  · obtain ⟨⟨_, _, sound, _⟩, here⟩ := records.entry_mem member
    exact ⟨here.symm, Entry.fault?_eq_none_iff.mpr sound⟩
  · rw [Table.insert_of_sound sound, Table.change_of_sound sound]
  · exact ⟨Table.insert_of_not_sound _ faulty, Table.change_of_not_sound faulty⟩
  · obtain ⟨⟨key, _⟩, inside, rfl⟩ := List.mem_map.mp member
    exact (records.entry_mem inside).1
  · have found := (records.current entry.key entry).mpr ⟨current, rfl⟩
    exact List.mem_map.mpr ⟨_, Fields.mem_of_get? found, rfl⟩
  · have order := records.order
    rw [records.names_eq, List.pairwise_map] at order
    refine order.imp ?_
    rintro first second ⟨i, j, sinceFirst, sinceSecond, before⟩ k l one two
    rwa [one.unique sinceFirst, two.unique sinceSecond]

end Mapping

end WidgetSource
