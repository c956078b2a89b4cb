import WidgetSource.Proofs.Histories
import WidgetSource.Proofs.Reordering

/-!
# Values of texts

A text is read as a property value in two ways: directly, by trying the forms of values on what it spells, or through a
sorted document. Both stop at the same fault, or they give one value but for the order of the fields in its maps. Of a
name that is repeated the last value counts both times. Its place is that of the first, or else the one in ascending
order.
-/
namespace WidgetSource

theorem Option.rel_of_common {α β γ : Type} {R : α → β → Prop} {S : α → γ → Prop} {T : β → γ → Prop} {a : Option α}
    {b : Option β} {c : Option γ} (first : Option.Rel R a b) (second : Option.Rel S a c)
    (each : ∀ x ∈ a, ∀ y z, R x y → S x z → T y z) : Option.Rel T b c := by
  cases first with
  | none =>
    cases second
    exact .none
  | some step =>
    cases second with
    | some other => exact .some (each _ rfl _ _ step other)

theorem List.eraseDups_concat (names : List String) (name : String) :
    (names ++ [name]).eraseDups = if name ∈ names then names.eraseDups else names.eraseDups ++ [name] := by
  rw [List.eraseDups_append, List.removeAll]
  split <;> rename_i member <;> simp [member, List.eraseDups_cons]

theorem List.eraseDups_nodup (names : List String) : names.eraseDups.Nodup := by
  induction names using List.reverseRecOn with
  | nil => exact List.nodup_nil
  | append_singleton names name ih =>
    rw [List.eraseDups_concat]
    split
    · exact ih
    · rename_i new
      rw [← List.concat_eq_append]
      exact ih.concat fun member => new (List.mem_eraseDups.mp member)

namespace Fields

variable {α β : Type} {name : String} {fields done : Fields α} {entries : List (String × α)}
  {write : String → α → Fields α → Fields α}

def writeAll (write : String → α → Fields α → Fields α) (done : Fields α) (entries : List (String × α)) : Fields α :=
  entries.foldl (fun done (name, a) => write name a done) done

def ReadsBack (write : String → α → Fields α → Fields α) : Prop :=
  ∀ name a fields other, get? other (write name a fields) = if name = other then some a else get? other fields

theorem set_readsBack : ReadsBack (set (α := α)) :=
  fun _ _ _ _ => get?_set

theorem insertSorted_readsBack : ReadsBack (insertSorted (α := α)) :=
  fun _ _ _ _ => get?_insertSorted

theorem ReadsBack.get?_writeAll (reads : ReadsBack write) (done : Fields α) (entries : List (String × α)) :
    get? name (writeAll write done entries) = (get? name entries.reverse).or (get? name done) := by
  induction entries generalizing done with
  | nil => rfl
  | cons entry entries ih =>
    obtain ⟨first, a⟩ := entry
    have step : get? name (write first a done) = (get? name [(first, a)]).or (get? name done) := by
      rw [reads, get?, get?]
      split <;> rfl
    rw [writeAll, List.foldl_cons]
    show get? name (writeAll write (write first a done) entries) = _
    rw [ih, step, List.reverse_cons, get?_append, Option.or_assoc]

theorem writeAll_concat (entry : String × α) :
    writeAll write done (entries ++ [entry]) = write entry.1 entry.2 (writeAll write done entries) :=
  List.foldl_concat ..

theorem names_writeAll_set (entries : List (String × α)) :
    names (writeAll set [] entries) = (names entries).eraseDups := by
  induction entries using List.reverseRecOn with
  | nil => rfl
  | append_singleton entries entry ih =>
    have joined : names (entries ++ [entry]) = names entries ++ [entry.1] := List.map_append
    rw [writeAll_concat, joined, List.eraseDups_concat, ← ih]
    split
    · rename_i again
      exact names_set_of_mem (ih ▸ List.mem_eraseDups.mpr again)
    · rename_i new
      exact names_set_of_not_mem fun member => new (List.mem_eraseDups.mp (ih ▸ member))

theorem writeAll_insertSorted_ascending (ascending : done.Ascending) (entries : List (String × α)) :
    (writeAll insertSorted done entries).Ascending := by
  induction entries generalizing done with
  | nil => exact ascending
  | cons entry entries ih => exact ih (insertSorted_ascending ascending)

theorem Rearranged.of_get? {R : α → β → Prop} {others : Fields β} (once : (names fields).Nodup)
    (othersOnce : (names others).Nodup)
    (same : ∀ name, Option.Rel R (Fields.get? name fields) (Fields.get? name others)) :
    Rearranged R fields others := by
  induction fields generalizing others with
  | nil =>
    cases others with
    | nil => exact .nil
    | cons other others =>
      have first := same other.1
      rw [Fields.get?, Fields.get?, if_pos rfl] at first
      cases first
  | cons field fields ih =>
    obtain ⟨name, a⟩ := field
    obtain ⟨apart, once⟩ := List.nodup_cons.mp once
    have here := same name
    rw [Fields.get?, if_pos rfl] at here
    cases found : Fields.get? name others with
    | none =>
      rw [found] at here
      cases here
    | some b =>
      rw [found] at here
      cases here with
      | some step =>
        -- The first name is taken out on both sides. The rest is told apart by no other name, and by the first it is
        -- not since neither side has it any more.
        obtain ⟨before, behind, rfl⟩ := List.append_of_mem (mem_of_get? found)
        have split : (name :: names (before ++ behind)).Nodup := by
          simpa [names, List.nodup_middle] using othersOnce
        obtain ⟨othersApart, rest⟩ := List.nodup_cons.mp split
        refine .cons apart step (ih once rest fun asked => ?_)
        by_cases first : name = asked
        · subst first
          rw [get?_eq_none apart, get?_eq_none othersApart]
          exact .none
        · have later := same asked
          rw [Fields.get?, if_neg first, get?_append, Fields.get?, if_neg first, ← get?_append] at later
          exact later

theorem rel_get? {R : α → β → Prop} {others : Fields β}
    (related : List.Forall₂ (fun field other => field.1 = other.1 ∧ R field.2 other.2) fields others) (name : String) :
    Option.Rel R (get? name fields) (get? name others) := by
  induction related with
  | nil => exact .none
  | @cons field other fields others step _ ih =>
    obtain ⟨first, a⟩ := field
    obtain ⟨_, b⟩ := other
    obtain ⟨rfl, step⟩ := step
    rw [get?, get?]
    split
    · exact .some step
    · exact ih

end Fields

namespace Json

section

variable (write : String → Value → Fields Value → Fields Value)

mutual

def Content.valueBy : Content → Value
  | .null => .null
  | .bool b => .bool b
  | .number n => .number n.double
  | .text s => .text s
  | .list items => .list (valuesBy items)
  | .object fields => .map (Fields.writeAll write [] (entriesBy fields))

def valuesBy : List Content → List Value
  | [] => []
  | item :: items => item.valueBy :: valuesBy items

def entriesBy : List (String × Content) → List (String × Value)
  | [] => []
  | (name, content) :: fields => (name, content.valueBy) :: entriesBy fields

end

theorem names_entriesBy (fields : Fields Content) : Fields.names (entriesBy write fields) = Fields.names fields := by
  induction fields with
  | nil => rfl
  | cons field fields ih => exact congrArg (field.1 :: ·) ih

end

mutual

/-- One form always fits, and it is the one of the same kind. -/
theorem Content.value?_eq : ∀ content : Content, content.value? = some (content.valueBy Fields.set)
  | .null | .bool _ | .number _ | .text _ => rfl
  | .list items => by
    rw [Content.value?, contentValues?_eq items]
    rfl
  | .object fields => by
    rw [Content.value?, contentEntries?_eq [] fields]
    rfl

theorem contentValues?_eq : ∀ items : List Content, contentValues? items = some (valuesBy Fields.set items)
  | [] => rfl
  | item :: items => by
    rw [contentValues?, item.value?_eq, contentValues?_eq items]
    rfl

theorem contentEntries?_eq (done : Fields Value) : ∀ fields : Fields Content,
    contentEntries? done fields = some (Fields.writeAll Fields.set done (entriesBy Fields.set fields))
  | [] => rfl
  | (name, content) :: fields => by
    rw [contentEntries?, content.value?_eq]
    exact contentEntries?_eq _ fields

end

example : (Content.object [("b", .bool true), ("a", .number (.integer 2)), ("b", .null)]).value? =
    some (.map [("b", .null), ("a", .number (.ofInt 2))]) := rfl

theorem valueFields_insertSorted (name : String) (document : Document) (done : Fields Document) :
    valueFields (Fields.insertSorted name document done) =
      Fields.insertSorted name document.value (valueFields done) := by
  induction done with
  | nil => rfl
  | cons field done ih =>
    obtain ⟨first, other⟩ := field
    rw [valueFields, Fields.insertSorted, Fields.insertSorted]
    split
    · rfl
    · split
      · rfl
      · rw [valueFields, ih]

theorem results_of_map_eq {α β γ : Type} {f : α → γ} {g : β → γ} {result : Except Cause α} {other : Except Cause β}
    (same : result.map f = other.map g) :
    (∃ cause, result = .error cause ∧ other = .error cause) ∨ ∃ a b, result = .ok a ∧ other = .ok b ∧ f a = g b := by
  cases result with
  | error cause =>
    cases other with
    | error another =>
      cases same
      exact .inl ⟨cause, rfl, rfl⟩
    | ok b => cases same
  | ok a =>
    cases other with
    | error cause => cases same
    | ok b => exact .inr ⟨a, b, rfl, rfl, Except.ok.inj same⟩

mutual

theorem Draft.document_value : ∀ (room : Nat) (draft : Draft),
    (draft.document room).map Document.value = (draft.content room).map (Content.valueBy Fields.insertSorted)
  | _, .scalar scalar => by cases scalar <;> rfl
  | _, .broken stop => rfl
  | 0, .list _ _ | 0, .object _ _ => rfl
  | room + 1, .list items stop => by
    simp only [Draft.document, Draft.content]
    rcases results_of_map_eq (documentItems_values room items) with
      ⟨cause, documents, contents⟩ | ⟨_, _, documents, contents, same⟩
    · rw [documents, contents]
      rfl
    · rw [documents, contents]
      cases stop with
      | some stop => rfl
      | none => exact congrArg (Except.ok ∘ Value.list) same
  | room + 1, .object fields stop => by
    simp only [Draft.document, Draft.content]
    rcases results_of_map_eq (documentFields_values room [] fields) with
      ⟨cause, documents, contents⟩ | ⟨_, _, documents, contents, same⟩
    · rw [documents, contents]
      rfl
    · rw [documents, contents]
      cases stop with
      | some stop => rfl
      | none => exact congrArg (Except.ok ∘ Value.map) same

theorem documentItems_values : ∀ (room : Nat) (items : List Draft),
    (documentItems room items).map valueItems = (contentItems room items).map (valuesBy Fields.insertSorted)
  | _, [] => rfl
  | room, item :: items => by
    rw [documentItems, contentItems]
    rcases results_of_map_eq (item.document_value room) with
      ⟨cause, document, content⟩ | ⟨_, _, document, content, first⟩
    · rw [document, content]
      rfl
    · rw [document, content]
      rcases results_of_map_eq (documentItems_values room items) with
        ⟨cause, documents, contents⟩ | ⟨_, _, documents, contents, rest⟩
      · rw [documents, contents]
        rfl
      · rw [documents, contents]
        exact congrArg Except.ok (congrArg₂ List.cons first rest)

-- A document sorts the fields that are done, and a value the entries of their values: the order is one of names only.
theorem documentFields_values : ∀ (room : Nat) (done : Fields Document) (fields : List (Key × Draft)),
    (documentFields room done fields).map valueFields = (contentFields room fields).map fun contents =>
      Fields.writeAll Fields.insertSorted (valueFields done) (entriesBy Fields.insertSorted contents)
  | _, _, [] => rfl
  | _, _, (.refused, _) :: _ => rfl
  | _, _, (.broken _, _) :: _ => rfl
  | room, done, (.text name, draft) :: fields => by
    rw [documentFields, contentFields]
    rcases results_of_map_eq (draft.document_value room) with
      ⟨cause, document, content⟩ | ⟨value, _, document, content, first⟩
    · rw [document, content]
      rfl
    · rw [document, content]
      dsimp only
      rw [documentFields_values room _ fields, valueFields_insertSorted, first]
      cases contentFields room fields <;> rfl

end

/-- How the names in a map come from those that a text spells. -/
abbrev Arrangement := List String → List String → Prop

namespace Arrangement

def firstPlaces : Arrangement := fun spelled names => names = spelled.eraseDups

def ascending : Arrangement := fun _ names => names.Pairwise (· < ·)

def Once (arranged : Arrangement) : Prop :=
  ∀ spelled names, arranged spelled names → names.Nodup

theorem firstPlaces_once : Once firstPlaces := by
  rintro spelled _ rfl
  exact List.eraseDups_nodup spelled

theorem ascending_once : Once ascending :=
  fun _ _ ascends => ascends.nodup

structure WrittenBy (arranged : Arrangement) (write : String → Value → Fields Value → Fields Value) : Prop where
  reads : Fields.ReadsBack write
  names : ∀ entries, arranged (Fields.names entries) (Fields.names (Fields.writeAll write [] entries))

theorem firstPlaces_written : firstPlaces.WrittenBy Fields.set :=
  ⟨Fields.set_readsBack, Fields.names_writeAll_set⟩

theorem ascending_written : ascending.WrittenBy Fields.insertSorted :=
  ⟨Fields.insertSorted_readsBack, Fields.writeAll_insertSorted_ascending .nil⟩

end Arrangement

/-- A value has what a content spells: at every depth it is of the same kind, a number is the double read for it, and a
map has under each name the last that is spelled under it. The names of a map are arranged from the spelled ones. -/
inductive Content.Gives (arranged : Arrangement) : Content → Value → Prop
  | null : Gives arranged .null .null
  | bool (b : Bool) : Gives arranged (.bool b) (.bool b)
  | number (n : Numeral) : Gives arranged (.number n) (.number n.double)
  | text (s : String) : Gives arranged (.text s) (.text s)
  | list {items : List Content} {values : List Value} : List.Forall₂ (Gives arranged) items values →
      Gives arranged (.list items) (.list values)
  | object {fields : Fields Content} {values : Fields Value} :
      (∀ name, Option.Rel (Gives arranged) (Fields.get? name fields.reverse) (Fields.get? name values)) →
      arranged (Fields.names fields) (Fields.names values) → Gives arranged (.object fields) (.map values)

section

variable {arranged other : Arrangement} {write : String → Value → Fields Value → Fields Value}

mutual

theorem Content.valueBy_gives (written : arranged.WrittenBy write) :
    ∀ content : Content, content.Gives arranged (content.valueBy write)
  | .null => .null
  | .bool b => .bool b
  | .number n => .number n
  | .text s => .text s
  | .list items => .list (valuesBy_give written items)
  | .object fields => by
    refine .object (fun name => ?_) (names_entriesBy write fields ▸ written.names _)
    rw [written.reads.get?_writeAll, Fields.get?, Option.or_none]
    exact Fields.rel_get? (List.forall₂_reverse_iff.mpr (entriesBy_give written fields)) name

theorem valuesBy_give (written : arranged.WrittenBy write) :
    ∀ items : List Content, List.Forall₂ (Content.Gives arranged) items (valuesBy write items)
  | [] => .nil
  | item :: items => .cons (item.valueBy_gives written) (valuesBy_give written items)

theorem entriesBy_give (written : arranged.WrittenBy write) : ∀ fields : Fields Content,
    List.Forall₂ (fun field entry => field.1 = entry.1 ∧ field.2.Gives arranged entry.2) fields (entriesBy write fields)
  | [] => .nil
  | (_, content) :: fields => .cons ⟨rfl, content.valueBy_gives written⟩ (entriesBy_give written fields)

end

mutual

theorem Content.Gives.reordered (once : arranged.Once) (otherOnce : other.Once) :
    ∀ (content : Content) (value another : Value),
      content.Gives arranged value → content.Gives other another → value.Reordered another
  | .null, _, _, .null, .null => .null
  | .bool _, _, _, .bool b, .bool _ => .bool b
  | .number _, _, _, .number n, .number _ => .number n.double
  | .text _, _, _, .text s, .text _ => .text s
  | .list items, _, _, .list values, .list others => .list (items_reordered once otherOnce items _ _ values others)
  | .object fields, .map _, .map _, .object given names, .object given' names' => by
    -- Under each name both maps have what was spelled under it last, or nothing.
    refine .map (Fields.Rearranged.of_get? (once _ _ names) (otherOnce _ _ names') fun name => ?_)
    refine Option.rel_of_common (given name) (given' name) fun content spelled => ?_
    exact fields_reordered once otherOnce fields _ (List.mem_reverse.mp (Fields.mem_of_get? spelled))

theorem items_reordered (once : arranged.Once) (otherOnce : other.Once) :
    ∀ (items : List Content) (values others : List Value), List.Forall₂ (Content.Gives arranged) items values →
      List.Forall₂ (Content.Gives other) items others → List.Forall₂ Value.Reordered values others
  | [], _, _, .nil, .nil => .nil
  | item :: items, _, _, .cons first rest, .cons first' rest' =>
    .cons (Content.Gives.reordered once otherOnce item _ _ first first')
      (items_reordered once otherOnce items _ _ rest rest')

theorem fields_reordered (once : arranged.Once) (otherOnce : other.Once) :
    ∀ fields : Fields Content, ∀ field ∈ fields, ∀ value another : Value,
      field.2.Gives arranged value → field.2.Gives other another → value.Reordered another
  | [], _, missing => absurd missing List.not_mem_nil
  | (_, content) :: fields, field, member => by
    rcases List.mem_cons.mp member with rfl | later
    · exact Content.Gives.reordered once otherOnce content
    · exact fields_reordered once otherOnce fields field later

end

end

end Json

theorem Json.Document.ofText_value (room : Nat) (text : String) :
    (Document.ofText room text).map Document.value =
      (Content.ofText room text).map (Content.valueBy Fields.insertSorted) := by
  simp only [Document.ofText, Content.ofText]
  rcases results_of_map_eq ((read text).root.document_value room) with
    ⟨cause, document, content⟩ | ⟨_, _, document, content, same⟩
  · rw [document, content]
    rfl
  · rw [document, content]
    dsimp only
    split
    · rfl
    · exact congrArg Except.ok same

theorem Value.ofText_eq (room : Nat) (text : String) : Value.ofText room text =
    ((Json.Content.ofText room text).map (Json.Content.valueBy Fields.set)).mapError .text := by
  rw [Value.ofText]
  cases Json.Content.ofText room text with
  | error cause => rfl
  | ok content =>
    dsimp only
    rw [content.value?_eq]
    rfl

open Json (Content Document Arrangement)

/-- A text gives a value directly exactly if it is a document, and if it is none, both ways stop at the same fault. The
value and that of the document are the same but for the order of the fields in their maps. Both have what the text
spells, the direct one with each name in its first place, the one of the document with ascending names. -/
theorem Value.ofText_agrees (room : Nat) (text : String) :
    (∃ cause, Value.ofText room text = .error (.text cause) ∧ Document.ofText room text = .error cause) ∨
      ∃ content value document, Content.ofText room text = .ok content ∧ Value.ofText room text = .ok value ∧
        Document.ofText room text = .ok document ∧ value.Reordered document.value ∧
        content.Gives Arrangement.firstPlaces value ∧ content.Gives Arrangement.ascending document.value := by
  rw [Value.ofText_eq]
  rcases Json.results_of_map_eq (Document.ofText_value room text) with
    ⟨cause, readDocument, spells⟩ | ⟨document, content, readDocument, spells, same⟩
  · rw [spells]
    exact .inl ⟨cause, rfl, readDocument⟩
  · have direct := content.valueBy_gives Arrangement.firstPlaces_written
    have sorted : content.Gives Arrangement.ascending document.value :=
      same ▸ content.valueBy_gives Arrangement.ascending_written
    have reordered := Content.Gives.reordered Arrangement.firstPlaces_once Arrangement.ascending_once content _ _ direct
      sorted
    rw [spells]
    exact .inr ⟨content, content.valueBy Fields.set, document, rfl, rfl, readDocument, reordered, direct, sorted⟩

end WidgetSource
