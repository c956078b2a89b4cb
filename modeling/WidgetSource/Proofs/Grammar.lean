import WidgetSource.Proofs.Occurrences
import WidgetSource.Proofs.Readings
import WidgetSource.Proofs.Trimming

namespace WidgetSource.Template

variable {before after cs front rest : List Char}

/-! ## Text between tags -/

theorem scanPlain_cons {slashes : Nat} {c : Char} (notSlash : c ≠ '\\') (notOpen : ¬ tagOpen <+: c :: cs) :
    scanPlain slashes (c :: cs) = (List.replicate slashes '\\' ++ c :: (scanPlain 0 cs).1, (scanPlain 0 cs).2) := by
  rw [scanPlain]
  · rintro rest rfl rfl
    exact notOpen ⟨rest, rfl⟩
  · exact notSlash

theorem tagOpen_prefix_take {c : Char} {plain rest : List Char} :
    tagOpen <+: c :: (plain ++ rest.take 1) ↔ tagOpen <+: c :: (plain ++ rest) := by
  cases plain <;> cases rest <;> simp [tagOpen, List.cons_prefix_cons]

theorem scanPlain_append (slashes : Nat) (cs rest : List Char) (unopened : ¬ tagOpen <:+: cs ++ rest.take 1)
    (unescaped : rest ≠ [] → (List.replicate slashes '\\' ++ cs).getLast? ≠ some '\\') :
    scanPlain slashes (cs ++ rest) =
      (List.replicate slashes '\\' ++ cs ++ (scanPlain 0 rest).1, (scanPlain 0 rest).2) := by
  induction cs generalizing slashes with
  | nil =>
    cases rest with
    | nil => simp [scanPlain]
    | cons c rest =>
      obtain rfl : slashes = 0 := by
        by_contra some
        exact unescaped (List.cons_ne_nil c rest) (by simp [List.getLast?_replicate, some])
      simp
  | cons c cs ih =>
    rw [List.cons_append, List.infix_cons_iff, not_or, tagOpen_prefix_take] at unopened
    by_cases slash : c = '\\'
    · subst slash
      have shift : List.replicate slashes '\\' ++ '\\' :: cs = List.replicate (slashes + 1) '\\' ++ cs := by
        simp [List.replicate_succ']
      rw [shift] at unescaped ⊢
      rw [List.cons_append, scanPlain, ih _ unopened.2 unescaped]
    · rw [List.cons_append, scanPlain_cons slash unopened.1, ih 0 unopened.2]
      · simp
      · intro more
        have last := unescaped more
        rw [List.getLast?_append, List.getLast?_cons] at last
        cases found : cs.getLast? <;> simp_all

theorem scanPlain_tag (inside : List Char) : scanPlain 0 (tagOpen ++ inside) = ([], tagOpen ++ inside) := rfl

theorem scanPlain_replicate (seen slashes : Nat) (rest : List Char) :
    scanPlain seen (List.replicate slashes '\\' ++ rest) = scanPlain (seen + slashes) rest := by
  induction slashes generalizing seen with
  | zero => rfl
  | succ slashes ih =>
    rw [List.replicate_succ, List.cons_append, scanPlain, ih]
    congr 1
    omega

theorem scanPlain_slashes {slashes : Nat} (several : slashes ≠ 1) (inside : List Char) :
    scanPlain 0 (List.replicate slashes '\\' ++ (tagOpen ++ inside)) =
      (List.replicate (slashes - 1) '\\', tagOpen ++ inside) := by
  rw [scanPlain_replicate]
  match slashes, several with
  | 0, _ => rfl
  | more + 2, _ => simp [tagOpen, scanPlain]

theorem scanPlain_kept (single : rest.head? ≠ some '\x7b') :
    scanPlain 0 (Mark.kept.spelled ++ rest) = (tagOpen ++ (scanPlain 0 rest).1, (scanPlain 0 rest).2) := by
  change scanPlain 1 ('\x7b' :: '\x7b' :: rest) = _
  rw [scanPlain]
  · rfl
  · rintro _ rfl
    exact single rfl

/-! ## Pieces -/

@[simp] theorem consumed_append (before front rest : List Char) :
    consumed before (front ++ rest) rest = front.reverse ++ before := by
  simp [consumed]

@[simp] theorem consumed_self (before cs : List Char) : consumed before cs cs = before := consumed_append before [] cs

theorem consumed_behind (shorter : cs.length ≤ rest.length) :
    consumed before (front ++ rest) cs = consumed (front.reverse ++ before) rest cs := by
  have taken : front.length + rest.length - cs.length = front.length + (rest.length - cs.length) := by omega
  rw [consumed, consumed, List.length_append, taken, List.take_length_add_append]
  simp

theorem pieces?_eq (before cs : List Char) : pieces? before cs =
    match (scanPlain 0 cs).2 with
    | '\x7b' :: '\x7b' :: inside =>
      (scanTag? inside).bind fun scan =>
        (pieces? (consumed before cs scan.rest) scan.rest).map fun more =>
          .text (scanPlain 0 cs).1 :: .tag ⟨scan.found, endsBlankLine (consumed before cs (scanPlain 0 cs).2) &&
            beginsBlankLine scan.rest⟩ :: more
    | _ => some [.text (scanPlain 0 cs).1] := by
  rw [pieces?]
  split
  · rename_i inside opened
    simp only [opened]
    split <;> rename_i scanned <;> simp [scanned]
  · simp only

theorem pieces?_append {shown text : List Char} {more : List Piece}
    (plain : scanPlain 0 (front ++ rest) = (shown ++ (scanPlain 0 rest).1, (scanPlain 0 rest).2))
    (read : pieces? (front.reverse ++ before) rest = some (.text text :: more)) :
    pieces? before (front ++ rest) = some (.text (shown ++ text) :: more) := by
  have later := (scanPlain_suffix 0 rest).length_le
  rw [pieces?_eq] at read ⊢
  rw [plain]
  dsimp only
  split at read
  · rename_i inside opened
    simp only [Option.bind_eq_some_iff, Option.map_eq_some_iff, List.cons.injEq, Piece.text.injEq] at read
    obtain ⟨scan, scanned, others, read, rfl, rfl⟩ := read
    have shorter : scan.rest.length ≤ rest.length := by
      have := scan.shorter
      rw [opened, List.length_cons, List.length_cons] at later
      omega
    rw [opened] at later ⊢
    simp [scanned, consumed_behind shorter, consumed_behind later, read]
  · obtain ⟨rfl, rfl⟩ : (scanPlain 0 rest).1 = text ∧ [] = more := by simpa using read
    rfl

theorem pieces?_tag (inside : List Char) {marked : MarkedTag} {more : List Piece} (nonempty : inside ≠ [])
    (scanned : readTag? (inside ++ rest) = some (marked, rest))
    (read : pieces? ((tagOpen ++ inside).reverse ++ before) rest = some more) :
    pieces? before (tagOpen ++ (inside ++ rest)) =
      some (.text [] :: .tag ⟨marked, endsBlankLine before && beginsBlankLine rest⟩ :: more) := by
  have shorter : rest.length < (inside ++ rest).length := by simpa [List.length_pos_iff] using nonempty
  have scan : scanTag? (inside ++ rest) = some ⟨marked, rest, shorter⟩ := by
    rw [scanTag?, scanned, Scan.of?, dif_pos shorter]
  have behind := consumed_append before (tagOpen ++ inside) rest
  rw [List.append_assoc] at behind
  rw [pieces?_eq, scanPlain_tag]
  change (scanTag? (inside ++ rest)).bind _ = _
  rw [scan, Option.bind_some, behind, read, Option.map_some, consumed_self]

/-! ## Tags -/

theorem isNameChar_of_isFieldChar {c : Char} (field : isFieldChar c = true) : isNameChar c = true := by
  simp only [isFieldChar, Bool.and_eq_true] at field
  exact field.1.1

theorem ne_of_isFieldChar {c other : Char} (field : isFieldChar c = true) (different : isFieldChar other = false) :
    c ≠ other := by
  rintro rfl
  rw [field] at different
  cases different

/-- What comes behind the name of a field: closing braces, perhaps after some space. -/
def Closes (cs : List Char) : Prop := ∃ inside, cs.dropWhile isTagSpace = '\x7d' :: inside

theorem Closes.head (closes : Closes rest) : ∃ c more, rest = c :: more ∧ (isTagSpace c = true ∨ c = '\x7d') := by
  obtain ⟨inside, ends⟩ := closes
  cases rest with
  | nil => simp at ends
  | cons c more =>
    refine ⟨c, more, rfl, or_iff_not_imp_left.mpr fun solid => ?_⟩
    rw [List.dropWhile_cons_of_neg solid] at ends
    exact (List.cons.inj ends).1

theorem isTagSpace_cases {c : Char} (space : isTagSpace c = true) : c = ' ' ∨ c = '\t' ∨ c = '\n' ∨ c = '\r' := by
  simpa [isTagSpace, or_assoc] using space

theorem splitWord_field {name : List Char} (named : ∀ c ∈ name, isFieldChar c = true) (closes : Closes rest) :
    (name ++ rest).takeWhile isNameChar = name ∧ (name ++ rest).dropWhile isNameChar = rest := by
  obtain ⟨c, more, rfl, ends⟩ := closes.head
  have stops : isNameChar c = false := by
    rcases ends with space | rfl
    · rcases isTagSpace_cases space with rfl | rfl | rfl | rfl <;> rfl
    · rfl
  have names (c : Char) (member : c ∈ name) : isNameChar c = true := isNameChar_of_isFieldChar (named c member)
  rw [List.takeWhile_append_of_pos names, List.dropWhile_append_of_pos names]
  simp [stops]

theorem referenceWord_field {name : List Char} (named : ∀ c ∈ name, isFieldChar c = true) (closes : Closes rest) :
    referenceWord false (name ++ rest) = (name, rest) := by
  induction name with
  | nil =>
    obtain ⟨c, more, rfl, ends⟩ := closes.head
    rcases ends with space | rfl
    · rcases isTagSpace_cases space with rfl | rfl | rfl | rfl <;> rfl
    · rfl
  | cons c name ih =>
    have bracket : (c == '[') = false := beq_eq_false_iff_ne.mpr (ne_of_isFieldChar (named c (by simp)) rfl)
    simp [referenceWord, isNameChar_of_isFieldChar (named c (by simp)), bracket,
      ih fun other member => named other (by simp [member])]

theorem isFieldChar_of_isStep {c : Char} (step : isStep c = true) : isFieldChar c = false := by
  rcases Bool.or_eq_true_iff.mp step with dot | slash
  · rw [beq_iff_eq.mp dot]
    rfl
  · rw [beq_iff_eq.mp slash]
    rfl

section

variable {name : List Char} (named : ∀ c ∈ name, isFieldChar c = true)
include named

theorem not_mem_of_field {c : Char} (other : isFieldChar c = false) : c ∉ name := fun member =>
  ne_of_isFieldChar (named c member) other rfl

theorem afterCurrent_field : afterCurrent name = name := by
  fun_cases afterCurrent name with
  | case1 c rest step => exact absurd (by simp) (not_mem_of_field named (isFieldChar_of_isStep step))
  | case3 rest => exact absurd (by simp) (not_mem_of_field named (c := '.') rfl)
  | case2 | case4 => rfl

theorem afterRoot_field : afterRoot name = (false, name) := by
  fun_cases afterRoot name with
  | case1 c rest step => exact absurd (by simp) (not_mem_of_field named (c := '@') rfl)
  | case2 | case3 => rfl

theorem afterLevels_field : afterLevels name = (0, name) := by
  fun_cases afterLevels name with
  | case1 c rest step => exact absurd (by simp) (not_mem_of_field named (c := '.') rfl)
  | case2 | case3 => rfl

theorem wordParts_field : wordParts false name = [name] := by
  induction name with
  | nil => rfl
  | cons c name ih =>
    obtain ⟨here, later⟩ := List.forall_mem_cons.mp named
    have bracket : (c == '[') = false := beq_eq_false_iff_ne.mpr (ne_of_isFieldChar here rfl)
    have step : isStep c = false := by
      by_contra step
      rw [isFieldChar_of_isStep (Bool.of_not_eq_false step)] at here
      cases here
    simp [wordParts, bracket, step, ih later]

theorem partName?_field (nonempty : name ≠ []) : partName? name = some (String.ofList name) := by
  rw [partName?.eq_2]
  · simpa [nonempty] using fun c member => isNameChar_of_isFieldChar (named c member)
  · rintro inside rfl
    exact absurd (by simp) (not_mem_of_field named (c := '[') rfl)

end

def fieldReference (name : List Char) : Reference :=
  { word := String.ofList name, names := [String.ofList name] }

theorem of_isFieldName {name : List Char} (named : isFieldName name = true) :
    name ≠ [] ∧ (∀ c ∈ name, isFieldChar c = true) ∧ String.ofList name ∉ reservedNames := by
  simp only [isFieldName, Bool.and_eq_true, List.all_eq_true, Bool.not_eq_true', List.contains_eq_mem,
    decide_eq_false_iff_not] at named
  obtain ⟨⟨⟨first, chars⟩, -⟩, free⟩ := named
  refine ⟨?_, chars, free⟩
  rintro rfl
  cases first

theorem referenceOf?_field {name : List Char} (named : isFieldName name = true) :
    referenceOf? name = some (fieldReference name) := by
  obtain ⟨nonempty, chars, free⟩ := of_isFieldName named
  have notThis : String.ofList name ≠ "this" := fun same => free (same ▸ by decide)
  -- The match on the mark of a local value is opened by this fact.
  have notLocal : ∀ body, name = '@' :: body → False := by
    rintro body rfl
    exact absurd (by simp) (not_mem_of_field chars (c := '@') rfl)
  simp [referenceOf?, afterCurrent_field chars, afterRoot_field chars, afterLevels_field chars,
    wordParts_field chars, partName?_field chars nonempty, notThis, fieldReference]

theorem scanInputs_closes (call : OpenCall) (bare : call.key = none) (closes : Closes rest) :
    scanInputs call [] rest = some (call, rest.dropWhile isTagSpace) := by
  obtain ⟨inside, ends⟩ := closes
  have input : scanInput? ('\x7d' :: inside) = none := by
    rfl
  rw [scanInputs]
  simp [ends, input, Scan.of?, bare]

theorem scanShown?_field {name : List Char} (named : isFieldName name = true) (closes : Closes rest) :
    scanShown? (name ++ rest) = some (.reference (fieldReference name), rest) := by
  obtain ⟨nonempty, chars, -⟩ := of_isFieldName named
  obtain ⟨word, behind⟩ := splitWord_field chars closes
  have called : scanName? (name ++ rest) = some (String.ofList name, rest) := by
    simp [scanName?, word, behind, nonempty]
  have bare := scanInputs_closes { helper := String.ofList name } rfl closes
  rw [scanShown?.eq_2]
  · simp [called, bare, scanReference?, referenceWord_field chars closes, referenceOf?_field named]
  · rintro tail same
    obtain ⟨c, name, rfl⟩ := List.exists_cons_of_ne_nil nonempty
    exact ne_of_isFieldChar (chars c (by simp)) rfl (List.cons.inj same).1

theorem frontMark_append {spaces : List Char} {c : Char} (blank : ∀ c ∈ spaces, isTagSpace c = true)
    (solid : isTagSpace c = false) (other : c ≠ '~') : frontMark (spaces ++ c :: cs) = (false, c :: cs) := by
  rw [frontMark, Text.dropWhile_append_of_head blank (by simpa using solid)]
  simp [other]

theorem closed?_append {spaces : List Char} {trims : Bool} (tag : Tag) (braces : List Char)
    (blank : ∀ c ∈ spaces, isTagSpace c = true) (brace : braces.head? = some '\x7d') :
    closed? trims braces tag (spaces ++ (braces ++ rest)) = some (⟨tag, trims, false⟩, rest) := by
  obtain ⟨braces, rfl⟩ := List.head?_eq_some_iff.mp brace
  have front : frontMark (spaces ++ ('\x7d' :: braces ++ rest)) = (false, '\x7d' :: braces ++ rest) :=
    frontMark_append blank rfl (by decide)
  simp only [closed?, scanClose?, front, Text.afterPrefix?_append, Option.map_some]

theorem closes_append {spaces : List Char} (blank : ∀ c ∈ spaces, isTagSpace c = true) :
    Closes (spaces ++ '\x7d' :: cs) :=
  ⟨cs, Text.dropWhile_append_of_head blank (by rintro _ ⟨⟩; rfl)⟩

theorem head_field {name : List Char} (named : isFieldName name = true) :
    ∃ c inside, name = c :: inside ∧ isFieldChar c = true ∧ isTagSpace c = false := by
  obtain ⟨nonempty, chars, -⟩ := of_isFieldName named
  obtain ⟨c, inside, rfl⟩ := List.exists_cons_of_ne_nil nonempty
  have field := chars c (by simp)
  refine ⟨c, inside, rfl, field, Bool.eq_false_iff.mpr fun space => ?_⟩
  rcases isTagSpace_cases space with rfl | rfl | rfl | rfl <;> revert field <;> decide

section

variable {left name right : List Char} (named : isFieldName name = true)
  (spaces : ∀ c ∈ left ++ right, isTagSpace c = true)
include named spaces

theorem frontMark_field : frontMark (left ++ (name ++ rest)) = (false, name ++ rest) := by
  obtain ⟨c, inside, rfl, field, solid⟩ := head_field named
  exact frontMark_append (fun c member => spaces c (by simp [member])) solid (ne_of_isFieldChar field rfl)

/-- The text of a tag that shows a field begins with a space or with a character of the name. -/
theorem head_ne_field {other : Char} (notField : isFieldChar other = false) (notSpace : isTagSpace other = false)
    (notTrim : other ≠ '~') : ∀ tail, left ++ (name ++ rest) ≠ other :: tail := by
  intro tail same
  have front : frontMark (left ++ (name ++ rest)) = (false, name ++ rest) := frontMark_field named spaces
  rw [same, show other :: tail = [] ++ other :: tail from rfl, frontMark_append (by simp) notSpace notTrim] at front
  obtain ⟨c, inside, rfl, field, -⟩ := head_field named
  exact ne_of_isFieldChar field notField (List.cons.inj (Prod.ext_iff.mp front).2).1.symm

theorem readTag?_field :
    readTag? (left ++ (name ++ (right ++ (tagClose ++ rest)))) =
      some (⟨.shows (.reference (fieldReference name)), false, false⟩, rest) := by
  have blank : ∀ c ∈ right, isTagSpace c = true := fun c member => spaces c (by simp [member])
  obtain ⟨-, chars, free⟩ := of_isFieldName named
  have closes : Closes (right ++ (tagClose ++ rest)) := closes_append blank
  have notElse : String.ofList name ≠ "else" := fun same => free (same ▸ by decide)
  have word : scanWordTag? false (name ++ (right ++ (tagClose ++ rest))) =
      some (⟨.shows (.reference (fieldReference name)), false, false⟩, rest) := by
    simp [scanWordTag?, (splitWord_field chars closes).1, notElse, scanShown?_field named closes,
      closed?_append _ tagClose blank rfl]
  rw [readTag?.eq_2]
  · rw [frontMark_field named spaces]
    obtain ⟨c, inside, rfl, field, -⟩ := head_field named
    have other (mark : Char) (different : isFieldChar mark = false) : c ≠ mark := ne_of_isFieldChar field different
    rw [List.cons_append] at word ⊢
    simp [other '#' rfl, other '/' rfl, other '^' rfl, other '>' rfl, other '*' rfl, other '&' rfl,
      other '\x7b' rfl, word]
  · exact head_ne_field named spaces rfl rfl (by decide)

theorem readTag?_tripled :
    readTag? ('\x7b' :: (left ++ (name ++ (right ++ ('\x7d' :: tagClose ++ rest))))) =
      some (⟨.shows (.reference (fieldReference name)), false, false⟩, rest) := by
  have blank : ∀ c ∈ right, isTagSpace c = true := fun c member => spaces c (by simp [member])
  have closes : Closes (right ++ ('\x7d' :: tagClose ++ rest)) := closes_append blank
  have braced : scanBraced? false (left ++ (name ++ (right ++ ('\x7d' :: tagClose ++ rest)))) =
      some (⟨.shows (.reference (fieldReference name)), false, false⟩, rest) := by
    simp only [scanBraced?, frontMark_field named spaces, scanShown?_field named closes, Option.bind_eq_bind,
      Option.bind_some, Bool.or_self, closed?_append _ ('\x7d' :: tagClose) blank rfl, Option.some_or]
  have notRaw : ∀ tail, left ++ (name ++ (right ++ ('\x7d' :: tagClose ++ rest))) ≠ '\x7b' :: tail :=
    head_ne_field named spaces rfl rfl (by decide)
  have front : frontMark ('\x7b' :: (left ++ (name ++ (right ++ ('\x7d' :: tagClose ++ rest))))) =
      (false, '\x7b' :: (left ++ (name ++ (right ++ ('\x7d' :: tagClose ++ rest))))) := rfl
  rw [readTag?.eq_2 _ (by simp), front]
  simp only
  split
  · rename_i inside _ same
    exact absurd same (notRaw inside)
  · exact braced

end

theorem splitAtFirst_append (body rest : List Char) (absent : ¬ tagClose <:+: body ++ ['\x7d']) :
    splitAtFirst tagClose (body ++ (tagClose ++ rest)) = some (body, rest) := by
  induction body with
  | nil => rfl
  | cons c body ih =>
    rw [List.cons_append, List.infix_cons_iff, not_or] at absent
    have later : ¬ tagClose.isPrefixOf (c :: (body ++ (tagClose ++ rest))) = true := by
      rw [List.isPrefixOf_iff_prefix]
      cases body <;> simpa [tagClose, List.cons_prefix_cons] using absent.1
    rw [List.cons_append, splitAtFirst, if_neg later, ih absent.2]
    rfl

theorem readTag?_comment {body : List Char} (short : ¬ ['-', '-'] <+: body)
    (ends : ¬ tagClose <:+: body ++ ['\x7d']) :
    readTag? ('!' :: (body ++ (tagClose ++ rest))) = some (⟨.comment, false, false⟩, rest) := by
  have first : ¬ ['!', '-', '-'].isPrefixOf ('!' :: (body ++ (tagClose ++ rest))) = true := by
    rw [List.isPrefixOf_iff_prefix, List.cons_prefix_cons]
    match body with
    | [] | [_] => simp [tagClose, List.cons_prefix_cons]
    | c :: d :: body => simpa [List.cons_prefix_cons] using short
  have split := splitAtFirst_append ('!' :: body) rest (by
    rw [List.cons_append, List.infix_cons_iff, not_or]
    exact ⟨by simp [tagClose, List.cons_prefix_cons], ends⟩)
  rw [List.cons_append] at split
  simp [readTag?, scanComment?, first, split]

/-! ## What pieces show -/

/-- The text that pieces show in a scope, of which no tag takes white space away and none opens a block. -/
inductive Shows (scope : Scope) : List Piece → List Char → Prop
  | nil : Shows scope [] []
  | text {cs shown : List Char} {pieces : List Piece} (later : Shows scope pieces shown) :
    Shows scope (.text cs :: pieces) (cs ++ shown)
  | argument {arg : Argument} {text shown : List Char} {pieces : List Piece} {alone : Bool}
    (given : arg.shown? scope = some text) (later : Shows scope pieces shown) :
    Shows scope (.tag ⟨⟨.shows arg, false, false⟩, alone⟩ :: pieces) (text ++ shown)
  | comment {shown : List Char} {pieces : List Piece} (later : Shows scope pieces shown) :
    Shows scope (.tag ⟨⟨.comment, false, false⟩, false⟩ :: pieces) shown

namespace Shows

variable {scope : Scope} {pieces : List Piece} {shown : List Char}

theorem trimBefore_eq (shows : Shows scope pieces shown) (cs : List Char) : trimBefore cs pieces = cs := by
  cases shows <;> rfl

theorem settle (shows : Shows scope pieces shown) : Shows scope (settle false false pieces) shown := by
  induction shows with
  | nil => exact .nil
  | @text cs shown pieces later ih =>
    rw [Template.settle]
    cases cs with
    | nil => simpa using ih
    | cons c cs => simpa [later.trimBefore_eq] using @Shows.text scope (c :: cs) _ _ ih
  | argument given _ ih => exact .argument given ih
  | comment _ ih => exact .comment ih

theorem fillAll_of_nest (shows : Shows scope pieces shown) (done : List Element) :
    ∃ elements, nest [] done pieces = some (done.reverse ++ elements) ∧ fillAll scope elements = some shown := by
  induction shows generalizing done with
  | nil => exact ⟨[], by simp [nest], rfl⟩
  | @text cs _ _ _ ih =>
    obtain ⟨elements, nested, filled⟩ := ih (.text cs :: done)
    exact ⟨.text cs :: elements, by simpa [nest] using nested, by simp [fillAll, Element.fill, filled]⟩
  | @argument arg _ _ _ _ given _ ih =>
    obtain ⟨elements, nested, filled⟩ := ih (.shows arg :: done)
    exact ⟨.shows arg :: elements, by simpa [nest] using nested, by simp [fillAll, Element.fill, given, filled]⟩
  | comment _ ih => simpa [nest] using ih done

theorem behind {front text : List Char} (shows : Shows scope (.text text :: pieces) shown) :
    Shows scope (.text (front ++ text) :: pieces) (front ++ shown) := by
  cases shows with
  | text later =>
    rw [← List.append_assoc]
    exact .text later

theorem render?_eq {source : String} {value : Json.Document} (read : pieces? [] source.toList = some pieces)
    (shows : Shows (.start value) pieces shown) : render? source value = some (String.ofList shown) := by
  obtain ⟨elements, nested, filled⟩ := shows.settle.fillAll_of_nest []
  rw [List.reverse_nil, List.nil_append] at nested
  simp [render?, read?, read, nested, filled]

end Shows

theorem shown?_field {name : List Char} (named : isFieldName name = true) (value : String) :
    (Argument.reference (fieldReference name)).shown? (.start (propertyData value)) =
      some (if name = valueName then value.toList else []) := by
  obtain ⟨-, -, free⟩ := of_isFieldName named
  have noHelper : helperNames.contains (String.ofList name) = false := by
    rw [Bool.eq_false_iff, Ne, List.contains_iff_mem]
    exact fun helper => free (List.mem_append_left _ helper)
  have word : "value" = String.ofList name ↔ name = valueName := by
    rw [show "value" = String.ofList valueName from rfl, String.ofList_inj]
    exact eq_comm
  have found : (Scope.start (propertyData value)).find? (fieldReference name) =
      some (if name = valueName then .text value else .null) := by
    simp [Scope.find?, fieldReference, Scope.start, Scope.named?, Scope.valueAt, Fields.get?, follow?, propertyData,
      Json.Document.field?, word]
    split <;> rfl
  simp only [Argument.shown?, fieldReference, noHelper, Bool.false_eq_true, if_false]
  rw [fieldReference] at found
  rw [found]
  split <;> simp [printed]

/-- A tag behind several backslashes, or none, is a text of one backslash less, the tag, and what comes behind it. -/
theorem pieces?_slashes {slashes : Nat} (inside : List Char) {marked : MarkedTag} {more : List Piece}
    (several : slashes ≠ 1) (nonempty : inside ≠ []) (scanned : readTag? (inside ++ rest) = some (marked, rest))
    (read : pieces? ((List.replicate slashes '\\' ++ (tagOpen ++ inside)).reverse ++ before) rest = some more) :
    ∃ alone, pieces? before (List.replicate slashes '\\' ++ (tagOpen ++ (inside ++ rest))) =
      some (.text (List.replicate (slashes - 1) '\\') :: .tag ⟨marked, alone⟩ :: more) := by
  rw [List.reverse_append, List.append_assoc] at read
  have plain : scanPlain 0 (List.replicate slashes '\\' ++ (tagOpen ++ (inside ++ rest))) =
      (List.replicate (slashes - 1) '\\' ++ (scanPlain 0 (tagOpen ++ (inside ++ rest))).1,
        (scanPlain 0 (tagOpen ++ (inside ++ rest))).2) := by
    rw [scanPlain_slashes several, scanPlain_tag, List.append_nil]
  have behind := pieces?_append plain (pieces?_tag inside nonempty scanned read)
  rw [List.append_nil] at behind
  exact ⟨_, behind⟩

theorem pieces?_mark {mark : Mark} {value : String} {text shown : List Char} {more : List Piece} (sound : mark.Sound)
    (fits : mark.Fits before rest) (read : pieces? (mark.spelled.reverse ++ before) rest = some (.text text :: more))
    (shows : Shows (.start (propertyData value)) (.text text :: more) shown) :
    ∃ text more, pieces? before (mark.spelled ++ rest) = some (.text text :: more) ∧
      Shows (.start (propertyData value)) (.text text :: more) (mark.shown value.toList ++ shown) := by
  cases mark with
  | kept => exact ⟨_, _, pieces?_append (scanPlain_kept fits) read, shows.behind⟩
  | comment body =>
    obtain ⟨short, ends⟩ := sound
    have tag := pieces?_tag ('!' :: (body ++ tagClose)) (List.cons_ne_nil _ _)
      (by simpa using readTag?_comment short ends) read
    rw [show (endsBlankLine before && beginsBlankLine rest) = false from fits] at tag
    exact ⟨_, _, by simpa [Mark.spelled] using tag, @Shows.text _ [] _ _ (.comment shows)⟩
  | field slashes tripled left name right =>
    obtain ⟨several, spaces, named⟩ := sound
    have given := shown?_field named value
    cases tripled with
    | false =>
      obtain ⟨alone, tag⟩ := pieces?_slashes (left ++ (name ++ (right ++ tagClose))) several (by simp [tagClose])
        (by simpa using readTag?_field named spaces) read
      refine ⟨_, _, by simpa [Mark.spelled] using tag, ?_⟩
      simpa [Mark.shown] using Shows.text (.argument given shows)
    | true =>
      obtain ⟨alone, tag⟩ := pieces?_slashes
        ('\x7b' :: (left ++ (name ++ (right ++ ('\x7d' :: tagClose))))) several (List.cons_ne_nil _ _)
        (by simpa using readTag?_tripled named spaces) read
      refine ⟨_, _, by simpa [Mark.spelled] using tag, ?_⟩
      simpa [Mark.shown] using Shows.text (.argument given shows)

theorem Mark.take_spelled (mark : Mark) (rest : List Char) : (mark.spelled ++ rest).take 1 = mark.spelled.take 1 := by
  have nonempty : mark.spelled ≠ [] := by
    cases mark with
    | field slashes tripled => cases tripled <;> simp [Mark.spelled, tagOpen]
    | comment | kept => simp [Mark.spelled, tagOpen]
  exact List.take_append_of_le_length (List.length_pos_iff.mpr nonempty)

/-- The pieces of what a reading spells show what the reading shows. Each begins with a text, to which the braces that a
backslash keeps are added. -/
theorem exists_pieces {reading : Reading} (sound : reading.Sound before) (value : String) :
    ∃ text more, pieces? before reading.spelled = some (.text text :: more) ∧
      Shows (.start (propertyData value)) (.text text :: more) (reading.shown value.toList) := by
  induction sound with
  | @ends before cs unopened =>
    have plain := scanPlain_append 0 cs [] (by simpa using unopened) fun some => absurd rfl some
    have all : pieces? before cs = some [.text cs] := by
      rw [List.append_nil] at plain
      rw [pieces?_eq, plain]
      simp [scanPlain]
    exact ⟨cs, [], all, by simpa [Reading.shown] using @Shows.text _ cs _ _ .nil⟩
  | @goes before cs mark rest unopened unescaped sound fits _ ih =>
    obtain ⟨text, more, read, shows⟩ := ih
    rw [List.reverse_append, List.append_assoc] at read
    obtain ⟨text, more, read, shows⟩ := pieces?_mark sound fits read shows
    have plain := scanPlain_append 0 cs (mark.spelled ++ rest.spelled) (by rwa [mark.take_spelled]) fun _ => unescaped
    exact ⟨cs ++ text, more, pieces?_append plain read, shows.behind⟩

/-- Templates are filled in by the grammar. -/
theorem render?_followsGrammar : FollowsGrammar render? := by
  intro reading sound value
  obtain ⟨text, more, read, shows⟩ := exists_pieces sound value
  exact Shows.render?_eq (by rwa [String.toList_ofList]) shows

end WidgetSource.Template
