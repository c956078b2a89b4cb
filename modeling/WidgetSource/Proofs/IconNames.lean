import WidgetSource.Dart.Icon
import WidgetSource.Fields
import WidgetSource.Proofs.Trimming
import Mathlib.Data.List.SplitBy

/-!
# Names of icons

The names of the icon collection are words of small letters and digits with underscores between them. Snake case cuts
such words where letters and digits meet, so that a name is kept if no word has both.
-/
namespace WidgetSource

namespace Text

def isPlain (c : Char) : Bool :=
  ('a' ≤ c && c ≤ 'z') || isDigit c

def sameSort (c d : Char) : Bool :=
  isDigit c == isDigit d

theorem forall_isPlain {P : Char → Prop} (all : ∀ n < 128, isPlain (Char.ofNat n) = true → P (Char.ofNat n)) {c : Char}
    (plain : isPlain c = true) : P c := by
  have small : c.toNat < 128 := by
    have bounds := plain
    simp only [isPlain, isDigit, Bool.or_eq_true, Bool.and_eq_true, decide_eq_true_eq, Char.le_def,
      UInt32.le_iff_toNat_le] at bounds
    rcases bounds with ⟨_, top⟩ | ⟨_, top⟩ <;> exact Nat.lt_of_le_of_lt top (by decide)
  have here := all c.toNat small
  rw [Char.ofNat_toNat] at here
  exact here plain

variable {c d : Char} {cs word : List Char} {before : List Char} {more : List (List Char)}

theorem isPlain_cluster (plain : isPlain c = true) : ClusterClass.of c = .other :=
  forall_isPlain (P := fun c => ClusterClass.of c = .other) (by decide +kernel) plain

theorem isPlain_lower (plain : isPlain c = true) : lowerChar c = [c] ∧ c ≠ 'Σ' :=
  forall_isPlain (P := fun c => lowerChar c = [c] ∧ c ≠ 'Σ') (by decide +kernel) plain

theorem isPlain_solid (plain : isPlain c = true) : isSeparator [c] = false ∧ isSpace c = false ∧ c ≠ '_' :=
  forall_isPlain (P := fun c => isSeparator [c] = false ∧ isSpace c = false ∧ c ≠ '_') (by decide +kernel) plain

theorem isPlain_case (plain : isPlain c = true) :
    isUpper [c] = false ∧ isLower [c] = !isDigit c ∧ isDigits [c] = isDigit c :=
  forall_isPlain (P := fun c => isUpper [c] = false ∧ isLower [c] = !isDigit c ∧ isDigits [c] = isDigit c)
    (by decide +kernel) plain

theorem lowerChars_eq_self (plain : ∀ c ∈ cs, isPlain c = true) : lowerChars cs = cs := by
  have after (before : List Char) : lowerAfter before cs = cs := by
    induction cs generalizing before with
    | nil => rfl
    | cons c cs ih =>
      obtain ⟨lower, noSigma⟩ := isPlain_lower (plain c List.mem_cons_self)
      rw [lowerAfter, if_neg noSigma, lower, ih fun d member => plain d (List.mem_cons_of_mem c member)]
      rfl
  exact after []

theorem clusters_eq_map (alone : ∀ c ∈ cs, ClusterClass.of c = .other) : clusters cs = cs.map ([·]) := by
  have after (run : PictographRun) {cs : List Char} (alone : ∀ c ∈ cs, ClusterClass.of c = .other) :
      clustersAfter .other run cs = ([], cs.map ([·])) := by
    induction cs generalizing run with
    | nil => rfl
    | cons c cs ih =>
      have here := alone c List.mem_cons_self
      have rest := ih (run.next .other) fun d member => alone d (List.mem_cons_of_mem c member)
      rw [clustersAfter, here, rest]
      rfl
  cases cs with
  | nil => rfl
  | cons c cs =>
    have here := alone c List.mem_cons_self
    have rest := after (PictographRun.outside.next .other) fun d member => alone d (List.mem_cons_of_mem c member)
    rw [clusters, here]
    dsimp only
    rw [rest]
    rfl

theorem startsWord_plain (first : isPlain c = true) (second : isPlain d = true) (after : Option (List Char)) :
    startsWord [c] [d] after = !sameSort c d := by
  obtain ⟨upper, lower, digits⟩ := isPlain_case first
  obtain ⟨upper', lower', digits'⟩ := isPlain_case second
  rw [startsWord, upper, lower, digits, upper', lower', digits', sameSort]
  cases isDigit c <;> cases isDigit d <;> rfl

theorem wordsAfter_cons {here : List Char} (before : List Char) (solid : isSeparator here = false) :
    wordsAfter before (here :: more) =
      if startsWord before here more.head? then ([], (here ++ (wordsAfter here more).1) :: (wordsAfter here more).2)
      else (here ++ (wordsAfter here more).1, (wordsAfter here more).2) := by
  rw [wordsAfter]
  dsimp only
  rw [solid]
  rfl

theorem wordsAfter_underscore (before : List Char) (more : List (List Char)) :
    wordsAfter before (['_'] :: more) = ([], (wordsAfter ['_'] more).1 :: (wordsAfter ['_'] more).2) :=
  rfl

/-- Before an underscore, and at the end, the word in progress is over. -/
theorem wordsAfter_stop (before : List Char) (stops : ∀ cluster ∈ more.head?, cluster = ['_']) :
    wordsAfter before more = ([], (wordsAfter [] more).2) := by
  cases more with
  | nil => rfl
  | cons cluster more =>
    obtain rfl := stops cluster rfl
    rw [wordsAfter_underscore, wordsAfter_underscore]

theorem splitBy_cons_of_related {α : Type} {r : α → α → Bool} {a b : α} {items piece : List α}
    {pieces : List (List α)} (cut : (b :: items).splitBy r = piece :: pieces) (related : r a b = true) :
    (a :: b :: items).splitBy r = (a :: piece) :: pieces := by
  obtain ⟨joined, filled, inside, between⟩ := List.splitBy_eq_iff.mp cut
  cases piece with
  | nil => exact absurd List.mem_cons_self filled
  | cons first piece =>
    obtain rfl : b = first := (List.cons.inj joined).1
    refine List.splitBy_eq_iff.mpr ⟨by rw [joined]; rfl, by simpa using filled, ?_, ?_⟩
    · refine List.forall_mem_cons.mpr ⟨?_, fun part member => inside part (List.mem_cons_of_mem _ member)⟩
      exact List.isChain_cons_cons.mpr ⟨related, inside _ List.mem_cons_self⟩
    · cases pieces with
      | nil => exact List.isChain_singleton _
      | cons next pieces =>
        obtain ⟨⟨_, nonempty, apart⟩, later⟩ := List.isChain_cons_cons.mp between
        exact List.isChain_cons_cons.mpr ⟨⟨List.cons_ne_nil _ _, nonempty, apart⟩, later⟩

theorem splitBy_cons_of_not_related {α : Type} {r : α → α → Bool} {a b : α} (items : List α) (apart : r a b = false) :
    (a :: b :: items).splitBy r = [a] :: (b :: items).splitBy r := by
  apply List.splitBy_append_cons (l := [a])
  rintro _ ⟨⟩
  exact apart

theorem wordsAfter_plain (first : isPlain c = true) (plain : ∀ d ∈ cs, isPlain d = true)
    (stops : ∀ cluster ∈ more.head?, cluster = ['_']) :
    (c :: (wordsAfter [c] (cs.map ([·]) ++ more)).1) :: (wordsAfter [c] (cs.map ([·]) ++ more)).2 =
      (c :: cs).splitBy sameSort ++ (wordsAfter [] more).2 := by
  induction cs generalizing c with
  | nil =>
    rw [List.map_nil, List.nil_append, wordsAfter_stop [c] stops]
    rfl
  | cons d cs ih =>
    have second := plain d List.mem_cons_self
    have rest := ih second fun e member => plain e (List.mem_cons_of_mem d member)
    have solid := (isPlain_solid second).1
    rw [List.map_cons, List.cons_append, wordsAfter_cons [c] solid, startsWord_plain first second]
    cases same : sameSort c d with
    | false =>
      rw [splitBy_cons_of_not_related cs same]
      exact congrArg (List.cons [c]) rest
    | true =>
      -- The word in progress is the first piece of the rest, which takes the character in front.
      cases cut : (d :: cs).splitBy sameSort with
      | nil => exact absurd (List.splitBy_eq_nil.mp cut) (List.cons_ne_nil d cs)
      | cons piece pieces =>
        rw [cut, List.cons_append] at rest
        obtain ⟨head, tail⟩ := List.cons.inj rest
        rw [splitBy_cons_of_related cut same]
        exact congrArg₂ (fun head tail => (c :: head) :: tail) head tail

variable {words : List (List Char)}

theorem intercalate_cons (separator word : List Char) (words : List (List Char)) :
    separator.intercalate (word :: words) = word ++ words.flatMap (separator ++ ·) := by
  induction words generalizing word with
  | nil => simp
  | cons next words ih => rw [List.intercalate_cons_cons, ih, List.flatMap_cons, List.append_assoc, List.append_assoc]

theorem words_stop (words : List (List Char)) :
    ∀ cluster ∈ ((words.flatMap (['_'] ++ ·)).map ([·])).head?, cluster = ['_'] := by
  cases words with
  | nil => nofun
  | cons word words =>
    rintro _ ⟨⟩
    rfl

theorem startsWord_underscore (here : List Char) (after : Option (List Char)) :
    startsWord ['_'] here after = false := by
  have upper : isUpper ['_'] = false := by decide +kernel
  have lower : isLower ['_'] = false := by decide +kernel
  have digits : isDigits ['_'] = false := by decide
  rw [startsWord, upper, lower, digits]
  rfl

theorem wordsAfter_underscores (filled : ∀ word ∈ words, word ≠ [])
    (plain : ∀ word ∈ words, ∀ c ∈ word, isPlain c = true) :
    (wordsAfter [] ((words.flatMap (['_'] ++ ·)).map ([·]))).2 = words.flatMap (List.splitBy sameSort) := by
  induction words with
  | nil => rfl
  | cons word words ih =>
    obtain ⟨nonempty, rest⟩ := List.forall_mem_cons.mp filled
    obtain ⟨inside, plains⟩ := List.forall_mem_cons.mp plain
    obtain ⟨c, cs, rfl⟩ := List.exists_cons_of_ne_nil nonempty
    obtain ⟨first, later⟩ := List.forall_mem_cons.mp inside
    have cut := wordsAfter_plain first later (words_stop words)
    have solid := (isPlain_solid first).1
    have text : ((c :: cs) :: words).flatMap (['_'] ++ ·) = '_' :: c :: (cs ++ words.flatMap (['_'] ++ ·)) := by
      simp
    rw [ih rest plains] at cut
    rw [text, List.map_cons, List.map_cons, List.map_append, List.flatMap_cons, ← cut]
    rw [wordsAfter_underscore, wordsAfter_cons ['_'] solid, startsWord_underscore]
    rfl

theorem words_intercalate (filled : ∀ word ∈ words, word ≠ [])
    (plain : ∀ word ∈ words, ∀ c ∈ word, isPlain c = true) :
    Text.words (['_'].intercalate words) = words.flatMap (List.splitBy sameSort) := by
  cases words with
  | nil => rfl
  | cons word words =>
    obtain ⟨nonempty, rest⟩ := List.forall_mem_cons.mp filled
    obtain ⟨inside, plains⟩ := List.forall_mem_cons.mp plain
    obtain ⟨c, cs, rfl⟩ := List.exists_cons_of_ne_nil nonempty
    obtain ⟨first, later⟩ := List.forall_mem_cons.mp inside
    have cut := wordsAfter_plain first later (words_stop words)
    have solid := (isPlain_solid first).1
    rw [wordsAfter_underscores rest plains] at cut
    have alone : ∀ d ∈ (c :: cs) ++ words.flatMap (['_'] ++ ·), ClusterClass.of d = .other := by
      intro d member
      rcases List.mem_append.mp member with here | there
      · exact isPlain_cluster (inside d here)
      · obtain ⟨word, known, member⟩ := List.mem_flatMap.mp there
        rcases List.mem_cons.mp member with rfl | member
        · decide +kernel
        · exact isPlain_cluster (plains word known d member)
    have kept : ((c :: cs).splitBy sameSort ++ words.flatMap (List.splitBy sameSort)).filter (!·.isEmpty) =
        (c :: cs).splitBy sameSort ++ words.flatMap (List.splitBy sameSort) := by
      refine List.filter_eq_self.mpr fun piece member => ?_
      have nonempty : piece ≠ [] := by
        rintro rfl
        simp at member
      simp [nonempty]
    rw [intercalate_cons, Text.words, clusters_eq_map alone, List.map_append, List.map_cons, List.cons_append,
      wordsAfter_cons [] solid, List.flatMap_cons, ← kept, ← cut]
    -- The start of the text counts as digits, so that an empty word may come before a letter. It is filtered out.
    generalize startsWord [] [c] _ = starts
    cases starts <;> rfl

theorem isPlain_pieces (plain : ∀ word ∈ words, ∀ c ∈ word, isPlain c = true) :
    ∀ piece ∈ words.flatMap (List.splitBy sameSort), ∀ c ∈ piece, isPlain c = true := by
  intro piece member c inside
  obtain ⟨word, known, part⟩ := List.mem_flatMap.mp member
  have there := List.mem_flatten_of_mem part inside
  rw [List.flatten_splitBy] at there
  exact plain word known c there

/-- Snake case puts an underscore wherever a letter and a digit meet. -/
theorem snakeCase_intercalate (filled : ∀ word ∈ words, word ≠ [])
    (plain : ∀ word ∈ words, ∀ c ∈ word, isPlain c = true) :
    snakeCase (['_'].intercalate words) = ['_'].intercalate (words.flatMap (List.splitBy sameSort)) := by
  have lower : (words.flatMap (List.splitBy sameSort)).map lowerChars = words.flatMap (List.splitBy sameSort) :=
    (List.map_congr_left fun piece member => lowerChars_eq_self (isPlain_pieces plain piece member)).trans
      (List.map_id _)
  rw [snakeCase, words_intercalate filled plain, lower]

theorem isChain_sameSort_iff : word.IsChain (fun c d => sameSort c d = true) ↔
    (∀ c ∈ word, isDigit c = true) ∨ ∀ c ∈ word, isDigit c = false := by
  induction word with
  | nil => simp
  | cons c rest ih =>
    cases rest with
    | nil => simp
    | cons d rest =>
      rw [List.isChain_cons_cons, ih, sameSort, beq_iff_eq]
      simp only [List.forall_mem_cons]
      grind

theorem splitBy_eq_singleton_iff (nonempty : word ≠ []) : word.splitBy sameSort = [word] ↔
    (∀ c ∈ word, isDigit c = true) ∨ ∀ c ∈ word, isDigit c = false := by
  rw [← isChain_sameSort_iff]
  refine ⟨fun single => ?_, List.splitBy_of_isChain nonempty⟩
  apply List.isChain_of_mem_splitBy (l := word)
  rw [single]
  exact List.mem_singleton_self word

theorem flatMap_splitBy_eq_self_iff (filled : ∀ word ∈ words, word ≠ []) :
    words.flatMap (List.splitBy sameSort) = words ↔ ∀ word ∈ words, word.splitBy sameSort = [word] := by
  refine ⟨fun same => ?_, fun single => ?_⟩
  · induction words with
    | nil => nofun
    | cons word words ih =>
      obtain ⟨nonempty, rest⟩ := List.forall_mem_cons.mp filled
      cases cut : word.splitBy sameSort with
      | nil => exact absurd (List.splitBy_eq_nil.mp cut) nonempty
      | cons piece pieces =>
        rw [List.flatMap_cons, cut, List.cons_append] at same
        obtain ⟨rfl, later⟩ := List.cons.inj same
        obtain ⟨joined, none, _⟩ := List.splitBy_eq_iff.mp cut
        have empty : pieces.flatten = [] := List.self_eq_append_right.mp joined
        obtain rfl : pieces = [] := by
          cases pieces with
          | nil => rfl
          | cons next pieces =>
            have nothing := List.flatten_eq_nil_iff.mp empty next List.mem_cons_self
            exact absurd (nothing ▸ List.mem_cons_of_mem _ List.mem_cons_self) none
        exact List.forall_mem_cons.mpr ⟨cut, ih rest later⟩
  · exact (List.flatMap_congr single).trans (List.flatMap_singleton' words)

end Text

namespace Dart

/-- A name of the icon collection by its words, with a letter at the start. -/
structure IconName where
  words : List (List Char)
  nonempty : words ≠ []
  filled : ∀ word ∈ words, word ≠ []
  plain : ∀ word ∈ words, ∀ c ∈ word, Text.isPlain c = true
  letter : ∀ c ∈ words.flatten.head?, isDigit c = false

def joinedWords (words : List (List Char)) : List Char :=
  ['_'].intercalate words

variable {words : List (List Char)}

theorem mem_joinedWords (plain : ∀ word ∈ words, ∀ c ∈ word, Text.isPlain c = true) :
    ∀ c ∈ joinedWords words, Text.isPlain c = true ∨ c = '_' := by
  cases words with
  | nil => nofun
  | cons word words =>
    obtain ⟨inside, plains⟩ := List.forall_mem_cons.mp plain
    rw [joinedWords, Text.intercalate_cons]
    intro c member
    rcases List.mem_append.mp member with here | there
    · exact .inl (inside c here)
    · obtain ⟨word, known, member⟩ := List.mem_flatMap.mp there
      rcases List.mem_cons.mp member with rfl | member
      · exact .inr rfl
      · exact .inl (plains word known c member)

namespace IconName

variable (name : IconName)

def text : String :=
  String.ofList (joinedWords name.words)

theorem text_toList : name.text.toList = joinedWords name.words :=
  String.toList_ofList

theorem text_solid : ∀ c ∈ name.text.toList, Text.isSpace c = false ∧ Text.asciiLower c = c ∧ isWordChar c = true := by
  intro c member
  rw [text_toList] at member
  rcases mem_joinedWords name.plain c member with plain | rfl
  · exact Text.forall_isPlain (P := fun c => Text.isSpace c = false ∧ Text.asciiLower c = c ∧ isWordChar c = true)
      (by decide +kernel) plain
  · decide

theorem text_letter : ∃ c rest, name.text.toList = c :: rest ∧ isDigit c = false ∧ c ≠ 'I' := by
  rw [text_toList]
  obtain ⟨words, nonempty, filled, plain, letter⟩ := name
  obtain ⟨word, words, rfl⟩ := List.exists_cons_of_ne_nil nonempty
  obtain ⟨c, cs, rfl⟩ := List.exists_cons_of_ne_nil (filled word List.mem_cons_self)
  have first := plain (c :: cs) List.mem_cons_self c List.mem_cons_self
  refine ⟨c, _, Text.intercalate_cons _ _ _, letter c rfl, ?_⟩
  exact Text.forall_isPlain (P := fun c => c ≠ 'I') (by decide +kernel) first

def cut : IconName where
  words := name.words.flatMap (List.splitBy Text.sameSort)
  nonempty empty := by
    obtain ⟨word, member⟩ := List.exists_mem_of_ne_nil name.words name.nonempty
    exact name.filled word member (List.splitBy_eq_nil.mp (List.flatMap_eq_nil_iff.mp empty word member))
  filled piece member := by
    obtain ⟨word, _, part⟩ := List.mem_flatMap.mp member
    exact List.ne_nil_of_mem_splitBy part
  plain := Text.isPlain_pieces name.plain
  letter := by
    have same : (name.words.flatMap (List.splitBy Text.sameSort)).flatten = name.words.flatten := by
      rw [List.flatMap_def, List.flatten_flatten, List.map_map]
      have joined : name.words.map (List.flatten ∘ List.splitBy Text.sameSort) = name.words.map id :=
        List.map_congr_left fun word _ => List.flatten_splitBy _ word
      rw [joined, List.map_id]
    rw [same]
    exact name.letter

theorem snakeCase_text : Text.snakeCase name.text.toList = name.cut.text.toList := by
  rw [text_toList, text_toList]
  exact Text.snakeCase_intercalate name.filled name.plain

theorem cut_text_eq_iff : name.cut.text = name.text ↔
    ∀ word ∈ name.words, (∀ c ∈ word, isDigit c = true) ∨ ∀ c ∈ word, isDigit c = false := by
  have words : name.cut.text = name.text ↔ name.cut.words = name.words := by
    refine ⟨fun same => ?_, congrArg fun words => String.ofList (joinedWords words)⟩
    have apart (name : IconName) : name.text.toList.splitOn '_' = name.words := by
      rw [text_toList]
      apply List.splitOn_intercalate _ _ name.nonempty
      intro word member inside
      exact absurd rfl (Text.isPlain_solid (name.plain word member '_' inside)).2.2
    rw [← apart name.cut, same, apart name]
  rw [words]
  refine (Text.flatMap_splitBy_eq_self_iff name.filled).trans ?_
  exact forall₂_congr fun word member => Text.splitBy_eq_singleton_iff (name.filled word member)

theorem text_unaliased (other : name.text ∉ Fields.names iconAliases) :
    (TokenTable.mk iconAliases "").find? name.text = none := by
  have trimmed : Text.trim name.text = name.text := by
    rw [Text.trim, Text.trimChars_eq_self fun c member => (name.text_solid c member).1, String.ofList_toList]
  have lower : Text.asciiLowerText name.text = name.text := by
    rw [Text.asciiLowerText, List.map_congr_left fun c member => (name.text_solid c member).2.1]
    simp
  have keys : ∀ entry ∈ iconAliases, Text.asciiLowerText entry.1 = entry.1 := by decide +kernel
  rw [TokenTable.find?, trimmed, lower, Option.map_eq_none_iff, List.find?_eq_none]
  intro entry member same
  rw [keys entry member, beq_iff_eq] at same
  exact other (same ▸ List.mem_map_of_mem member)

theorem iconOf_eq {s : String} (bare : withoutCollection (Text.trimChars s.toList) = name.text.toList)
    (other : name.text ∉ Fields.names iconAliases) : iconOf s = "Icons." ++ name.cut.text := by
  obtain ⟨c, rest, letters, letter, _⟩ := name.cut.text_letter
  have kept : name.cut.text.toList.filter isWordChar = name.cut.text.toList :=
    List.filter_eq_self.mpr fun c member => (name.cut.text_solid c member).2.2
  unfold iconOf
  dsimp only
  rw [bare, String.ofList_toList, name.text_unaliased other, snakeCase_text, kept, letters]
  dsimp only
  rw [letter, ← letters, String.ofList_toList]
  rfl

end IconName

/-- An icon is the same with the collection in front of its name. The name itself is kept if no word of it has both
letters and digits. -/
theorem iconOf_kept_iff (name : IconName) (other : name.text ∉ Fields.names iconAliases) :
    iconOf name.text = iconOf ("Icons." ++ name.text) ∧
      (iconOf ("Icons." ++ name.text) = "Icons." ++ name.text ↔
        ∀ word ∈ name.words, (∀ c ∈ word, isDigit c = true) ∨ ∀ c ∈ word, isDigit c = false) := by
  have solid : ∀ c ∈ name.text.toList, Text.isSpace c = false := fun c member => (name.text_solid c member).1
  have alone : withoutCollection (Text.trimChars name.text.toList) = name.text.toList := by
    obtain ⟨c, rest, letters, _, noCapital⟩ := name.text_letter
    have other : "Icons.".toList.isPrefixOf (c :: rest) = false := by
      show ('I' == c && _) = false
      rw [beq_eq_false_iff_ne.mpr noCapital.symm, Bool.false_and]
    rw [Text.trimChars_eq_self solid, letters, withoutCollection, Text.afterPrefix?, other]
    rfl
  have collected : withoutCollection (Text.trimChars ("Icons." ++ name.text).toList) = name.text.toList := by
    have begins : "Icons.".toList.isPrefixOf ("Icons.".toList ++ name.text.toList) = true :=
      List.isPrefixOf_iff_prefix.mpr (List.prefix_append _ _)
    have unspaced : ∀ c ∈ "Icons.".toList ++ name.text.toList, Text.isSpace c = false :=
      List.forall_mem_append.mpr ⟨fun c member => Bool.eq_false_iff.mpr (List.any_eq_false.mp rfl c member), solid⟩
    rw [String.toList_append, Text.trimChars_eq_self unspaced, withoutCollection, Text.afterPrefix?, begins, if_pos rfl,
      List.drop_left]
    rfl
  rw [name.iconOf_eq alone other, name.iconOf_eq collected other]
  exact ⟨rfl, (String.append_right_inj "Icons.").trans name.cut_text_eq_iff⟩

def grid : IconName where
  words := [['g', 'r', 'i', 'd'], ['3', 'x', '3']]
  nonempty := by simp
  filled := by simp
  plain := by simp [Text.isPlain, isDigit]
  letter := by
    rintro _ ⟨⟩
    rfl

theorem grid_cut : grid.text = "grid_3x3" ∧ grid.text ∉ Fields.names iconAliases ∧
    iconOf grid.text = "Icons.grid_3_x_3" := by
  decide +kernel

def looks : IconName where
  words := [['l', 'o', 'o', 'k', 's'], ['3']]
  nonempty := by simp
  filled := by simp
  plain := by simp [Text.isPlain, isDigit]
  letter := by
    rintro _ ⟨⟩
    rfl

theorem looks_kept : looks.text ∉ Fields.names iconAliases ∧ iconOf looks.text = iconOf ("Icons." ++ looks.text) ∧
    (iconOf ("Icons." ++ looks.text) = "Icons." ++ looks.text ↔
      ∀ word ∈ looks.words, (∀ c ∈ word, isDigit c = true) ∨ ∀ c ∈ word, isDigit c = false) := by
  have other : looks.text ∉ Fields.names iconAliases := by decide +kernel
  exact ⟨other, iconOf_kept_iff looks other⟩

end Dart

end WidgetSource
