import WidgetSource.Proofs.Names
import Mathlib.Data.List.TakeWhile

namespace WidgetSource.Dart

/-- Outside literals there is an argument of that name, with this code after the colon. -/
def HasArgument (code name : String) (value : List Char) : Prop :=
  isIdentifier name = true ∧ ∃ before, outside code = before ++ (name.toList ++ ':' :: value) ∧
    ∀ c ∈ before.getLast?, continuesIdentifier c = false

def IsMissing (name : String) (value : List Char) : Prop :=
  name = "onPressed" ∧ ∃ rest, value = " null".toList ++ rest ∧ ∀ c ∈ rest.head?, isNameChar c = false

structure RuntimeFree (code : String) : Prop where
  noClosure : '{' ∉ outside code
  noArrow : ¬ "=>".toList <:+: outside code
  noStyle : ¬ ".styleFrom(".toList <:+: outside code
  noMatrix : ¬ "Matrix4.".toList <:+: outside code
  noTranslation : ¬ "AppLocalizations.of(".toList <:+: outside code
  handlers : ∀ name value, HasArgument code name value → isDynamicName name = true → IsMissing name value

/-- What is written before a colon has no dot in it, and only a missing handler has the name of an event. -/
def CalmLabel (name : List Char) (rest : List Piece) : Prop :=
  '.' ∉ name ∧ (isDynamicName (.ofList name) = true →
    name = "onPressed".toList ∧ ∃ tail, rest = .mark ' ' :: .word "null".toList :: tail)

def CalmAfter (word : List Char) : List Piece → Prop
  | .mark c :: rest => (c = '(' → IsMildCall word) ∧ (c = ':' → CalmLabel word rest)
  | _ => True

def Calm : List Piece → Prop
  | [] => True
  | .word word :: rest => IsMild word ∧ CalmAfter word rest ∧ Calm rest
  | .mark c :: rest => (c ≠ '{' ∧ c ≠ '=') ∧ Calm rest
  | .literal _ :: rest => Calm rest

namespace Calm

variable {pieces others front back : List Piece} {word : List Char} {c : Char}

/-- Calm pieces stay calm before other ones that begin with neither an argument list nor a value. -/
theorem append (first : Calm pieces) (second : Calm others)
    (next : ∀ piece ∈ others.head?, ∃ c, piece = .mark c ∧ c ≠ '(' ∧ c ≠ ':') : Calm (pieces ++ others) := by
  induction pieces with
  | nil => exact second
  | cons piece pieces ih =>
    cases piece with
    | mark c => exact ⟨first.1, ih first.2⟩
    | literal cs => exact ih first
    | word word =>
      refine ⟨first.1, ?_, ih first.2.2⟩
      cases pieces with
      | nil =>
        cases others with
        | nil => trivial
        | cons other others =>
          obtain ⟨c, rfl, noCall, noLabel⟩ := next other rfl
          exact ⟨fun isCall => absurd isCall noCall, fun isLabel => absurd isLabel noLabel⟩
      | cons after pieces =>
        cases after with
        | word | literal => trivial
        | mark c =>
          refine ⟨first.2.1.1, fun isLabel => ?_⟩
          obtain ⟨noDot, onlyMissing⟩ := first.2.1.2 isLabel
          refine ⟨noDot, fun dynamic => ?_⟩
          obtain ⟨isTap, tail, rfl⟩ := onlyMissing dynamic
          exact ⟨isTap, tail ++ others, rfl⟩

theorem marks {cs : List Char} (quiet : ∀ c ∈ cs, c ≠ '{' ∧ c ≠ '=') (calm : Calm pieces) :
    Calm (cs.map .mark ++ pieces) := by
  induction cs with
  | nil => exact calm
  | cons c cs ih => exact ⟨quiet c List.mem_cons_self, ih fun d later => quiet d (List.mem_cons_of_mem _ later)⟩

theorem of_append (calm : Calm (front ++ back)) : Calm back := by
  induction front with
  | nil => exact calm
  | cons piece front ih =>
    cases piece with
    | word => exact ih calm.2.2
    | mark => exact ih calm.2
    | literal => exact ih calm

theorem mark_mem (calm : Calm pieces) (member : .mark c ∈ pieces) : c ≠ '{' ∧ c ≠ '=' := by
  obtain ⟨front, back, rfl⟩ := List.append_of_mem member
  exact calm.of_append.1

end Calm

def CalmText (cs : List Char) : Prop :=
  ∃ pieces, Spelled cs pieces ∧ Calm pieces

theorem Spelled.head_mark {c : Char} {cs : List Char} {pieces : List Piece} (spelled : Spelled (c :: cs) pieces)
    (noName : isNameChar c = false) (noQuote : c ≠ '\'') : ∃ rest, pieces = .mark c :: rest := by
  have chars := spelled.chars_eq
  cases pieces with
  | nil => cases chars
  | cons piece rest =>
    have sound := spelled.sound piece List.mem_cons_self
    rw [List.flatMap_cons] at chars
    cases piece with
    | mark d =>
      cases chars
      exact ⟨rest, rfl⟩
    | literal inside =>
      cases chars
      exact absurd rfl noQuote
    | word word =>
      obtain ⟨d, word, rfl⟩ := List.exists_cons_of_ne_nil sound.1
      cases chars
      rw [sound.2 c List.mem_cons_self] at noName
      cases noName

namespace CalmText

variable {cs : List Char}

theorem word {word : List Char} (isName : isWord word = true) (mild : IsMild word) : CalmText word := by
  obtain ⟨nonempty, names⟩ := isWord_iff.mp isName
  exact ⟨[.word word], .word nonempty names, mild, trivial, trivial⟩

theorem marks (front : List Char) (quiet : ∀ c ∈ front, (isNameChar c = false ∧ c ≠ '\'') ∧ c ≠ '{' ∧ c ≠ '=')
    (calm : CalmText cs) : CalmText (front ++ cs) := by
  obtain ⟨pieces, spelled, calm⟩ := calm
  refine ⟨_, (Spelled.marks fun c member => (quiet c member).1).append spelled fun piece last _ _ => .inl ?_,
    calm.marks fun c member => (quiet c member).2⟩
  obtain ⟨c, _, rfl⟩ := List.mem_map.mp (List.mem_of_mem_getLast? last)
  rfl

theorem word_mark (word : List Char) (c : Char) {pieces : List Piece} (isName : isWord word = true) (mild : IsMild word)
    (isMark : (isNameChar c = false ∧ c ≠ '\'') ∧ c ≠ '{' ∧ c ≠ '=') (spelled : Spelled cs pieces) (calm : Calm pieces)
    (after : CalmAfter word (.mark c :: pieces)) : CalmText (word ++ c :: cs) := by
  obtain ⟨nonempty, names⟩ := isWord_iff.mp isName
  have mark : Spelled [c] [.mark c] := .marks fun d member => List.mem_singleton.mp member ▸ isMark.1
  have rest := mark.append spelled fun piece last _ _ => .inl (by cases last; rfl)
  exact ⟨_, (Spelled.word nonempty names).append rest fun _ _ other first => .inr (by cases first; rfl), mild, after,
    isMark.2, calm⟩

theorem labelled {arg : Option String × List Char} (allowed : LabelAllowed False arg) (calm : CalmText arg.2) :
    CalmText (labelled arg) := by
  obtain ⟨_ | name, value⟩ := arg
  · exact calm
  · obtain ⟨identifier, onlyMissing⟩ := allowed
    have noDot := no_dot_of_isIdentifier identifier
    have isName := isWord_of_isIdentifier identifier
    have mild : IsMild name.toList := isMild_of_missing (by decide) noDot
    have noCall : ':' = '(' → IsMildCall name.toList := fun wrong => absurd wrong (by decide)
    have space : Spelled [' '] [.mark ' '] := .marks (List.forall_mem_singleton.mpr (by decide))
    have spaced {pieces : List Piece} (spelled : Spelled value pieces) : Spelled (' ' :: value) (.mark ' ' :: pieces) :=
      space.append spelled fun piece last _ _ => .inl (by cases last; rfl)
    by_cases dynamic : isDynamicName name = true
    · obtain ⟨isTap, isNull⟩ := onlyMissing.resolve_left id dynamic
      subst isTap isNull
      have null : Spelled "null".toList [.word "null".toList] := .word (by decide) (List.all_eq_true.mp (by decide))
      have mildNull : IsMild "null".toList := isMild_of_missing (c := '4') (by decide) (by decide)
      exact .word_mark _ ':' isName mild (by decide) (spaced null) ⟨by decide, mildNull, trivial, trivial⟩
        ⟨noCall, fun _ => ⟨noDot, fun _ => ⟨rfl, [], rfl⟩⟩⟩
    · obtain ⟨pieces, spelled, calm⟩ := calm
      refine .word_mark name.toList ':' isName mild (by decide) (spaced spelled) ⟨by decide, calm⟩
        ⟨noCall, fun _ => ⟨noDot, fun wrong => ?_⟩⟩
      rw [String.ofList_toList] at wrong
      exact absurd wrong dynamic

theorem append {c : Char} {ds : List Char} (first : CalmText cs) (second : CalmText (c :: ds))
    (closes : c = ',' ∨ c = ')' ∨ c = ']') : CalmText (cs ++ c :: ds) := by
  obtain ⟨pieces, spelled, calm⟩ := first
  obtain ⟨others, next, calm_next⟩ := second
  have isMark : (isNameChar c = false ∧ c ≠ '\'') ∧ c ≠ '(' ∧ c ≠ ':' := by
    rcases closes with rfl | rfl | rfl <;> decide
  obtain ⟨others, rfl⟩ := next.head_mark isMark.1.1 isMark.1.2
  refine ⟨_, spelled.append next fun _ _ other first => .inr (by cases first; rfl), calm.append calm_next ?_⟩
  rintro _ ⟨⟩
  exact ⟨c, rfl, isMark.2⟩

end CalmText

theorem IsGap.quiet {breaks : Prop} {gap : List Char} (isGap : IsGap breaks gap) :
    ∀ c ∈ gap, (isNameChar c = false ∧ c ≠ '\'') ∧ c ≠ '{' ∧ c ≠ '=' := by
  intro c member
  rcases isGap c member with rfl | rfl | ⟨rfl, _⟩ <;> decide

theorem Woven.calm {breaks : Prop} {close : Char} {parts : List (List Char)} {cs : List Char}
    (woven : Woven breaks close parts cs) (isClose : close = ')' ∨ close = ']')
    (calm : ∀ part ∈ parts, CalmText part) : CalmText cs := by
  induction woven with
  | nil isGap =>
    have closing : CalmText ([close] ++ []) := by
      refine .marks [close] (fun c member => ?_) ⟨[], .nil, trivial⟩
      rw [List.mem_singleton.mp member]
      rcases isClose with rfl | rfl <;> decide
    exact .marks _ isGap.quiet closing
  | @cons gap part cs parts isGap woven next ih =>
    have first := calm part List.mem_cons_self
    have rest := ih fun other later => calm other (List.mem_cons_of_mem _ later)
    refine .marks _ isGap.quiet ?_
    cases cs with
    | nil => simpa using first
    | cons c cs =>
      refine first.append rest ?_
      rcases next c rfl with comma | rfl
      · exact .inl comma
      · exact .inr isClose

theorem Phrase.calm {breaks : Prop} {cs : List Char} (phrase : Phrase False breaks cs) : CalmText cs := by
  induction phrase with
  | word isName mild => exact .word isName (mild.resolve_left id)
  | negative isName mild =>
    exact .marks ['-'] (List.forall_mem_singleton.mpr (by decide)) (.word isName (mild.resolve_left id))
  | literal escaped => exact ⟨_, .literal escaped, trivial⟩
  | constant _ ih =>
    obtain ⟨pieces, spelled, calm⟩ := ih
    have mild : IsMild "const".toList := isMild_of_missing (c := '4') (by decide) (by decide)
    exact .word_mark "const".toList ' ' (by decide) mild (by decide) spelled calm
      ⟨fun wrong => absurd wrong (by decide), fun wrong => absurd wrong (by decide)⟩
  | call isName mild labels _ woven ih =>
    have mild := mild.resolve_left id
    have parts : CalmText _ := woven.calm (.inl rfl) (List.forall_mem_map.mpr fun arg member =>
      .labelled (labels arg member) (ih arg member))
    obtain ⟨pieces, spelled, calm⟩ := parts
    exact .word_mark _ '(' isName mild.mild (by decide) spelled calm
      ⟨fun _ => mild, fun wrong => absurd wrong (by decide)⟩
  | list _ woven ih => exact .marks ['['] (List.forall_mem_singleton.mpr (by decide)) (woven.calm (.inr rfl) ih)
  | @noItems type isName mild =>
    have brackets : CalmText (['['] ++ ([']'] ++ [])) := .marks _ (List.forall_mem_singleton.mpr (by decide))
      (.marks _ (List.forall_mem_singleton.mpr (by decide)) ⟨[], .nil, trivial⟩)
    obtain ⟨pieces, spelled, calm⟩ := brackets
    have whole : CalmText (type ++ '>' :: (['['] ++ ([']'] ++ []))) := .word_mark type '>' isName (mild.resolve_left id)
      (by decide) spelled calm ⟨fun wrong => absurd wrong (by decide), fun wrong => absurd wrong (by decide)⟩
    exact .marks ['<'] (List.forall_mem_singleton.mpr (by decide)) whole
  | stub known => exact known.elim
  | translation known => exact known.elim

section

variable {code : String} {pieces : List Piece}

theorem Spelled.mark_of_mem (spelled : Spelled code.toList pieces) {c : Char} (member : c ∈ outside code)
    (noName : isNameChar c = false) (noQuote : c ≠ '\'') : .mark c ∈ pieces := by
  rw [spelled.outside_eq] at member
  obtain ⟨piece, inside, member⟩ := List.mem_flatMap.mp member
  have sound := spelled.sound piece inside
  cases piece with
  | mark d =>
    cases List.mem_singleton.mp member
    exact inside
  | word word =>
    rw [sound.2 c member] at noName
    cases noName
  | literal =>
    simp only [Piece.outside, List.mem_cons, List.not_mem_nil, or_false, or_self] at member
    exact absurd member noQuote

theorem Spelled.word_before (spelled : Spelled code.toList pieces) {before name after : List Char} {c : Char}
    (isName : isWord name = true) (noName : isNameChar c = false) (noQuote : c ≠ '\'')
    (found : outside code = before ++ (name ++ c :: after)) :
    ∃ front start back, pieces = front ++ .word (start ++ name) :: .mark c :: back ∧
      front.flatMap Piece.outside ++ start = before ∧ back.flatMap Piece.outside = after := by
  obtain ⟨nonempty, names⟩ := isWord_iff.mp isName
  rw [spelled.outside_eq] at found
  obtain ⟨front, start, back, rfl, before_eq, after_eq⟩ :=
    word_of_run spelled.sound spelled.apart nonempty names (by simpa using noName) found
  cases back with
  | nil => cases after_eq
  | cons piece back =>
    have sound := spelled.sound piece (by simp)
    cases piece with
    | word word =>
      obtain ⟨d, word, rfl⟩ := List.exists_cons_of_ne_nil sound.1
      cases after_eq
      rw [sound.2 c List.mem_cons_self] at noName
      cases noName
    | literal =>
      cases after_eq
      exact absurd rfl noQuote
    | mark d =>
      cases after_eq
      exact ⟨front, start, back, rfl, before_eq, rfl⟩

theorem Spelled.isMissing (spelled : Spelled code.toList pieces) (calm : Calm pieces) {name : String}
    {value : List Char} (argument : HasArgument code name value) (dynamic : isDynamicName name = true) :
    IsMissing name value := by
  obtain ⟨identifier, before, found, ends⟩ := argument
  obtain ⟨front, start, back, rfl, before_eq, after_eq⟩ :=
    spelled.word_before (isWord_of_isIdentifier identifier) (by decide) (by decide) found
  obtain ⟨noDot, onlyMissing⟩ := calm.of_append.2.1.2 rfl
  have sound := spelled.sound (.word (start ++ name.toList)) (by simp)
  -- A name character in front would continue the identifier.
  have whole : start = [] := by
    rcases List.eq_nil_or_concat start with empty | ⟨start, c, rfl⟩
    · exact empty
    · have noContinue := ends c (by simp [← before_eq])
      have isName := sound.2 c (by simp)
      have isDot : c = '.' := by simpa [isNameChar, noContinue] using isName
      exact absurd (by simp [isDot]) noDot
  subst whole
  rw [List.nil_append, String.ofList_toList] at onlyMissing
  obtain ⟨isTap, tail, rfl⟩ := onlyMissing dynamic
  refine ⟨String.toList_inj.mp isTap, tail.flatMap Piece.outside, after_eq.symm, ?_⟩
  have apart : (Piece.word "null".toList :: tail).IsChain Piece.Apart :=
    spelled.apart.suffix ⟨front ++ [.word name.toList, .mark ':', .mark ' '], by simp⟩
  exact head_not_nameChar (fun piece member => spelled.sound piece (by simp [member])) fun piece first =>
    ((List.isChain_cons.mp apart).1 piece first).resolve_left (by simp [Piece.isWord])

theorem Spelled.isMildCall (spelled : Spelled code.toList pieces) (calm : Calm pieces) {name : List Char}
    (isName : isWord name = true) (found : name ++ ['('] <:+: outside code) : ∃ start, IsMildCall (start ++ name) := by
  obtain ⟨before, after, found⟩ := found
  have split : outside code = before ++ (name ++ '(' :: after) := by
    rw [← found, List.append_assoc, List.append_assoc, List.singleton_append]
  obtain ⟨front, start, back, rfl, _, _⟩ := spelled.word_before isName (by decide) (by decide) split
  exact ⟨start, calm.of_append.2.1.1 rfl⟩

theorem Spelled.noMatrix (spelled : Spelled code.toList pieces) (calm : Calm pieces) :
    ¬ matrixName <:+: outside code := by
  rintro ⟨before, after, found⟩
  -- The word may go on after the point.
  have names : ∀ c ∈ matrixName ++ after.takeWhile isNameChar, isNameChar c = true :=
    List.forall_mem_append.mpr ⟨List.all_eq_true.mp (by decide), fun c member => List.mem_takeWhile_imp member⟩
  have ends : ∀ c ∈ (after.dropWhile isNameChar).head?, isNameChar c = false := by
    intro c member
    have noName := List.head?_dropWhile_not isNameChar after
    rw [member] at noName
    exact noName
  have split : pieces.flatMap Piece.outside =
      before ++ ((matrixName ++ after.takeWhile isNameChar) ++ after.dropWhile isNameChar) := by
    rw [← spelled.outside_eq, ← found, List.append_assoc, List.append_assoc, List.takeWhile_append_dropWhile]
  obtain ⟨front, start, back, rfl, _, _⟩ :=
    word_of_run spelled.sound spelled.apart (List.append_ne_nil_of_left_ne_nil (by decide) _) names ends split
  have mild := calm.of_append.1
  exact mild ⟨start, after.takeWhile isNameChar, List.append_assoc ..⟩

theorem Spelled.runtimeFree (spelled : Spelled code.toList pieces) (calm : Calm pieces) : RuntimeFree code where
  noClosure member := (calm.mark_mem (spelled.mark_of_mem member (by decide) (by decide))).1 rfl
  noArrow arrow :=
    (calm.mark_mem (spelled.mark_of_mem (arrow.subset (by decide : '=' ∈ _)) (by decide) (by decide))).2 rfl
  noStyle found := by
    have call : ".styleFrom(".toList = styleName ++ ['('] := by decide
    rw [call] at found
    obtain ⟨start, mild⟩ := spelled.isMildCall calm (by decide) found
    exact mild.noStyle (List.suffix_append start styleName)
  noMatrix found := by
    have name : "Matrix4.".toList = matrixName := by decide
    rw [name] at found
    exact spelled.noMatrix calm found
  noTranslation found := by
    have call : "AppLocalizations.of(".toList = translationsName ++ ['('] := by decide
    rw [call] at found
    obtain ⟨start, mild⟩ := spelled.isMildCall calm (by decide) found
    exact mild.noTranslations (List.suffix_append start translationsName)
  handlers _ _ argument dynamic := spelled.isMissing calm argument dynamic

end

end WidgetSource.Dart
