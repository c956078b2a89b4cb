import WidgetSource.Dart.Identifier
import WidgetSource.Dart.Literal
import Mathlib.Data.List.Chain

namespace WidgetSource.Dart

/-- Where a reader stands: outside literals, in a literal, or after a backslash in a literal. -/
inductive Mode
  | code | literal | escape
  deriving DecidableEq

def Mode.next : Mode → Char → Mode
  | .code, c => if c = '\'' then .literal else .code
  | .literal, c => if c = '\'' then .code else if c = '\\' then .escape else .literal
  | .escape, _ => .literal

def outsideFrom (mode : Mode) : List Char → List Char
  | [] => []
  | c :: rest =>
    if mode = .code ∨ mode.next c = .code then c :: outsideFrom (mode.next c) rest
    else outsideFrom (mode.next c) rest

def outside (code : String) : List Char :=
  outsideFrom .code code.toList

/-- The inside of a literal, on one line and without an end. -/
inductive Escaped : List Char → Prop
  | nil : Escaped []
  | plain {c : Char} {rest : List Char} : c ≠ '\'' → c ≠ '\\' → c ≠ '\n' → Escaped rest → Escaped (c :: rest)
  | escape {c : Char} {rest : List Char} : c ≠ '\n' → Escaped rest → Escaped ('\\' :: c :: rest)

theorem outsideFrom_escaped {cs : List Char} (escaped : Escaped cs) (rest : List Char) :
    outsideFrom .literal (cs ++ '\'' :: rest) = '\'' :: outsideFrom .code rest := by
  induction escaped with
  | nil => simp [outsideFrom, Mode.next]
  | plain noQuote noBackslash _ _ ih => simpa [outsideFrom, Mode.next, noQuote, noBackslash] using ih
  | escape _ _ ih => simpa [outsideFrom, Mode.next] using ih

example : outside "Text('it\\'s \x7b')" = "Text('')".toList := by decide

theorem exchange_append (c : Char) (replacement cs ds : List Char) :
    exchange c replacement (cs ++ ds) = exchange c replacement cs ++ exchange c replacement ds :=
  List.flatMap_append

theorem escapeText_cons (c : Char) (cs : List Char) : escapeText (c :: cs) = escapeText [c] ++ escapeText cs := by
  have split : c :: cs = [c] ++ cs := rfl
  rw [split]
  simp only [escapeText, escapes, List.foldl_cons, List.foldl_nil, exchange_append]

theorem escapeText_special : ∀ c ∈ ['\\', '\'', '$', '\n', '\r', '\t'], ∃ d, escapeText [c] = ['\\', d] ∧ d ≠ '\n' := by
  simp only [List.forall_mem_cons]
  exact ⟨⟨'\\', by decide⟩, ⟨'\'', by decide⟩, ⟨'$', by decide⟩, ⟨'n', by decide⟩, ⟨'r', by decide⟩, ⟨'t', by decide⟩,
    fun _ none => absurd none List.not_mem_nil⟩

theorem escapeText_escaped (cs : List Char) : Escaped (escapeText cs) := by
  induction cs with
  | nil => exact .nil
  | cons c cs ih =>
    rw [escapeText_cons]
    by_cases special : c ∈ ['\\', '\'', '$', '\n', '\r', '\t']
    · obtain ⟨d, escaped, noBreak⟩ := escapeText_special c special
      rw [escaped]
      exact .escape noBreak ih
    · have itself : escapeText [c] = [c] := by
        simp only [List.mem_cons, List.not_mem_nil, or_false, not_or] at special
        simp [escapeText, escapes, exchange, special]
      simp only [List.mem_cons, List.not_mem_nil, or_false, not_or] at special
      rw [itself]
      exact .plain special.2.1 special.1 special.2.2.2.1 ih

def isNameChar (c : Char) : Bool :=
  continuesIdentifier c || c == '.'

inductive Piece
  | word (cs : List Char)
  | mark (c : Char)
  | literal (cs : List Char)

namespace Piece

def chars : Piece → List Char
  | .word cs => cs
  | .mark c => [c]
  | .literal cs => '\'' :: (cs ++ ['\''])

def outside : Piece → List Char
  | .word cs => cs
  | .mark c => [c]
  | .literal _ => ['\'', '\'']

def isWord : Piece → Bool
  | .word _ => true
  | _ => false

def Sound : Piece → Prop
  | .word cs => cs ≠ [] ∧ ∀ c ∈ cs, isNameChar c = true
  | .mark c => isNameChar c = false ∧ c ≠ '\''
  | .literal cs => Escaped cs

def Apart (first second : Piece) : Prop :=
  first.isWord = false ∨ second.isWord = false

end Piece

structure Spelled (cs : List Char) (pieces : List Piece) : Prop where
  chars_eq : pieces.flatMap Piece.chars = cs
  sound : ∀ piece ∈ pieces, piece.Sound
  apart : pieces.IsChain Piece.Apart

namespace Spelled

variable {cs ds : List Char} {pieces others : List Piece}

theorem nil : Spelled [] [] :=
  ⟨rfl, fun _ member => absurd member List.not_mem_nil, .nil⟩

theorem append (first : Spelled cs pieces) (second : Spelled ds others)
    (joint : ∀ piece ∈ pieces.getLast?, ∀ other ∈ others.head?, piece.Apart other) :
    Spelled (cs ++ ds) (pieces ++ others) := by
  refine ⟨?_, fun piece member => ?_, List.isChain_append.mpr ⟨first.apart, second.apart, joint⟩⟩
  · rw [List.flatMap_append, first.chars_eq, second.chars_eq]
  · exact (List.mem_append.mp member).elim (first.sound piece) (second.sound piece)

theorem word (nonempty : cs ≠ []) (names : ∀ c ∈ cs, isNameChar c = true) : Spelled cs [.word cs] :=
  ⟨List.append_nil cs, fun _ member => List.mem_singleton.mp member ▸ ⟨nonempty, names⟩, .singleton _⟩

theorem literal (escaped : Escaped cs) : Spelled ('\'' :: (cs ++ ['\''])) [.literal cs] :=
  ⟨List.append_nil _, fun _ member => List.mem_singleton.mp member ▸ escaped, .singleton _⟩

theorem marks (apart : ∀ c ∈ cs, isNameChar c = false ∧ c ≠ '\'') : Spelled cs (cs.map .mark) := by
  induction cs with
  | nil => exact .nil
  | cons c cs ih =>
    have first : Spelled [c] [.mark c] :=
      ⟨rfl, fun _ member => List.mem_singleton.mp member ▸ apart c List.mem_cons_self, .singleton _⟩
    refine first.append (ih fun d later => apart d (List.mem_cons_of_mem _ later)) fun piece last _ _ => .inl ?_
    cases last
    rfl

theorem outsideFrom_eq (sound : ∀ piece ∈ pieces, piece.Sound) :
    outsideFrom .code (pieces.flatMap Piece.chars) = pieces.flatMap Piece.outside := by
  have plain (run rest : List Char) (noQuote : ∀ c ∈ run, c ≠ '\'') :
      outsideFrom .code (run ++ rest) = run ++ outsideFrom .code rest := by
    induction run with
    | nil => rfl
    | cons c run ih =>
      have here := noQuote c List.mem_cons_self
      simp [outsideFrom, Mode.next, here, ih fun d later => noQuote d (List.mem_cons_of_mem _ later)]
  induction pieces with
  | nil => rfl
  | cons piece pieces ih =>
    have rest := ih fun other later => sound other (List.mem_cons_of_mem _ later)
    have here := sound piece List.mem_cons_self
    rw [List.flatMap_cons, List.flatMap_cons, ← rest]
    cases piece with
    | word run =>
      refine plain run _ fun c member quote => ?_
      have := here.2 c member
      simp [quote, isNameChar, continuesIdentifier, beginsIdentifier, isAsciiLetter, isDigit] at this
    | mark c => exact plain [c] _ fun d member => List.mem_singleton.mp member ▸ here.2
    | literal inside =>
      simp only [Piece.chars, Piece.outside, List.cons_append, List.append_assoc, List.nil_append]
      simp [outsideFrom, Mode.next, outsideFrom_escaped here]

theorem outside_eq {code : String} (spelled : Spelled code.toList pieces) :
    outside code = pieces.flatMap Piece.outside := by
  rw [outside, ← spelled.chars_eq, outsideFrom_eq spelled.sound]

end Spelled

theorem not_nameChar_of_not_word {piece : Piece} (sound : piece.Sound) (noWord : piece.isWord = false) :
    piece.outside ≠ [] ∧ ∀ c ∈ piece.outside, isNameChar c = false := by
  cases piece with
  | word => cases noWord
  | mark c => exact ⟨List.cons_ne_nil _ _, fun d member => List.mem_singleton.mp member ▸ sound.1⟩
  | literal => exact ⟨List.cons_ne_nil _ _, by simp [Piece.outside]; decide⟩

theorem names_unique {run other after rest : List Char} (run_names : ∀ c ∈ run, isNameChar c = true)
    (other_names : ∀ c ∈ other, isNameChar c = true) (after_ends : ∀ c ∈ after.head?, isNameChar c = false)
    (rest_ends : ∀ c ∈ rest.head?, isNameChar c = false) (same : run ++ after = other ++ rest) :
    run = other ∧ after = rest := by
  have taken (names tail : List Char) (all : ∀ c ∈ names, isNameChar c = true)
      (ends : ∀ c ∈ tail.head?, isNameChar c = false) : (names ++ tail).takeWhile isNameChar = names := by
    rw [List.takeWhile_append_of_pos all]
    cases tail with
    | nil => simp
    | cons c tail => simp [ends c rfl]
  have equal : run = other := by
    rw [← taken run after run_names after_ends, same, taken other rest other_names rest_ends]
  subst equal
  exact ⟨rfl, List.append_cancel_left same⟩

theorem head_not_nameChar {pieces : List Piece} (sound : ∀ piece ∈ pieces, piece.Sound)
    (noWord : ∀ piece ∈ pieces.head?, piece.isWord = false) :
    ∀ c ∈ (pieces.flatMap Piece.outside).head?, isNameChar c = false := by
  cases pieces with
  | nil => simp
  | cons piece pieces =>
    obtain ⟨nonempty, noNames⟩ := not_nameChar_of_not_word (sound piece List.mem_cons_self) (noWord piece rfl)
    obtain ⟨c, cs, piece_eq⟩ := List.exists_cons_of_ne_nil nonempty
    rw [piece_eq] at noNames
    intro d member
    rw [List.flatMap_cons, piece_eq, List.cons_append, List.head?_cons] at member
    cases member
    exact noNames c List.mem_cons_self

/-- A run of name characters outside literals with no further one after it is the end of a word. -/
theorem word_of_run {pieces : List Piece} (sound : ∀ piece ∈ pieces, piece.Sound) (apart : pieces.IsChain Piece.Apart)
    {before run after : List Char} (nonempty : run ≠ []) (names : ∀ c ∈ run, isNameChar c = true)
    (ends : ∀ c ∈ after.head?, isNameChar c = false)
    (same : pieces.flatMap Piece.outside = before ++ (run ++ after)) :
    ∃ front start back, pieces = front ++ .word (start ++ run) :: back ∧
      front.flatMap Piece.outside ++ start = before ∧ back.flatMap Piece.outside = after := by
  induction pieces generalizing before with
  | nil => simp [nonempty] at same
  | cons piece pieces ih =>
    have here := sound piece List.mem_cons_self
    have later (between : List Char) (rest_eq : pieces.flatMap Piece.outside = between ++ (run ++ after)) :=
      ih (fun other member => sound other (List.mem_cons_of_mem _ member)) apart.tail rest_eq
    rw [List.flatMap_cons] at same
    -- The run begins after the first piece, or somewhere in it.
    rcases List.append_eq_append_iff.mp same with ⟨between, before_eq, rest_eq⟩ | ⟨inside, piece_eq, run_eq⟩
    · obtain ⟨front, start, back, rfl, front_eq, back_eq⟩ := later between rest_eq
      exact ⟨piece :: front, start, back, rfl, by rw [List.flatMap_cons, List.append_assoc, front_eq, before_eq], back_eq⟩
    · cases word : piece.isWord with
      | false =>
        have noNames := (not_nameChar_of_not_word here word).2
        cases inside with
        | nil =>
          obtain ⟨front, start, back, rfl, front_eq, back_eq⟩ := later [] run_eq.symm
          refine ⟨piece :: front, start, back, rfl, ?_, back_eq⟩
          rw [List.flatMap_cons, List.append_assoc, front_eq, piece_eq, List.append_nil, List.append_nil]
        | cons c inside =>
          obtain ⟨d, run, rfl⟩ := List.exists_cons_of_ne_nil nonempty
          simp only [List.cons_append, List.cons.injEq] at run_eq
          have isName := names d List.mem_cons_self
          rw [run_eq.1, noNames c (by rw [piece_eq]; simp)] at isName
          cases isName
      | true =>
        cases piece with
        | mark | literal => cases word
        | word cs =>
          have inside_names (c : Char) (member : c ∈ inside) : isNameChar c = true :=
            here.2 c (by rw [show cs = before ++ inside from piece_eq]; exact List.mem_append_right _ member)
          have separate (other : Piece) (member : other ∈ pieces.head?) : other.isWord = false :=
            ((List.isChain_cons.mp apart).1 other member).resolve_left (by simp [Piece.isWord])
          have rest_ends := head_not_nameChar (fun other member => sound other (List.mem_cons_of_mem _ member)) separate
          obtain ⟨rfl, rfl⟩ := names_unique names inside_names ends rest_ends run_eq
          exact ⟨[], before, pieces, by rw [show cs = before ++ run from piece_eq]; rfl, rfl, rfl⟩

end WidgetSource.Dart
