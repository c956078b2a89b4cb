import WidgetSource.Json.Token
import WidgetSource.Proofs.Lexis
import WidgetSource.Proofs.Occurrences

/-!
# Text literals read back

A reader of literals in single quotes, with all the escapes that such a literal can have. Main statement: the literal of
a text is one literal up to its last character, and what it stands for is the text.
-/
namespace WidgetSource.Dart

/-- Where a reader of a literal stands: between two characters, after a backslash, after the letter of a code, or in the
digits of a code, of which some number is to come or which a brace ends. -/
inductive Reading
  | text | escape | code
  | digits (left value : Nat)
  | braced (read value : Nat)

def charOf? (code : Nat) : Option Char :=
  if code.isValidChar then some (Char.ofNat code) else none

def controls : List (Char × Char) :=
  [('n', '\n'), ('r', '\r'), ('t', '\t'), ('b', '\x08'), ('f', '\x0c'), ('v', '\x0b')]

/-- Reads up to the quote that ends a literal: the text that stands before it, and the code after it. There is none if
the line ends first, if a dollar sign asks for the value of an expression, or if a code is no character. -/
def readFrom : Reading → List Char → Option (List Char × List Char)
  | _, [] => none
  | .text, c :: rest =>
    if c = '\'' then some ([], rest)
    else if c = '\\' then readFrom .escape rest
    else if c = '$' ∨ c = '\n' ∨ c = '\r' then none
    else (readFrom .text rest).map (Prod.map (c :: ·) id)
  | .escape, c :: rest =>
    if c = 'x' then readFrom (.digits 1 0) rest
    else if c = 'u' then readFrom .code rest
    else if c = '\n' ∨ c = '\r' then none
    else (readFrom .text rest).map (Prod.map ((controls.lookup c).getD c :: ·) id)
  | .code, c :: rest =>
    if c = '\x7b' then readFrom (.braced 0 0) rest
    else (Json.hexValue? c).bind fun digit => readFrom (.digits 2 digit) rest
  | .digits left value, c :: rest =>
    (Json.hexValue? c).bind fun digit =>
      match left with
      | left + 1 => readFrom (.digits left (16 * value + digit)) rest
      | 0 => (charOf? (16 * value + digit)).bind fun d => (readFrom .text rest).map (Prod.map (d :: ·) id)
  | .braced read value, c :: rest =>
    if c = '\x7d' then
      if read = 0 then none
      else (charOf? value).bind fun d => (readFrom .text rest).map (Prod.map (d :: ·) id)
    else if read = 6 then none
    else (Json.hexValue? c).bind fun digit => readFrom (.braced (read + 1) (16 * value + digit)) rest

/-- Reads a literal in single quotes: the text that it stands for, and the code after it. Three quotes begin a literal of
another sort, which may go over several lines. -/
def readLiteral? : List Char → Option (List Char × List Char)
  | '\'' :: '\'' :: '\'' :: _ => none
  | '\'' :: rest => readFrom .text rest
  | _ => none

def escapeChar (c : Char) : List Char :=
  (escapes.lookup c).getD [c]

def specials : List Char :=
  escapes.map Prod.fst

theorem mem_specials_iff {c : Char} :
    c ∈ specials ↔ c = '\\' ∨ c = '\'' ∨ c = '$' ∨ c = '\n' ∨ c = '\r' ∨ c = '\t' := by
  simp [specials, escapes]

theorem escapeChar_eq_self {c : Char} (plain : c ∉ specials) : escapeChar c = [c] := by
  have missing : escapes.lookup c = none := List.lookup_eq_none_iff.mpr fun entry member => by
    rw [bne_iff_ne]
    rintro rfl
    exact plain (List.mem_map_of_mem member)
  rw [escapeChar, missing, Option.getD_none]

theorem escapeChar_of_special {c : Char} (special : c ∈ specials) :
    ∃ d, escapeChar c = ['\\', d] ∧ d ≠ '\n' ∧ d ≠ '\r' := by
  rcases mem_specials_iff.mp special with rfl | rfl | rfl | rfl | rfl | rfl <;> exact ⟨_, rfl, by decide, by decide⟩

theorem exchange_eq_replaceAll (c : Char) (replacement cs : List Char) :
    exchange c replacement cs = Text.replaceAll [c] replacement cs := by
  rw [Text.replaceAll, Text.splitAround]
  induction cs with
  | nil => rfl
  | cons d cs ih =>
    rw [exchange, List.flatMap_cons, ← exchange, ih]
    have pieces := Text.splitFrom_ne_nil [c] 0 cs
    by_cases same : d = c
    · subst same
      simp [Text.splitFrom, List.intercalate_cons_of_ne_nil pieces]
    · obtain ⟨piece, others, found⟩ := List.exists_cons_of_ne_nil pieces
      cases others <;> simp [Text.splitFrom, Ne.symm same, same, found, List.intercalate]

theorem escapeText_eq_flatMap (cs : List Char) : escapeText cs = cs.flatMap escapeChar := by
  induction cs with
  | nil => rfl
  | cons c cs ih =>
    rw [escapeText_cons, List.flatMap_cons, ih, List.append_cancel_right_eq]
    by_cases special : c ∈ specials
    · rcases mem_specials_iff.mp special with rfl | rfl | rfl | rfl | rfl | rfl <;> rfl
    · rw [escapeChar_eq_self special]
      simp only [mem_specials_iff, not_or] at special
      simp [escapeText, escapes, exchange, special]

theorem escapeChar_oneLine (c : Char) : ∀ d ∈ escapeChar c, d ≠ '\n' ∧ d ≠ '\r' := by
  by_cases special : c ∈ specials
  · obtain ⟨d, same, noBreak⟩ := escapeChar_of_special special
    simp [same, noBreak]
  · rw [escapeChar_eq_self special]
    simp only [mem_specials_iff, not_or] at special
    simp [special]

theorem readFrom_escapeChar (c : Char) (rest : List Char) :
    readFrom .text (escapeChar c ++ rest) = (readFrom .text rest).map (Prod.map (c :: ·) id) := by
  by_cases special : c ∈ specials
  · rcases mem_specials_iff.mp special with rfl | rfl | rfl | rfl | rfl | rfl <;> rfl
  · rw [escapeChar_eq_self special]
    simp only [mem_specials_iff, not_or] at special
    simp [readFrom, special]

theorem readFrom_escapeText (cs rest : List Char) :
    readFrom .text (escapeText cs ++ '\'' :: rest) = some (cs, rest) := by
  rw [escapeText_eq_flatMap]
  induction cs with
  | nil => rfl
  | cons c cs ih =>
    rw [List.flatMap_cons, List.append_assoc, readFrom_escapeChar, ih]
    rfl

theorem readLiteral?_cons {cs : List Char} (single : ¬ ['\'', '\''] <+: cs) :
    readLiteral? ('\'' :: cs) = readFrom .text cs := by
  unfold readLiteral?
  split
  · rename_i rest same
    cases same
    exact absurd (List.prefix_append ['\'', '\''] rest) single
  · rename_i rest _ same
    cases same
    rfl
  · rename_i other
    exact absurd rfl (other cs)

theorem escapeChar_begins (c : Char) : ∃ first rest, escapeChar c = first :: rest ∧ first ≠ '\'' := by
  by_cases special : c ∈ specials
  · obtain ⟨d, same, _⟩ := escapeChar_of_special special
    exact ⟨'\\', [d], same, by decide⟩
  · refine ⟨c, [], escapeChar_eq_self special, fun quote => special ?_⟩
    exact mem_specials_iff.mpr (.inr (.inl quote))

theorem textLiteral_chars (s : String) : (textLiteral s).toList = '\'' :: (escapeText s.toList ++ ['\'']) := by
  simp [textLiteral]

theorem readLiteral?_textLiteral (s : String) : readLiteral? (textLiteral s).toList = some (s.toList, []) := by
  rw [textLiteral_chars, readLiteral?_cons, readFrom_escapeText]
  rw [escapeText_eq_flatMap]
  cases s.toList with
  | nil => simp
  | cons c cs =>
    obtain ⟨first, rest, same, noQuote⟩ := escapeChar_begins c
    simp [same, Ne.symm noQuote]

/-- The literal of a text is one literal, on one line and without the value of an expression in it, and it stands for the
text. The escapes that are exchanged one after the other come to one pass over the characters, and no two texts have the
same literal. -/
theorem textLiteral_decodes (s : String) :
    readLiteral? (textLiteral s).toList = some (s.toList, []) ∧
      (∀ c ∈ (textLiteral s).toList, c ≠ '\n' ∧ c ≠ '\r') ∧
      (textLiteral s).toList =
        ['\''] ++ escapes.foldl (fun cs (c, replacement) => Text.replaceAll [c] replacement cs) s.toList ++ ['\''] ∧
      (textLiteral s).toList = ['\''] ++ s.toList.flatMap escapeChar ++ ['\''] ∧
      ∀ t, textLiteral t = textLiteral s → t = s := by
  have onePass : (textLiteral s).toList = ['\''] ++ s.toList.flatMap escapeChar ++ ['\''] := by
    rw [textLiteral_chars, escapeText_eq_flatMap]
    rfl
  refine ⟨readLiteral?_textLiteral s, fun c member => ?_, ?_, onePass, fun t same => ?_⟩
  · simp only [onePass, List.mem_append, List.mem_singleton, List.mem_flatMap] at member
    rcases member with (rfl | ⟨d, _, written⟩) | rfl
    · decide
    · exact escapeChar_oneLine d c written
    · decide
  · simp only [← exchange_eq_replaceAll]
    exact textLiteral_chars s
  · have read := readLiteral?_textLiteral t
    rw [same, readLiteral?_textLiteral s] at read
    exact String.toList_injective (congrArg Prod.fst (Option.some.inj read)).symm

example : readLiteral? (textLiteral "it's\n$5 \\").toList = some ("it's\n$5 \\".toList, []) := by decide

end WidgetSource.Dart
