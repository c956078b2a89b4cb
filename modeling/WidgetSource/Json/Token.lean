import WidgetSource.Number.Notation

/-!
# Json tokens

A text is cut into tokens up to the first one that is not well formed. A text or a number that is skipped is held
to less than one that is read: an escape may then name half a surrogate pair, and a number may exceed the doubles.
-/
namespace WidgetSource.Json

/-- Why a text is no document: it breaks the grammar, or it ends too early. -/
inductive Cause
  | malformed | ended
  deriving DecidableEq, Repr

/-- What stopped the reading of a part, when its value is wanted and when it is skipped. -/
structure Stop where
  whenRead : Cause
  whenSkipped : Cause
  deriving DecidableEq, Repr

def Cause.stop (cause : Cause) : Stop := ⟨cause, cause⟩

/-- A number of a document: an integer of 64 bits, signed or not, keeps its digits; any other is a double. -/
inductive Numeral
  | integer (n : Int)
  | real (x : Double)
  deriving DecidableEq, Repr

/-- A value without parts. A refused one is complete but stands for no value. -/
inductive Scalar
  | null
  | bool (b : Bool)
  | number (n : Numeral)
  | text (s : String)
  | refusedNumber
  | refusedText
  deriving DecidableEq, Repr

inductive Token
  | openList | closeList | openObject | closeObject | comma | colon
  | scalar (s : Scalar)
  | brokenText (stop : Stop)
  | broken (stop : Stop)
  deriving DecidableEq, Repr

def isBlank (c : Char) : Bool :=
  c == ' ' || c == '\n' || c == '\t' || c == '\r'

def hexValue? (c : Char) : Option Nat :=
  if '0' ≤ c ∧ c ≤ '9' then some (c.toNat - '0'.toNat)
  else if 'a' ≤ c ∧ c ≤ 'f' then some (c.toNat - 'a'.toNat + 10)
  else if 'A' ≤ c ∧ c ≤ 'F' then some (c.toNat - 'A'.toNat + 10)
  else none

def hexUnit? (a b c d : Char) : Option Nat := do
  return 4096 * (← hexValue? a) + 256 * (← hexValue? b) + 16 * (← hexValue? c) + (← hexValue? d)

def isHighSurrogate (n : Nat) : Bool := 0xD800 ≤ n && n ≤ 0xDBFF

def isLowSurrogate (n : Nat) : Bool := 0xDC00 ≤ n && n ≤ 0xDFFF

def escaped? : Char → Option Char
  | '"' => some '"'
  | '\\' => some '\\'
  | '/' => some '/'
  | 'b' => some '\x08'
  | 'f' => some '\x0c'
  | 'n' => some '\n'
  | 'r' => some '\r'
  | 't' => some '\t'
  | _ => none

/-- A text as far as it was read: its characters, whether an escape in it names no character, and what follows the
closing quote or why there is none. -/
structure TextScan where
  chars : List Char
  flawed : Bool
  rest : Except Cause (List Char)

def TextScan.push (c : Char) (scan : TextScan) : TextScan :=
  { scan with chars := c :: scan.chars }

def TextScan.spoil (scan : TextScan) : TextScan :=
  { scan with flawed := true }

/-- What is wrong with an escape by number that does not give four digits: they are missing if fewer than four
bytes are left. -/
def numberFault (rest : List Char) : Cause :=
  if (rest.take 4).foldl (fun n c => n + c.utf8Size) 0 < 4 then .ended else .malformed

/-- Whether the second half of a surrogate pair is missing, as far as the text goes: at the end of the text that is
not known. -/
def lacksLowHalf : List Char → Bool
  | [] | ['\\'] => false
  | '\\' :: 'u' :: rest =>
    match rest with
    | a :: b :: c :: d :: _ =>
      match hexUnit? a b c d with
      | some n => !isLowSurrogate n
      | none => numberFault rest = .malformed
    | _ => numberFault rest = .malformed
  | _ => true

/-- Reads a text from behind its opening quote. `high` is the first half of a surrogate pair right before. -/
def scanText (high : Option Nat) : List Char → TextScan
  | [] => ⟨[], false, .error .ended⟩
  | '"' :: rest => ⟨[], false, .ok rest⟩
  | '\\' :: 'u' :: a :: b :: c :: d :: rest =>
    match hexUnit? a b c d with
    | none => ⟨[], false, .error (numberFault (a :: b :: c :: d :: rest))⟩
    | some n =>
      if isHighSurrogate n then
        let scan := scanText (some n) rest
        if lacksLowHalf rest then scan.spoil else scan
      else if isLowSurrogate n then
        match high with
        | some h => (scanText none rest).push (Char.ofNat (0x10000 + (h - 0xD800) * 0x400 + (n - 0xDC00)))
        | none => (scanText none rest).spoil
      else (scanText none rest).push (Char.ofNat n)
  | '\\' :: 'u' :: rest => ⟨[], false, .error (numberFault rest)⟩
  | ['\\'] => ⟨[], false, .error .ended⟩
  | '\\' :: c :: rest =>
    match escaped? c with
    | some e => (scanText none rest).push e
    | none => ⟨[], false, .error .malformed⟩
  | c :: rest =>
    if c.toNat < 0x20 then ⟨[], false, .error .malformed⟩ else (scanText none rest).push c

def wordCount : Nat := 18446744073709551616

/-- The number that digits stand for together with those before them, as long as it fits into a word, and how many of
the digits it leaves out. -/
def takeDigits (n : Nat) : List Char → Nat × Nat
  | [] => (n, 0)
  | c :: rest =>
    let next := 10 * n + (c.toNat - '0'.toNat)
    if next < wordCount then takeDigits next rest else (n, rest.length + 1)

/-- The double `x · 10^exponent` as it is computed, with one rounding after another; none past the finite ones. No power
above `10^308` is used, so a smaller exponent takes several steps. -/
def scaled? (x : Double) (exponent : Int) : Option Double :=
  if exponent.natAbs ≤ 308 then
    let y := x.scaleTen exponent
    if y.isFinite then some y else none
  else if x.rank = 0 then some x
  else if 0 ≤ exponent then none
  else scaled? (x.scaleTen (-308)) (exponent + 308)
termination_by exponent.natAbs
decreasing_by omega

/-- The number of its digits before and after the point and its exponent. A double is read from the first digits, which
make a word of 64 bits, and need not be the nearest one. -/
def numeralOf (negative : Bool) (whole : List Char) (fraction : Option (List Char)) (exponent : Option Int) : Scalar :=
  let (significand, left) := takeDigits 0 whole
  match fraction, exponent with
  | none, none =>
    if 0 < left ∨ (negative ∧ (significand = 0 ∨ wordCount < 2 * significand)) then real significand left
    else .number (.integer (Double.withSign negative significand))
  | _, _ =>
    let digits := fraction.getD []
    let (significand, dropped) := takeDigits significand digits
    real significand (left + exponent.getD 0 - (digits.length - dropped : Nat))
where
  real (significand : Nat) (exponent : Int) : Scalar :=
    match scaled? (Double.ofQuotient negative significand 1) exponent with
    | some x => .number (.real x)
    | none => .refusedNumber

def digitFault : List Char → Stop
  | [] => ⟨.ended, .malformed⟩
  | _ :: _ => Cause.malformed.stop

def scanExponent (cs : List Char) : Except Stop (Option Int × List Char) :=
  match cs with
  | [] => .ok (none, cs)
  | c :: after =>
    if c = 'e' ∨ c = 'E' then
      let (negative, body) := signed after
      if (body.takeWhile isDigit).isEmpty then .error (digitFault body)
      else .ok (some (Double.withSign negative (natOfDigits (body.takeWhile isDigit))), body.dropWhile isDigit)
    else .ok (none, cs)

def scanFraction (cs : List Char) : Except Stop (Option (List Char) × List Char) :=
  match cs with
  | '.' :: after =>
    let digits := after.takeWhile isDigit
    if digits.isEmpty then .error (digitFault after) else .ok (some digits, after.dropWhile isDigit)
  | _ => .ok (none, cs)

/-- Reads a number from behind its sign. A zero in front stands alone. -/
def scanNumber (negative : Bool) (cs : List Char) : Except Stop (Scalar × List Char) := do
  let whole := cs.takeWhile isDigit
  let rest := cs.dropWhile isDigit
  if whole.isEmpty then .error (digitFault cs)
  else if whole.head? = some '0' ∧ 1 < whole.length then .error Cause.malformed.stop
  else do
    let (fraction, rest) ← scanFraction rest
    let (exponent, rest) ← scanExponent rest
    return (numeralOf negative whole fraction exponent, rest)

def scanWord : List Char → List Char → Except Cause (List Char)
  | [], rest => .ok rest
  | _ :: _, [] => .error .ended
  | w :: word, c :: rest => if w = c then scanWord word rest else .error .malformed

def wordToken (s : Scalar) (word rest : List Char) : Token × List Char :=
  match scanWord word rest with
  | .ok rest => (.scalar s, rest)
  | .error cause => (.broken cause.stop, [])

def textToken (scan : TextScan) : Token × List Char :=
  match scan.rest with
  | .ok rest => (.scalar (if scan.flawed then .refusedText else .text (String.ofList scan.chars)), rest)
  | .error cause => (.brokenText ⟨if scan.flawed then .malformed else cause, cause⟩, [])

def numberToken (negative : Bool) (cs : List Char) : Token × List Char :=
  match scanNumber negative cs with
  | .ok (s, rest) => (.scalar s, rest)
  | .error stop => (.broken stop, [])

/-- The token that begins with a character, and what follows it; nothing follows a broken one. -/
def scanToken (c : Char) (rest : List Char) : Token × List Char :=
  match c with
  | '[' => (.openList, rest)
  | ']' => (.closeList, rest)
  | '\x7b' => (.openObject, rest)
  | '\x7d' => (.closeObject, rest)
  | ',' => (.comma, rest)
  | ':' => (.colon, rest)
  | 'n' => wordToken .null ['u', 'l', 'l'] rest
  | 't' => wordToken (.bool true) ['r', 'u', 'e'] rest
  | 'f' => wordToken (.bool false) ['a', 'l', 's', 'e'] rest
  | '"' => textToken (scanText none rest)
  | '-' => numberToken true rest
  | c => if isDigit c then numberToken false (c :: rest) else (.broken Cause.malformed.stop, [])

theorem length_dropWhile_le (p : Char → Bool) (cs : List Char) : (cs.dropWhile p).length ≤ cs.length :=
  (List.dropWhile_sublist p).length_le

theorem scanText_length (high : Option Nat) (cs rest : List Char) (h : (scanText high cs).rest = .ok rest) :
    rest.length ≤ cs.length := by
  fun_induction scanText high cs <;> (try simp only [List.length_cons]) <;> grind [TextScan.push, TextScan.spoil]

theorem scanWord_length {word cs rest : List Char} (h : scanWord word cs = .ok rest) : rest.length ≤ cs.length := by
  induction word generalizing cs with
  | nil => simp only [scanWord, Except.ok.injEq] at h; exact h ▸ Nat.le_refl _
  | cons w word ih =>
    cases cs with
    | nil => simp [scanWord] at h
    | cons c cs =>
      simp only [scanWord] at h
      split at h
      · exact Nat.le_succ_of_le (ih h)
      · simp at h

theorem scanFraction_length {cs rest : List Char} {fraction : Option (List Char)}
    (h : scanFraction cs = .ok (fraction, rest)) : rest.length ≤ cs.length := by
  unfold scanFraction at h
  split at h
  · simp only at h
    split at h
    · simp at h
    · rename_i after _
      simp only [Except.ok.injEq, Prod.mk.injEq] at h
      have := length_dropWhile_le isDigit after
      simp only [← h.2, List.length_cons]
      omega
  · simp only [Except.ok.injEq, Prod.mk.injEq] at h
    exact h.2 ▸ Nat.le_refl _

theorem signed_length (cs : List Char) : (signed cs).2.length ≤ cs.length := by
  unfold signed
  split <;> simp

theorem scanExponent_length {cs rest : List Char} {exponent : Option Int}
    (h : scanExponent cs = .ok (exponent, rest)) : rest.length ≤ cs.length := by
  unfold scanExponent at h
  split at h
  · simp only [Except.ok.injEq, Prod.mk.injEq] at h
    exact h.2 ▸ Nat.le_refl _
  · rename_i after
    split at h
    · simp only at h
      split at h
      · simp at h
      · simp only [Except.ok.injEq, Prod.mk.injEq] at h
        have := length_dropWhile_le isDigit (signed after).2
        have := signed_length after
        simp only [← h.2, List.length_cons]
        omega
    · simp only [Except.ok.injEq, Prod.mk.injEq] at h
      exact h.2 ▸ Nat.le_refl _

theorem scanNumber_length {negative : Bool} {cs rest : List Char} {s : Scalar}
    (h : scanNumber negative cs = .ok (s, rest)) : rest.length ≤ (cs.dropWhile isDigit).length := by
  simp only [scanNumber, bind, Except.bind, pure, Except.pure] at h
  split at h
  · simp at h
  · split at h
    · simp at h
    · split at h
      · simp at h
      · rename_i scanned hf
        obtain ⟨fraction, afterFraction⟩ := scanned
        split at h
        · simp at h
        · rename_i scanned he
          obtain ⟨exponent, afterExponent⟩ := scanned
          simp only [Except.ok.injEq, Prod.mk.injEq] at h
          have fractional := scanFraction_length hf
          have exponential : afterExponent.length ≤ afterFraction.length := scanExponent_length he
          rw [← h.2]
          omega

theorem wordToken_length (s : Scalar) (word rest : List Char) : (wordToken s word rest).2.length ≤ rest.length := by
  unfold wordToken
  split
  · exact scanWord_length ‹_›
  · simp

theorem textToken_length (high : Option Nat) (cs : List Char) :
    (textToken (scanText high cs)).2.length ≤ cs.length := by
  unfold textToken
  split
  · exact scanText_length high cs _ ‹_›
  · simp

theorem numberToken_length (negative : Bool) (cs : List Char) :
    (numberToken negative cs).2.length ≤ (cs.dropWhile isDigit).length := by
  unfold numberToken
  split
  · exact scanNumber_length ‹_›
  · simp

theorem scanToken_length (c : Char) (rest : List Char) : (scanToken c rest).2.length ≤ rest.length := by
  unfold scanToken
  split
  any_goals exact Nat.le_refl _
  any_goals exact wordToken_length _ _ _
  · exact textToken_length _ _
  · exact Nat.le_trans (numberToken_length _ _) (length_dropWhile_le _ _)
  · split
    · rename_i digit
      have := numberToken_length false (c :: rest)
      rw [List.dropWhile_cons_of_pos digit] at this
      exact Nat.le_trans this (length_dropWhile_le _ _)
    · simp

def tokens : List Char → List Token
  | [] => []
  | c :: rest =>
    if isBlank c then tokens rest
    else (scanToken c rest).1 :: tokens (scanToken c rest).2
termination_by cs => cs.length
decreasing_by
  · simp
  · have := scanToken_length c rest
    simp
    omega

end WidgetSource.Json
