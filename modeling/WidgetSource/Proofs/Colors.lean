import WidgetSource.Proofs.Decorations
import WidgetSource.Proofs.Integers
import WidgetSource.Proofs.Numerals
import WidgetSource.Proofs.Trimming
import Mathlib.Data.Nat.Digits.Defs

namespace WidgetSource.Dart

def isUpperHexDigit (c : Char) : Bool :=
  isDigit c || ('A' ≤ c && c ≤ 'F')

def hexValue (c : Char) : Nat :=
  if isDigit c then c.toNat - '0'.toNat
  else if 'a' ≤ c then c.toNat - 'a'.toNat + 10
  else c.toNat - 'A'.toNat + 10

def hexNumber (cs : List Char) : Nat :=
  cs.foldl (fun n c => 16 * n + hexValue c) 0

theorem hexDigit_upper {c : Char} (digit : isHexDigit c = true) :
    isUpperHexDigit (asciiUpper c) = true ∧ hexValue (asciiUpper c) = hexValue c ∧
      asciiUpper c = asciiUpper (Nat.digitChar (hexValue c)) ∧ hexValue c < 16 ∧ Text.isSpace c = false :=
  forall_hexDigit (P := fun c => isUpperHexDigit (asciiUpper c) = true ∧ hexValue (asciiUpper c) = hexValue c ∧
    asciiUpper c = asciiUpper (Nat.digitChar (hexValue c)) ∧ hexValue c < 16 ∧ Text.isSpace c = false) (by decide) digit

theorem digitChar_isHexDigit : ∀ d < 16, isHexDigit (Nat.digitChar d) = true ∧ hexValue (Nat.digitChar d) = d := by
  decide

theorem asciiUpper_isHexDigit (c : Char) : isHexDigit (asciiUpper c) = isHexDigit c := by
  by_cases letter : 'a' ≤ c ∧ c ≤ 'z'
  · have small : c.toNat < 128 := by
      have top := letter.2
      simp only [Char.le_def, UInt32.le_iff_toNat_le] at top
      exact Nat.lt_of_le_of_lt top (by decide)
    have all : ∀ n < 128, isHexDigit (asciiUpper (Char.ofNat n)) = isHexDigit (Char.ofNat n) := by decide
    have here := all c.toNat small
    rwa [Char.ofNat_toNat] at here
  · rw [asciiUpper, if_neg letter]

variable {cs digits : List Char}

theorem isHexDigit_of_upper (same : cs.map asciiUpper = digits.map asciiUpper)
    (hex : ∀ c ∈ digits, isHexDigit c = true) : ∀ c ∈ cs, isHexDigit c = true := by
  intro c member
  have inside : asciiUpper c ∈ digits.map asciiUpper := same ▸ List.mem_map_of_mem member
  obtain ⟨d, there, upper⟩ := List.mem_map.mp inside
  rw [← asciiUpper_isHexDigit, ← upper, asciiUpper_isHexDigit]
  exact hex d there

theorem hexNumber_concat (cs : List Char) (c : Char) : hexNumber (cs ++ [c]) = 16 * hexNumber cs + hexValue c := by
  rw [hexNumber, List.foldl_append]
  rfl

theorem hexNumber_upper (hex : ∀ c ∈ digits, isHexDigit c = true) : hexNumber (digits.map asciiUpper) = hexNumber digits := by
  induction digits using List.reverseRecOn with
  | nil => rfl
  | append_singleton front c ih =>
    obtain ⟨before, last⟩ := List.forall_mem_append.mp hex
    obtain ⟨-, value, -⟩ := hexDigit_upper (last c (List.mem_singleton_self c))
    rw [List.map_append, List.map_singleton, hexNumber_concat, hexNumber_concat, ih before, value]

theorem hexNumber_zeros (k : Nat) (cs : List Char) : hexNumber (List.replicate k '0' ++ cs) = hexNumber cs := by
  induction k with
  | zero => rfl
  | succ k ih => exact ih

theorem hexNumber_toDigits (n : Nat) : hexNumber (Nat.toDigits 16 n) = n := by
  induction n using Nat.strongRecOn with
  | _ n ih =>
    rw [Nat.toDigits_eq_if (by decide)]
    split
    · rename_i small
      have digit : hexNumber [Nat.digitChar n] = 16 * hexNumber [] + hexValue (Nat.digitChar n) := rfl
      rw [digit, (digitChar_isHexDigit n small).2]
      exact Nat.zero_add n
    · rename_i large
      rw [hexNumber_concat, ih (n / 16) (by omega), (digitChar_isHexDigit _ (Nat.mod_lt n (by decide))).2]
      exact Nat.div_add_mod n 16

theorem map_asciiUpper_eq (length : cs.length = digits.length) (hex : ∀ c ∈ cs, isHexDigit c = true)
    (hex' : ∀ c ∈ digits, isHexDigit c = true) (number : hexNumber cs = hexNumber digits) :
    cs.map asciiUpper = digits.map asciiUpper := by
  induction cs using List.reverseRecOn generalizing digits with
  | nil =>
    obtain rfl := List.length_eq_zero_iff.mp length.symm
    rfl
  | append_singleton front c ih =>
    obtain rfl | ⟨front', d, rfl⟩ := digits.eq_nil_or_concat'
    · simp at length
    obtain ⟨before, last⟩ := List.forall_mem_append.mp hex
    obtain ⟨before', last'⟩ := List.forall_mem_append.mp hex'
    obtain ⟨-, -, upper, small, -⟩ := hexDigit_upper (last c (List.mem_singleton_self c))
    obtain ⟨-, -, upper', small', -⟩ := hexDigit_upper (last' d (List.mem_singleton_self d))
    rw [hexNumber_concat, hexNumber_concat] at number
    simp only [List.length_append, List.length_singleton, Nat.add_right_cancel_iff] at length
    rw [List.map_append, List.map_append, ih length before before' (by omega), List.map_singleton, List.map_singleton,
      upper, upper', (by omega : hexValue c = hexValue d)]

structure IsPacked (n : Nat) (digits : List Char) : Prop where
  length : digits.length = 8
  hex : ∀ c ∈ digits, isHexDigit c = true
  number : hexNumber digits = n

def paddedDigits (n : Nat) : List Char :=
  List.replicate (8 - (Nat.toDigits 16 n).length) '0' ++ Nat.toDigits 16 n

theorem paddedDigits_isPacked {n : Nat} (small : n < 2 ^ 32) : IsPacked n (paddedDigits n) where
  length := by
    have bound : (Nat.toDigits 16 n).length ≤ 8 := Nat.toDigits_length 16 n 8 (by decide) small
    rw [paddedDigits, List.length_append, List.length_replicate]
    omega
  hex := by
    refine List.forall_mem_append.mpr ⟨fun c member => (List.mem_replicate.mp member).2 ▸ by decide, fun c member => ?_⟩
    obtain ⟨d, small, rfl⟩ := toDigits_digitChar n c member
    exact (digitChar_isHexDigit d small).1
  number := by rw [paddedDigits, hexNumber_zeros, hexNumber_toDigits]

theorem packedDigits_eq (n : Nat) : packedDigits n = (paddedDigits n).map asciiUpper := by
  have zero : asciiUpper '0' = '0' := by decide
  rw [packedDigits, paddedDigits, List.map_append, List.map_replicate, List.length_map, zero]

theorem IsPacked.upper {n : Nat} (packed : IsPacked n digits) (small : n < 2 ^ 32) :
    digits.map asciiUpper = packedDigits n := by
  have padded := paddedDigits_isPacked small
  rw [packedDigits_eq]
  exact map_asciiUpper_eq (packed.length.trans padded.length.symm) packed.hex padded.hex
    (packed.number.trans padded.number.symm)

theorem IsPacked.of_upper {n : Nat} (packed : IsPacked n digits) : IsPacked n (digits.map asciiUpper) where
  length := (List.length_map _).trans packed.length
  hex := List.forall_mem_map.mpr fun c member => (asciiUpper_isHexDigit c).trans (packed.hex c member)
  number := (hexNumber_upper packed.hex).trans packed.number

structure IsChannel (digits : List Char) : Prop where
  nonempty : digits ≠ []
  decimal : ∀ c ∈ digits, isDigit c = true
  number : natOfDigits digits ≤ 255

def IsOpacity (s : String) : Prop :=
  ∃ exponent fraction, readDouble? s.toList = some (.finite false exponent fraction, []) ∧
    Double.magnitude exponent fraction ≤ 1

/-- A literal of a color: a name of the palette, eight digits, or channels and an opacity. -/
inductive ColorLiteral : String → Prop
  | named {name : String} (known : name ∈ Fields.names palette) : ColorLiteral ("Colors." ++ name)
  | packed {digits : List Char} (length : digits.length = 8) (upper : ∀ c ∈ digits, isUpperHexDigit c = true) :
      ColorLiteral ("const Color(0x" ++ String.ofList digits ++ ")")
  | channels {red green blue : List Char} {opacity : String} (isRed : IsChannel red) (isGreen : IsChannel green)
      (isBlue : IsChannel blue) (isOpacity : IsOpacity opacity) :
      ColorLiteral ("const Color.fromRGBO(" ++
        ", ".intercalate [String.ofList red, String.ofList green, String.ofList blue, opacity] ++ ")")

theorem fallbackColor_isLiteral : ColorLiteral fallbackColor := by
  have black : ColorLiteral (packedColor ['F', 'F', '0', '0', '0', '0', '0', '0']) :=
    .packed rfl (List.all_eq_true.mp (by decide))
  exact black

theorem palette_isLiteral {name color : String} (found : palette.lookup name = some color) : ColorLiteral color := by
  have all : ∀ entry ∈ palette, ∃ name ∈ Fields.names palette, entry.2 = "Colors." ++ name := by
    simp only [palette, Fields.names, List.forall_mem_cons, List.map_cons]
    decide +kernel
  obtain ⟨key, member⟩ := mem_of_lookup found
  obtain ⟨word, known, same⟩ := all (key, color) member
  obtain rfl : color = "Colors." ++ word := same
  exact .named known

def hashToken (digits : List Char) : String :=
  String.ofList ('#' :: digits)

theorem colorOfToken?_hashToken (hex : ∀ c ∈ digits, isHexDigit c = true) : colorOfToken? (hashToken digits) =
    some (((expandHex digits).map packedColor).getD fallbackColor) := by
  have solid : ∀ c ∈ '#' :: digits, Text.isSpace c = false := by
    refine List.forall_mem_cons.mpr ⟨by decide, fun c member => ?_⟩
    exact (hexDigit_upper (hex c member)).2.2.2.2
  have other : String.ofList (('#' :: digits).map Text.asciiLower) ≠ "null" := by
    intro same
    have head := congrArg (fun s => s.toList.head?) same
    simp [Text.asciiLower] at head
  rw [colorOfToken?, hashToken, String.toList_ofList, Text.trimChars_eq_self solid]
  dsimp only
  rw [if_neg other]
  rfl

theorem expandHex_isLiteral {found : List Char} (expanded : expandHex cs = some found) :
    ColorLiteral (packedColor found) := by
  obtain ⟨length, upper⟩ := expandHex_forall (P := fun c => isUpperHexDigit c = true) (by decide)
    (fun _ hex => (hexDigit_upper hex).1) expanded
  exact .packed length upper

theorem expandHex_eq (hex : ∀ c ∈ cs, isHexDigit c = true) : expandHex cs =
    match cs.map asciiUpper with
    | [r, g, b] => some ['F', 'F', r, r, g, g, b, b]
    | [a, b, c, d, e, f] => some ['F', 'F', a, b, c, d, e, f]
    | [a, b, c, d, e, f, g, h] => some [a, b, c, d, e, f, g, h]
    | _ => none := by
  have all : cs.all isHexDigit = true := List.all_eq_true.mpr hex
  rw [expandHex, all]
  rfl

theorem expandHex_packed {n : Nat} (packed : IsPacked n digits) : expandHex digits = some (digits.map asciiUpper) := by
  rw [expandHex_eq packed.hex]
  have length : (digits.map asciiUpper).length = 8 := (List.length_map _).trans packed.length
  generalize digits.map asciiUpper = upper at length ⊢
  match upper, length with
  | [a, b, c, d, e, f, g, h], _ => rfl

theorem natDigits_isChannel {n : Nat} (small : n ≤ 255) : IsChannel (natDigits n) where
  nonempty := Nat.toDigits_ne_nil
  decimal _ := natDigits_isDigit
  number := (natOfDigits_natDigits n).trans_le small

theorem scanChannel_le {n : Nat} {rest : List Char} (scanned : scanChannel cs = some (n, rest)) : n ≤ 255 := by
  unfold scanChannel at scanned
  dsimp only at scanned
  split at scanned
  · cases scanned
  · rename_i inside
    cases scanned
    simp only [Bool.or_eq_true, decide_eq_true_eq, not_or, Nat.not_lt] at inside
    exact inside.2

def IsUnsigned (x : Double) : Prop :=
  x = .infinite false ∨ ∃ exponent fraction, x = .finite false exponent fraction

theorem ofQuotient_isUnsigned (num den : Nat) : IsUnsigned (.ofQuotient false num den) := by
  unfold Double.ofQuotient Double.ofRank
  split
  · exact .inr ⟨0, 0, rfl⟩
  · dsimp only
    split
    · exact .inr ⟨_, _, rfl⟩
    · exact .inl rfl

theorem ofDecimal_isUnsigned (n : Nat) (exponent : Int) : IsUnsigned (.ofDecimal false n exponent) := by
  unfold Double.ofDecimal
  repeat' split
  · exact .inr ⟨0, 0, rfl⟩
  · exact .inl rfl
  · exact .inr ⟨0, 0, rfl⟩
  · exact ofQuotient_isUnsigned _ _

theorem decimalOf?_isUnsigned {x : Double} (found : decimalOf? false cs = some x) : IsUnsigned x := by
  unfold decimalOf? at found
  dsimp only at found
  split at found
  all_goals
    split at found
    · cases found
    · obtain ⟨exponent, -, rfl⟩ := Option.map_eq_some_iff.mp found
      exact ofDecimal_isUnsigned _ _

/-- A numeral that begins with a digit or a point has no sign, and is a number. -/
theorem ofText?_isUnsigned {c : Char} {x : Double} (start : isDigit c = true ∨ c = '.')
    (found : Double.ofText? (c :: cs) = some x) : IsUnsigned x := by
  obtain ⟨minus, plus, letter⟩ : c ≠ '-' ∧ c ≠ '+' ∧ Text.asciiLower c ≠ 'n' := by
    rcases start with digit | rfl
    · have hex : isHexDigit c = true := by simp [isHexDigit, digit]
      exact forall_hexDigit (P := fun c => isDigit c = true → c ≠ '-' ∧ c ≠ '+' ∧ Text.asciiLower c ≠ 'n') (by decide) hex
        digit
    · decide
  have unsigned : signed (c :: cs) = (false, c :: cs) := by
    unfold signed
    split
    · rename_i same
      exact absurd (List.cons.inj same).1 minus
    · rename_i same
      exact absurd (List.cons.inj same).1 plus
    · rfl
  rw [Double.ofText?, unsigned] at found
  dsimp only at found
  split at found
  · cases found
    exact .inl rfl
  · cases found
    exact .inl rfl
  · rename_i named
    have head := congrArg (fun s => s.toList.head?) named
    simp [letter] at head
  · exact decimalOf?_isUnsigned found

theorem ofText?_take_isUnsigned {n : Nat} {x : Double} (start : ∀ c ∈ cs.head?, isDigit c = true ∨ c = '.')
    (found : Double.ofText? (cs.take n) = some x) : IsUnsigned x := by
  have nothing : Double.ofText? [] = none := by decide
  cases cs with
  | nil =>
    rw [List.take_nil, nothing] at found
    cases found
  | cons c cs =>
    cases n with
    | zero =>
      rw [List.take_zero, nothing] at found
      cases found
    | succ n => exact ofText?_isUnsigned (start c rfl) found

theorem begins_numeral (begins : cs.takeWhile isDigit ≠ [] ∨ ∃ after, cs.dropWhile isDigit = '.' :: after) :
    ∀ c ∈ cs.head?, isDigit c = true ∨ c = '.' := by
  intro first head
  cases cs with
  | nil => cases head
  | cons c cs =>
    cases head
    cases digit : isDigit first with
    | true => exact .inl rfl
    | false =>
      rw [List.takeWhile_cons, List.dropWhile_cons, digit] at begins
      rcases begins with whole | ⟨after, point⟩
      · exact absurd rfl whole
      · exact .inr (List.cons.inj point).1

theorem scanOpacity_isUnsigned {x : Double} {rest : List Char} (scanned : scanOpacity cs = some (x, rest)) :
    IsUnsigned x := by
  unfold scanOpacity at scanned
  generalize cs.dropWhile Text.isSpace = body at scanned
  dsimp only at scanned
  split at scanned
  · rename_i after point
    split at scanned
    · cases scanned
    · obtain ⟨y, found, same⟩ := Option.map_eq_some_iff.mp scanned
      cases same
      exact ofText?_take_isUnsigned (begins_numeral (.inr ⟨after, point⟩)) found
  · split at scanned
    · cases scanned
    · rename_i digits
      obtain ⟨y, found, same⟩ := Option.map_eq_some_iff.mp scanned
      cases same
      exact ofText?_take_isUnsigned (begins_numeral (.inl (by simpa using digits))) found

theorem clampOpacity_isOpacity {x : Double} (unsigned : IsUnsigned x) : IsOpacity (doubleLiteral (clampOpacity x)) := by
  obtain ⟨exponent, fraction, one, value⟩ := Double.ofInt_exact (n := 1) (by decide)
  have one : Double.ofInt 1 = .finite false exponent fraction := one
  have clamped : ∃ e f, clampOpacity x = .finite false e f ∧ Double.magnitude e f ≤ 1 := by
    unfold clampOpacity
    dsimp only
    rw [one]
    split
    · exact ⟨exponent, fraction, rfl, by rw [value, Nat.cast_one]⟩
    · rename_i inside
      obtain rfl | ⟨e, f, rfl⟩ := unsigned
      · exact absurd (Double.finite_less_infinite exponent fraction) inside
      · rw [Double.finite_less_iff, value, Nat.cast_one, not_lt] at inside
        exact ⟨e, f, rfl, inside⟩
  obtain ⟨e, f, same, unit⟩ := clamped
  refine ⟨e, f, ?_, unit⟩
  rw [same, ← List.append_nil (doubleLiteral _).toList]
  exact readDouble?_doubleLiteral _ (by simp)

theorem channels_isLiteral {r g b : Nat} (red : r ≤ 255) (green : g ≤ 255) (blue : b ≤ 255) {opacity : String}
    (unit : IsOpacity opacity) : ColorLiteral ("const Color.fromRGBO(" ++
      ", ".intercalate ([r, g, b].map (fun n : Nat => intText n) ++ [opacity]) ++ ")") := by
  have written (n : Nat) : intText n = String.ofList (natDigits n) := by
    rw [← intText_toList, String.ofList_toList]
  simp only [List.map_cons, List.map_nil, written]
  exact .channels (natDigits_isChannel red) (natDigits_isChannel green) (natDigits_isChannel blue) unit

theorem channelColor?_isLiteral {token : List Char} {s : String} (found : channelColor? token = some s) :
    ColorLiteral s := by
  obtain ⟨r, g, b, opacity, ⟨_, _, red⟩, ⟨_, _, green⟩, ⟨_, _, blue⟩, given, rfl⟩ := channelColor?_cases found
  have unsigned : IsUnsigned opacity := by
    obtain ⟨_, _, scanned⟩ | rfl := given
    · exact scanOpacity_isUnsigned scanned
    · exact ofQuotient_isUnsigned 1 1
  exact channels_isLiteral (scanChannel_le red) (scanChannel_le green) (scanChannel_le blue)
    (clampOpacity_isOpacity unsigned)

theorem colorOfToken?_eq_none_iff (s : String) : colorOfToken? s = none ↔
    Text.trimChars s.toList = [] ∨ (Text.trimChars s.toList).map Text.asciiLower = "null".toList := by
  have isNull (cs : List Char) : String.ofList cs = "null" ↔ cs = "null".toList := by
    rw [← String.toList_inj, String.toList_ofList]
  unfold colorOfToken?
  generalize Text.trimChars s.toList = token
  cases token with
  | nil => simp
  | cons c token =>
    simp only [isNull, List.cons_ne_nil, false_or]
    constructor
    · intro none
      by_contra other
      rw [if_neg other] at none
      split at none <;> cases none
    · exact fun null => if_pos null

theorem colorOfToken?_isLiteral {s c : String} (written : colorOfToken? s = some c) : ColorLiteral c := by
  obtain rfl | ⟨cs, digits, expanded, rfl⟩ | ⟨token, channels⟩ | ⟨name, named⟩ := colorOfToken?_cases written
  · exact fallbackColor_isLiteral
  · exact expandHex_isLiteral expanded
  · exact channelColor?_isLiteral channels
  · exact palette_isLiteral named

theorem colorOfToken?_respelled (hex : ∀ c ∈ digits, isHexDigit c = true)
    (same : cs.map asciiUpper = digits.map asciiUpper) :
    colorOfToken? (hashToken cs) = colorOfToken? (hashToken digits) := by
  have hex' := isHexDigit_of_upper same hex
  rw [colorOfToken?_hashToken hex, colorOfToken?_hashToken hex', expandHex_eq hex, expandHex_eq hex', same]

theorem colorOfToken?_doubled {r g b : Char} {six eight : List Char} (hex : ∀ c ∈ [r, g, b], isHexDigit c = true)
    (six_same : six.map asciiUpper = [r, r, g, g, b, b].map asciiUpper)
    (eight_same : eight.map asciiUpper = ['f', 'f', r, r, g, g, b, b].map asciiUpper) :
    colorOfToken? (hashToken [r, g, b]) = colorOfToken? (hashToken six) ∧
      colorOfToken? (hashToken [r, g, b]) = colorOfToken? (hashToken eight) := by
  have full : isHexDigit 'f' = true ∧ asciiUpper 'f' = 'F' := by decide
  have six_hex : ∀ c ∈ [r, r, g, g, b, b], isHexDigit c = true := by simpa using hex
  have eight_hex : ∀ c ∈ ['f', 'f', r, r, g, g, b, b], isHexDigit c = true := by simpa [full.1] using hex
  rw [colorOfToken?_respelled six_hex six_same, colorOfToken?_respelled eight_hex eight_same,
    colorOfToken?_hashToken hex, colorOfToken?_hashToken six_hex, colorOfToken?_hashToken eight_hex, expandHex_eq hex,
    expandHex_eq six_hex, expandHex_eq eight_hex]
  simp [full.2]

theorem colorOfToken?_packed {n : Nat} (packed : IsPacked n digits) :
    colorOfToken? (hashToken digits) = some (packedColor (digits.map asciiUpper)) := by
  rw [colorOfToken?_hashToken packed.hex, expandHex_packed packed]
  rfl

theorem colorOf?_natural {n : Nat} (small : n < 2 ^ 32) :
    colorOf? (.number (.ofInt n)) = some (packedColor (packedDigits n)) := by
  have exact : n < 2 ^ 53 := by omega
  have low : (Double.ofInt n).less .zero = false :=
    Bool.eq_false_iff.mpr fun less =>
      absurd ((Double.ofInt_less_iff (n := 0) exact (by decide)).mp less) (Nat.not_lt_zero n)
  have high : (Double.ofInt 0xFFFFFFFF).less (.ofInt n) = false :=
    Bool.eq_false_iff.mpr fun less =>
      absurd ((Double.ofInt_less_iff (m := 0xFFFFFFFF) (by decide) exact).mp less) (by omega)
  rw [colorOf?, Double.truncate?_ofInt exact]
  dsimp only
  rw [low, high]
  rfl

/-- A token has no color exactly if it is blank or `null`. Else its color is written as a literal, which is the same for
digits that are not doubled, that are doubled, and that have a full opacity before them. A number of 32 bits is written
as the token with its eight digits, and these digits read back as the number. -/
theorem colors_written :
    (∀ s : String, colorOfToken? s = none ↔
      Text.trimChars s.toList = [] ∨ (Text.trimChars s.toList).map Text.asciiLower = "null".toList) ∧
    (∀ s c : String, colorOfToken? s = some c → ColorLiteral c) ∧
    (∀ (r g b : Char) (six eight : List Char), (∀ c ∈ [r, g, b], isHexDigit c = true) →
      six.map asciiUpper = [r, r, g, g, b, b].map asciiUpper →
      eight.map asciiUpper = ['f', 'f', r, r, g, g, b, b].map asciiUpper →
      colorOfToken? (hashToken [r, g, b]) = colorOfToken? (hashToken six) ∧
        colorOfToken? (hashToken [r, g, b]) = colorOfToken? (hashToken eight)) ∧
    (∀ n < 2 ^ 32,
      (∀ digits, IsPacked n digits → colorOf? (.number (.ofInt n)) = colorOfToken? (hashToken digits)) ∧
      ∃ digits, IsPacked n digits ∧ (∀ c ∈ digits, isUpperHexDigit c = true) ∧
        colorOf? (.number (.ofInt n)) = some ("const Color(0x" ++ String.ofList digits ++ ")")) := by
  refine ⟨colorOfToken?_eq_none_iff, fun _ _ => colorOfToken?_isLiteral, fun _ _ _ _ _ => colorOfToken?_doubled,
    fun n small => ⟨fun digits packed => ?_, ?_⟩⟩
  · rw [colorOf?_natural small, colorOfToken?_packed packed, packed.upper small]
  · have padded := paddedDigits_isPacked small
    refine ⟨(paddedDigits n).map asciiUpper, padded.of_upper, ?_, ?_⟩
    · exact List.forall_mem_map.mpr fun c member => (hexDigit_upper (padded.hex c member)).1
    · rw [colorOf?_natural small, packedDigits_eq]
      rfl

theorem tomato_written :
    colorOfToken? (hashToken ['f', '6', '3']) = some "const Color(0xFFFF6633)" ∧
      ColorLiteral "const Color(0xFFFF6633)" ∧
      colorOfToken? (hashToken ['f', '6', '3']) = colorOfToken? (hashToken ['F', 'f', '6', '6', '3', '3']) ∧
      IsPacked 0xFFFF6633 ['f', 'f', 'F', 'F', '6', '6', '3', '3'] ∧
      colorOf? (.number (.ofInt (0xFFFF6633 : Nat))) =
        colorOfToken? (hashToken ['f', 'f', 'F', 'F', '6', '6', '3', '3']) := by
  obtain ⟨-, literal, doubled, number⟩ := colors_written
  have written : colorOfToken? (hashToken ['f', '6', '3']) = some "const Color(0xFFFF6633)" := by decide
  have packed : IsPacked 0xFFFF6633 ['f', 'f', 'F', 'F', '6', '6', '3', '3'] :=
    ⟨rfl, List.all_eq_true.mp (by decide), by decide⟩
  exact ⟨written, literal _ _ written, (doubled 'f' '6' '3' _ ['f', 'f', 'f', 'f', '6', '6', '3', '3']
    (List.all_eq_true.mp (by decide)) (by decide) (by decide)).1, packed, (number _ (by decide)).1 _ packed⟩

end WidgetSource.Dart
