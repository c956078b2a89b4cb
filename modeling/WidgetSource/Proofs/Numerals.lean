import WidgetSource.Proofs.Decimals
import WidgetSource.Proofs.Digits
import WidgetSource.Proofs.Literals

namespace WidgetSource.Dart

def readDecimal? (negative : Bool) (cs : List Char) : Option Double :=
  match cs.takeWhile isDigit, cs.dropWhile isDigit with
  | digit :: whole, '.' :: other :: fraction =>
    if (other :: fraction).all isDigit then
      some (.ofDecimal negative (natOfDigits (digit :: whole ++ other :: fraction)) (-(other :: fraction).length))
    else none
  | _, _ => none

def namedDoubles : List (String × Double) :=
  [("double.nan", .nan), ("double.infinity", .infinite false), ("double.negativeInfinity", .infinite true)]

/-- The double that a literal stands for: a name, or a decimal that may have a minus sign. -/
def doubleOfLiteral? (cs : List Char) : Option Double :=
  match namedDoubles.lookup (String.ofList cs), cs with
  | some x, _ => some x
  | none, '-' :: magnitude => readDecimal? true magnitude
  | none, magnitude => readDecimal? false magnitude

def isDoubleChar (c : Char) : Bool :=
  isNameChar c || c == '-'

def readDouble? (cs : List Char) : Option (Double × List Char) :=
  (doubleOfLiteral? (cs.takeWhile isDoubleChar)).map fun x => (x, cs.dropWhile isDoubleChar)

structure IsDecimal (cs whole fraction : List Char) : Prop where
  shape : cs = whole ++ '.' :: fraction
  whole_nonempty : whole ≠ []
  fraction_nonempty : fraction ≠ []
  whole_digits : ∀ c ∈ whole, isDigit c = true
  fraction_digits : ∀ c ∈ fraction, isDigit c = true

variable {cs whole fraction : List Char}

namespace IsDecimal

theorem readDecimal? (decimal : IsDecimal cs whole fraction) (negative : Bool) :
    readDecimal? negative cs =
      some (.ofDecimal negative (natOfDigits (whole ++ fraction)) (-(fraction.length : Int))) := by
  obtain ⟨digit, whole, rfl⟩ := List.exists_cons_of_ne_nil decimal.whole_nonempty
  obtain ⟨other, fraction, rfl⟩ := List.exists_cons_of_ne_nil decimal.fraction_nonempty
  have taken : cs.takeWhile isDigit = digit :: whole := by
    rw [decimal.shape, List.takeWhile_append_of_pos decimal.whole_digits]
    simp [isDigit]
  have left : cs.dropWhile isDigit = '.' :: other :: fraction := by
    rw [decimal.shape, List.dropWhile_append_of_pos decimal.whole_digits]
    simp [isDigit]
  rw [Dart.readDecimal?, taken, left]
  exact if_pos (List.all_eq_true.mpr decimal.fraction_digits)

theorem head_isDigit (decimal : IsDecimal cs whole fraction) : ∃ digit rest, cs = digit :: rest ∧ isDigit digit = true := by
  obtain ⟨digit, rest, rfl⟩ := List.exists_cons_of_ne_nil decimal.whole_nonempty
  exact ⟨digit, rest ++ '.' :: fraction, decimal.shape, decimal.whole_digits digit List.mem_cons_self⟩

theorem isDoubleChar (decimal : IsDecimal cs whole fraction) : ∀ c ∈ cs, isDoubleChar c = true := by
  have digit (c : Char) (isDigit : isDigit c = true) : Dart.isDoubleChar c = true := by
    simp [Dart.isDoubleChar, isNameChar, continuesIdentifier, isDigit]
  rw [decimal.shape]
  simp only [List.forall_mem_append, List.forall_mem_cons]
  exact ⟨fun c member => digit c (decimal.whole_digits c member), by decide,
    fun c member => digit c (decimal.fraction_digits c member)⟩

end IsDecimal

theorem integral_isDecimal (n : Nat) : IsDecimal (natDigits n ++ ['.', '0']) (natDigits n) ['0'] where
  shape := rfl
  whole_nonempty := Nat.toDigits_ne_nil
  fraction_nonempty := List.cons_ne_nil _ _
  whole_digits _ := natDigits_isDigit
  fraction_digits := by simp [isDigit]

theorem positional_isDecimal (d : ShortDecimal) (behind : d.exponent < 0) :
    ∃ whole fraction, IsDecimal d.positional.toList whole fraction ∧ natOfDigits (whole ++ fraction) = d.digits ∧
      -(fraction.length : Int) = d.exponent := by
  have digits_nonempty : natDigits d.digits ≠ [] := Nat.toDigits_ne_nil
  have length_pos := List.length_pos_iff.mpr digits_nonempty
  unfold ShortDecimal.positional
  dsimp only
  rw [if_neg (by omega)]
  split
  · rename_i inside
    generalize within : ((natDigits d.digits).length + d.exponent).toNat = n
    refine ⟨(natDigits d.digits).take n, (natDigits d.digits).drop n, ⟨by simp, ?_, ?_, ?_, ?_⟩, ?_, ?_⟩
    · simp [digits_nonempty]
      omega
    · simp
      omega
    · exact fun c member => natDigits_isDigit (List.mem_of_mem_take member)
    · exact fun c member => natDigits_isDigit (List.mem_of_mem_drop member)
    · rw [List.take_append_drop, natOfDigits_natDigits]
    · rw [List.length_drop]
      omega
  · rename_i outside
    generalize before : (-((natDigits d.digits).length + d.exponent)).toNat = n
    refine ⟨['0'], (zeros n).toList ++ natDigits d.digits, ⟨by simp, by simp, by simp [digits_nonempty], by simp [isDigit],
      ?_⟩, ?_, ?_⟩
    · simp only [List.forall_mem_append]
      exact ⟨fun _ => zeros_isDigit, fun _ => natDigits_isDigit⟩
    · have zero : ['0'] ++ ((zeros n).toList ++ natDigits d.digits) =
          (zeros (n + 1)).toList ++ natDigits d.digits := by
        simp [zeros, List.replicate_succ]
      rw [zero, natOfDigits_zeros, natOfDigits_natDigits]
    · simp only [List.length_append, zeros, String.toList_ofList, List.length_replicate]
      omega

theorem doubleLiteral_finite (negative : Bool) (exponent : Fin 2047) (fraction : Fin Double.fractionCount) :
    ∃ cs whole behind, IsDecimal cs whole behind ∧
      (doubleLiteral (.finite negative exponent fraction)).toList = (Double.signText negative).toList ++ cs ∧
      Double.ofDecimal negative (natOfDigits (whole ++ behind)) (-(behind.length : Int)) =
        .finite negative exponent fraction := by
  by_cases integral : (Double.quotient exponent fraction).2 ∣ (Double.quotient exponent fraction).1
  · have whole := Double.magnitude_of_dvd integral
    generalize written : (Double.quotient exponent fraction).1 / (Double.quotient exponent fraction).2 = n at whole
    refine ⟨_, _, _, integral_isDecimal n, ?_, ?_⟩
    · simp [doubleLiteral, Double.isIntegral_iff.mpr integral, Double.integralText, written]
    · rw [natOfDigits_append_zero, natOfDigits_natDigits]
      rcases Nat.eq_zero_or_pos (Double.significand exponent fraction) with zero | positive
      · have none : (n : ℚ) = 0 := by rw [← whole, Double.magnitude, zero, Nat.cast_zero, zero_mul]
        obtain ⟨rfl, rfl⟩ := Double.significand_eq_zero zero
        rw [Nat.cast_eq_zero.mp none]
        rfl
      · refine Double.ofDecimal_eq negative positive ?_
        have value : ((10 * n : Nat) : ℚ) * 10 ^ (-(['0'].length : Int)) = Double.magnitude exponent fraction := by
          rw [whole]
          push_cast
          norm_num
          ring
        rw [value]
        exact Double.roundsTo_magnitude exponent fraction
  · have positive : 0 < Double.significand exponent fraction := by
      rw [Nat.pos_iff_ne_zero]
      intro zero
      refine integral ?_
      simp [Double.quotient, zero]
    have rounds := Double.shortest_roundsTo .upper positive
    have behind := Double.place_neg_of_not_dvd rounds integral
    obtain ⟨whole, digits, decimal, value, place⟩ := positional_isDecimal (Double.shortest .upper exponent fraction) behind
    refine ⟨_, whole, digits, decimal, ?_, ?_⟩
    · simp [doubleLiteral, mt Double.isIntegral_iff.mp integral, Double.plainText, positive.ne']
    · rw [value, place]
      exact Double.ofDecimal_eq negative positive rounds

theorem namedDoubles_lookup_eq_none {cs : List Char} (other : cs.head? ≠ some 'd') :
    namedDoubles.lookup (String.ofList cs) = none := by
  refine List.lookup_eq_none_iff.mpr fun entry member => bne_iff_ne.mpr fun same => other ?_
  have chars : entry.1.toList.head? = some 'd' := by
    simp only [namedDoubles, List.mem_cons, List.not_mem_nil, or_false] at member
    rcases member with rfl | rfl | rfl <;> decide
  rwa [← same, String.toList_ofList] at chars

theorem doubleOfLiteral?_doubleLiteral (x : Double) : doubleOfLiteral? (doubleLiteral x).toList = some x := by
  cases x with
  | nan => rfl
  | infinite negative => cases negative <;> rfl
  | finite negative exponent fraction =>
    obtain ⟨cs, whole, behind, decimal, same, value⟩ := doubleLiteral_finite negative exponent fraction
    obtain ⟨digit, rest, rfl, isDigit⟩ := decimal.head_isDigit
    rw [same]
    cases negative with
    | true =>
      have unnamed : namedDoubles.lookup (String.ofList ('-' :: digit :: rest)) = none :=
        namedDoubles_lookup_eq_none (by simp)
      change doubleOfLiteral? ('-' :: digit :: rest) = _
      simp only [doubleOfLiteral?, unnamed]
      rw [decimal.readDecimal? true, value]
    | false =>
      have unnamed : namedDoubles.lookup (String.ofList (digit :: rest)) = none := by
        refine namedDoubles_lookup_eq_none ?_
        rintro ⟨⟩
        exact absurd isDigit (by decide)
      have unsigned : digit ≠ '-' := by
        rintro rfl
        exact absurd isDigit (by decide)
      change doubleOfLiteral? (digit :: rest) = _
      unfold doubleOfLiteral?
      rw [unnamed]
      split
      · rename_i same
        cases same
      · rename_i same
        cases same
        exact absurd rfl unsigned
      · rw [decimal.readDecimal? false, value]

theorem doubleLiteral_isDoubleChar (x : Double) : ∀ c ∈ (doubleLiteral x).toList, isDoubleChar c = true := by
  cases x with
  | nan => exact List.all_eq_true.mp (by decide)
  | infinite negative => cases negative <;> exact List.all_eq_true.mp (by decide)
  | finite negative exponent fraction =>
    obtain ⟨cs, whole, behind, decimal, same, value⟩ := doubleLiteral_finite negative exponent fraction
    rw [same]
    simp only [List.forall_mem_append]
    refine ⟨?_, decimal.isDoubleChar⟩
    cases negative <;> exact List.all_eq_true.mp (by decide)

/-- The literal of a double stands for the double, whatever follows it that cannot be part of it. -/
theorem readDouble?_doubleLiteral (x : Double) {rest : List Char} (ends : ∀ c ∈ rest.head?, isDoubleChar c = false) :
    readDouble? ((doubleLiteral x).toList ++ rest) = some (x, rest) := by
  have taken : ((doubleLiteral x).toList ++ rest).takeWhile isDoubleChar = (doubleLiteral x).toList := by
    rw [List.takeWhile_append_of_pos (doubleLiteral_isDoubleChar x)]
    cases rest with
    | nil => simp
    | cons c rest => simp [ends c rfl]
  have left : ((doubleLiteral x).toList ++ rest).dropWhile isDoubleChar = rest := by
    rw [List.dropWhile_append_of_pos (doubleLiteral_isDoubleChar x)]
    cases rest with
    | nil => rfl
    | cons c rest => simp [ends c rfl]
  rw [readDouble?, taken, left, doubleOfLiteral?_doubleLiteral]
  rfl

end WidgetSource.Dart
