import WidgetSource.Number.Decimal
import WidgetSource.Proofs.Rounding
import Mathlib.Data.Nat.Cast.Field
import Mathlib.Tactic.LinearCombination

namespace WidgetSource.Double

variable {exponent : Fin 2047} {fraction : Fin fractionCount}

theorem two_zpow_le_ten_zpow (n : Nat) : (2 : ℚ) ^ (33 * n : Int) ≤ 10 ^ (10 * n : Int) := by
  rw [zpow_mul, zpow_mul, zpow_natCast, zpow_natCast]
  exact pow_le_pow_left₀ (by norm_num) (by norm_num) n

theorem ten_zpow_le_two_zpow (n : Nat) : (10 : ℚ) ^ (-(10 * n) : Int) ≤ 2 ^ (-(33 * n) : Int) := by
  rw [zpow_neg, zpow_neg]
  exact inv_anti₀ (two_zpow_pos _) (two_zpow_le_ten_zpow n)

theorem RoundsTo.lt {v : ℚ} (rounds : RoundsTo exponent fraction v) : v < 2 ^ (1024 : Int) := by
  have large : (53 : Int) + scale exponent ≤ 1024 := by
    unfold scale
    omega
  exact rounds.lt_power.trans_le (zpow_le_zpow_right₀ (by norm_num) large)

theorem RoundsTo.le {v : ℚ} (rounds : RoundsTo exponent fraction v) (positive : 0 < significand exponent fraction) :
    2 ^ (-1075 : Int) ≤ v := by
  have unit := two_zpow_pos (scale exponent)
  have one : (1 : ℚ) ≤ significand exponent fraction := by exact_mod_cast positive
  have inside : (2 : ℚ) ^ (-1 : Int) ≤ v / 2 ^ scale exponent := by
    have := rounds.low
    norm_num
    linarith
  have small : -1075 ≤ -1 + scale exponent := by
    unfold scale
    omega
  calc (2 : ℚ) ^ (-1075 : Int) ≤ 2 ^ (-1 + scale exponent) := zpow_le_zpow_right₀ (by norm_num) small
    _ = 2 ^ (-1 : Int) * 2 ^ scale exponent := zpow_add₀ (by norm_num) _ _
    _ ≤ v := (le_div_iff₀ unit).mp inside

theorem ofDecimal_eq (negative : Bool) {digits : Nat} {place : Int} (positive : 0 < significand exponent fraction)
    (rounds : RoundsTo exponent fraction (digits * 10 ^ place)) :
    ofDecimal negative digits place = .finite negative exponent fraction := by
  have low := rounds.le positive
  have high := rounds.lt
  have ten := zpow_pos (by norm_num : (0 : ℚ) < 10) place
  have digits_pos : 0 < digits := by
    rw [Nat.pos_iff_ne_zero]
    rintro rfl
    rw [Nat.cast_zero, zero_mul] at low
    exact absurd low (not_le.mpr (two_zpow_pos _))
  have one : (1 : ℚ) ≤ digits := by exact_mod_cast digits_pos
  have notLarge : ¬ 400 < place := by
    intro large
    have huge : (2 : ℚ) ^ (1024 : Int) ≤ digits * 10 ^ place :=
      calc (2 : ℚ) ^ (1024 : Int) ≤ 2 ^ (33 * (40 : Nat) : Int) := zpow_le_zpow_right₀ (by norm_num) (by norm_num)
        _ ≤ 10 ^ (10 * (40 : Nat) : Int) := two_zpow_le_ten_zpow 40
        _ ≤ 10 ^ place := zpow_le_zpow_right₀ (by norm_num) (by omega)
        _ ≤ digits * 10 ^ place := le_mul_of_one_le_left ten.le one
    exact absurd high (not_lt.mpr huge)
  have notSmall : ¬ place < -(400 + digits.log2 : Int) := by
    intro small
    have most : (digits : ℚ) < 2 * 10 ^ (digits.log2 : Int) := by
      have log : (digits : ℚ) < 2 * 2 ^ digits.log2 := by
        rw [← pow_succ']
        exact_mod_cast Nat.lt_log2_self
      have grow : (2 : ℚ) ^ digits.log2 ≤ 10 ^ digits.log2 := pow_le_pow_left₀ (by norm_num) (by norm_num) _
      rw [zpow_natCast]
      linarith
    have tiny : (digits : ℚ) * 10 ^ place < 2 ^ (-1075 : Int) :=
      calc (digits : ℚ) * 10 ^ place < 2 * 10 ^ (digits.log2 : Int) * 10 ^ place := mul_lt_mul_of_pos_right most ten
        _ = 2 * 10 ^ (digits.log2 + place) := by rw [mul_assoc, zpow_add₀ (by norm_num)]
        _ ≤ 2 * 10 ^ (-(10 * (40 : Nat)) : Int) :=
          mul_le_mul_of_nonneg_left (zpow_le_zpow_right₀ (by norm_num) (by omega)) (by norm_num)
        _ ≤ 2 * 2 ^ (-(33 * (40 : Nat)) : Int) := mul_le_mul_of_nonneg_left (ten_zpow_le_two_zpow 40) (by norm_num)
        _ = 2 ^ (1 + -(33 * (40 : Nat)) : Int) := by rw [zpow_add₀ (by norm_num), zpow_one]
        _ ≤ 2 ^ (-1075 : Int) := zpow_le_zpow_right₀ (by norm_num) (by norm_num)
    exact absurd low (not_le.mpr tiny)
  have value : ((digits * tenPower place : Nat) : ℚ) / tenPower (-place) = digits * 10 ^ place := by
    have := tenPower_pos (-place)
    rw [Nat.cast_mul, tenPower_eq place]
    field_simp
  rw [ofDecimal, if_neg digits_pos.ne', if_neg notLarge, if_neg notSmall]
  refine ofQuotient_eq negative (Nat.pow_pos (by decide)) positive ?_
  rwa [value]

/-- The numerator and the denominator of a unit of the interval of a double, in units of a grid of powers of ten. -/
def gridUnit (exponent : Fin 2047) (place : Int) : Nat × Nat :=
  (twoPower (scale exponent - 2) * tenPower (-place), twoPower (2 - scale exponent) * tenPower place)

theorem gridUnit_pos (exponent : Fin 2047) (place : Int) : 0 < (gridUnit exponent place).2 :=
  Nat.mul_pos (Nat.pow_pos (by decide)) (Nat.pow_pos (by decide))

theorem gridUnit_eq (exponent : Fin 2047) (place : Int) :
    4 * ((gridUnit exponent place).1 : ℚ) * 10 ^ place = 2 ^ scale exponent * (gridUnit exponent place).2 := by
  have ten := tenPower_eq place
  have two := twoPower_eq (scale exponent - 2)
  have quarter : (2 : ℚ) ^ scale exponent = 4 * 2 ^ (scale exponent - 2) := by
    rw [zpow_sub₀ (by norm_num)]
    norm_num
    ring
  rw [neg_sub] at two
  simp only [gridUnit, Nat.cast_mul, two, ten, quarter]
  ring

theorem holds_iff {i : RoundingInterval} {num den d : Nat} : i.holds num den d = true ↔
    i.low * num ≤ d * den ∧ d * den ≤ i.high * num ∧
      (i.closed = false → i.low * num < d * den ∧ d * den < i.high * num) := by
  unfold RoundingInterval.holds
  cases i.closed with
  | true => simp
  | false =>
    simp only [Bool.false_eq_true, if_false, Bool.and_eq_true, decide_eq_true_eq, forall_const]
    constructor
    · exact fun inside => ⟨inside.1.le, inside.2.le, inside⟩
    · exact fun inside => inside.2.2

theorem interval_low (positive : 0 < significand exponent fraction) :
    (4 * significand exponent fraction - 2 : ℚ) ≤ (interval exponent fraction).low ∧
      (fraction.val = 0 ∧ 1 < exponent.val → (4 * significand exponent fraction - 1 : ℚ) ≤
        (interval exponent fraction).low) := by
  simp only [interval]
  generalize significand exponent fraction = m at positive ⊢
  split
  · rw [Nat.cast_sub (by omega)]
    push_cast
    exact ⟨by linarith, fun _ => le_rfl⟩
  · rename_i other
    rw [Nat.cast_sub (by omega)]
    push_cast
    exact ⟨le_rfl, fun power => absurd power other⟩

theorem roundsTo_of_holds {place : Int} {d : Nat} (positive : 0 < significand exponent fraction)
    (holds : (interval exponent fraction).holds (gridUnit exponent place).1 (gridUnit exponent place).2 d = true) :
    RoundsTo exponent fraction (d * 10 ^ place) := by
  obtain ⟨low, high, inner⟩ := holds_iff.mp holds
  obtain ⟨least, power⟩ := interval_low positive
  have top : ((interval exponent fraction).high : ℚ) = 4 * significand exponent fraction + 2 := by
    simp [interval]
  have closed : (interval exponent fraction).closed = false ↔ significand exponent fraction % 2 = 1 := by
    simp [interval]
  have unit_eq := gridUnit_eq exponent place
  have unit_pos : (0 : ℚ) < (gridUnit exponent place).1 := by
    exact_mod_cast Nat.mul_pos (Nat.pow_pos (by decide)) (Nat.pow_pos (by decide))
  generalize (gridUnit exponent place).1 = num at *
  generalize (gridUnit exponent place).2 = den at *
  generalize interval exponent fraction = i at *
  have scaled : (d : ℚ) * 10 ^ place / 2 ^ scale exponent = d * den / (4 * num) := by
    have := (two_zpow_pos (scale exponent)).ne'
    field_simp
    linear_combination (d : ℚ) * unit_eq
  have low' : (i.low * num : ℚ) ≤ d * den := by exact_mod_cast low
  have high' : (d * den : ℚ) ≤ i.high * num := by exact_mod_cast high
  rw [top] at high'
  have span : (0 : ℚ) < 4 * num := by linarith
  constructor <;> rw [scaled]
  · rw [le_div_iff₀ span]
    nlinarith
  · rw [div_le_iff₀ span]
    linarith
  · intro odd
    obtain ⟨above, below⟩ := inner (closed.mpr odd)
    have above' : (i.low * num : ℚ) < d * den := by exact_mod_cast above
    have below' : (d * den : ℚ) < i.high * num := by exact_mod_cast below
    rw [top] at below'
    rw [lt_div_iff₀ span, div_lt_iff₀ span]
    constructor
    · nlinarith
    · linarith
  · intro boundary
    have := power boundary
    rw [le_div_iff₀ span]
    nlinarith

theorem nearest?_holds {tie : Tie} {i : RoundingInterval} {num den d : Nat} (found : i.nearest? tie num den = some d) :
    i.holds num den d = true := by
  unfold RoundingInterval.nearest? at found
  dsimp only at found
  split at found <;> simp only [Option.some.injEq, reduceCtorEq] at found
  · split at found <;> subst found <;> assumption
  · subst found
    assumption
  · subst found
    assumption

/-- A grid that is as fine as the units of an interval has a point in it. -/
theorem nearest?_isSome (tie : Tie) {num den : Nat} (den_pos : 0 < den) (fine : den ≤ num)
    (positive : 0 < significand exponent fraction) :
    ((interval exponent fraction).nearest? tie num den).isSome = true := by
  have below : (interval exponent fraction).holds num den ((interval exponent fraction).middle * num / den) = true := by
    have parts := Nat.div_add_mod ((interval exponent fraction).middle * num) den
    have rest := Nat.mod_lt ((interval exponent fraction).middle * num) den_pos
    have ends : (interval exponent fraction).low + 1 ≤ (interval exponent fraction).middle ∧
        (interval exponent fraction).middle + 1 ≤ (interval exponent fraction).high := by
      simp only [interval]
      split <;> omega
    generalize interval exponent fraction = i at *
    have inside : i.low * num < i.middle * num / den * den ∧ i.middle * num / den * den < i.high * num := by
      have lower := Nat.mul_le_mul_right num ends.1
      have upper := Nat.mul_le_mul_right num ends.2
      rw [Nat.add_mul, Nat.one_mul] at lower upper
      rw [Nat.mul_comm _ den]
      omega
    exact holds_iff.mpr ⟨inside.1.le, inside.2.le, fun _ => inside⟩
  unfold RoundingInterval.nearest?
  dsimp only
  rw [below]
  split <;> simp_all

theorem searchGrids_roundsTo (tie : Tie) (positive : 0 < significand exponent fraction) {steps : Nat} {first place : Int}
    (low : first - steps < place) (high : place ≤ first)
    (fine : (gridUnit exponent place).2 ≤ (gridUnit exponent place).1) :
    RoundsTo exponent fraction
      ((searchGrids tie (interval exponent fraction) (scale exponent) steps first).digits *
        10 ^ (searchGrids tie (interval exponent fraction) (scale exponent) steps first).exponent) := by
  induction steps generalizing first with
  | zero => omega
  | succ steps ih =>
    simp only [searchGrids]
    split
    · rename_i digits found
      exact roundsTo_of_holds positive (nearest?_holds found)
    · rename_i none
      have other : place ≠ first := by
        rintro rfl
        have found := nearest?_isSome tie (gridUnit_pos exponent place) fine positive
        rw [gridUnit, none] at found
        cases found
      exact ih (by omega) (by omega)

theorem shortest_roundsTo (tie : Tie) (positive : 0 < significand exponent fraction) :
    RoundsTo exponent fraction
      ((shortest tie exponent fraction).digits * 10 ^ (shortest tie exponent fraction).exponent) := by
  have fine : (gridUnit exponent (-350)).2 ≤ (gridUnit exponent (-350)).1 := by
    have unit_eq := gridUnit_eq exponent (-350)
    have den_pos : (0 : ℚ) < (gridUnit exponent (-350)).2 := by exact_mod_cast gridUnit_pos exponent (-350)
    have small : (4 : ℚ) * 10 ^ (-350 : Int) ≤ 2 ^ scale exponent :=
      calc (4 : ℚ) * 10 ^ (-350 : Int) ≤ 2 ^ (2 : Int) * 2 ^ (-(33 * (35 : Nat)) : Int) :=
            mul_le_mul (by norm_num) (ten_zpow_le_two_zpow 35) (zpow_pos (by norm_num) _).le (by norm_num)
        _ = 2 ^ (2 + -(33 * (35 : Nat)) : Int) := (zpow_add₀ (by norm_num) _ _).symm
        _ ≤ 2 ^ scale exponent := by
          refine zpow_le_zpow_right₀ (by norm_num) ?_
          unfold scale
          omega
    have ten := zpow_pos (by norm_num : (0 : ℚ) < 10) (-350)
    have : ((gridUnit exponent (-350)).2 : ℚ) ≤ (gridUnit exponent (-350)).1 := by
      refine le_of_mul_le_mul_left ?_ (by linarith : (0 : ℚ) < 4 * 10 ^ (-350 : Int))
      have := mul_le_mul_of_nonneg_right small den_pos.le
      linarith
    exact_mod_cast this
  exact searchGrids_roundsTo tie positive (by norm_num) (by norm_num) fine

theorem isIntegral_iff {negative : Bool} : isIntegral (.finite negative exponent fraction) = true ↔
    (quotient exponent fraction).2 ∣ (quotient exponent fraction).1 := by
  simp [isIntegral, Nat.dvd_iff_mod_eq_zero]

theorem magnitude_of_dvd (whole : (quotient exponent fraction).2 ∣ (quotient exponent fraction).1) :
    magnitude exponent fraction =
      ((quotient exponent fraction).1 / (quotient exponent fraction).2 : Nat) := by
  have nonzero : ((quotient exponent fraction).2 : ℚ) ≠ 0 := by exact_mod_cast (quotient_pos exponent fraction).ne'
  rw [Nat.cast_div whole nonzero, quotient_eq, mul_div_cancel_right₀ _ nonzero]

theorem dvd_of_roundsTo_nat {n : Nat} (rounds : RoundsTo exponent fraction n) :
    (quotient exponent fraction).2 ∣ (quotient exponent fraction).1 := by
  by_cases whole : 0 ≤ scale exponent
  · have one : (quotient exponent fraction).2 = 1 := by
      have : (-scale exponent).toNat = 0 := by omega
      simp [quotient, twoPower, this]
    rw [one]
    exact one_dvd _
  · have num_eq : (quotient exponent fraction).1 = significand exponent fraction := by
      have : (scale exponent).toNat = 0 := by omega
      simp [quotient, twoPower, this]
    have unit : (n : ℚ) / 2 ^ scale exponent = (n * (quotient exponent fraction).2 : Nat) := by
      have inverse := twoPower_eq (-scale exponent)
      have : twoPower (scale exponent) = 1 := by
        have : (scale exponent).toNat = 0 := by omega
        simp [twoPower, this]
      rw [neg_neg, this, Nat.cast_one, mul_one, zpow_neg] at inverse
      rw [quotient, Nat.cast_mul, inverse, div_eq_mul_inv]
    have low := rounds.low
    have high := rounds.high
    rw [unit] at low high
    rw [num_eq]
    generalize significand exponent fraction = m at low high ⊢
    have same : n * (quotient exponent fraction).2 = m := by
      have upper : (m : ℚ) < (n * (quotient exponent fraction).2 : Nat) + 1 := by linarith
      have lower : ((n * (quotient exponent fraction).2 : Nat) : ℚ) < m + 1 := by linarith
      have upper' : m < n * (quotient exponent fraction).2 + 1 := by exact_mod_cast upper
      have lower' : n * (quotient exponent fraction).2 < m + 1 := by exact_mod_cast lower
      omega
    exact ⟨n, by rw [← same, Nat.mul_comm]⟩

theorem place_neg_of_not_dvd {digits : Nat} {place : Int} (rounds : RoundsTo exponent fraction (digits * 10 ^ place))
    (fractional : ¬ (quotient exponent fraction).2 ∣ (quotient exponent fraction).1) : place < 0 := by
  by_contra behind
  obtain ⟨n, rfl⟩ := Int.eq_ofNat_of_zero_le (not_lt.mp behind)
  refine fractional (dvd_of_roundsTo_nat (n := digits * 10 ^ n) ?_)
  push_cast
  rwa [zpow_natCast] at rounds

end WidgetSource.Double
