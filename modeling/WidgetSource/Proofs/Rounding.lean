import WidgetSource.Number.Shortest
import Mathlib.Algebra.Order.Field.Rat
import Mathlib.Data.Rat.Cast.Order
import Mathlib.Tactic.FieldSimp
import Mathlib.Tactic.Linarith
import Mathlib.Tactic.NormNum
import Mathlib.Tactic.Positivity
import Mathlib.Tactic.Ring

namespace WidgetSource

theorem natPow_toNat {base : Nat} (pos : 0 < base) (e : Int) :
    ((Nat.pow base e.toNat : Nat) : ℚ) = (base : ℚ) ^ e * (Nat.pow base (-e).toNat : Nat) := by
  have split : (e.toNat : Int) = e + (-e).toNat := by omega
  have nonzero : (base : ℚ) ≠ 0 := by positivity
  simp only [Nat.pow_eq, Nat.cast_pow, ← zpow_natCast]
  rw [split, zpow_add₀ nonzero]

namespace Double

theorem twoPower_pos (e : Int) : (0 : ℚ) < twoPower e := by
  exact_mod_cast Nat.pow_pos (by decide : 0 < 2)

theorem tenPower_pos (e : Int) : (0 : ℚ) < tenPower e := by
  exact_mod_cast Nat.pow_pos (by decide : 0 < 10)

theorem twoPower_eq (e : Int) : (twoPower e : ℚ) = 2 ^ e * twoPower (-e) := by
  exact_mod_cast natPow_toNat (by decide : 0 < 2) e

theorem tenPower_eq (e : Int) : (tenPower e : ℚ) = 10 ^ e * tenPower (-e) := by
  exact_mod_cast natPow_toNat (by decide : 0 < 10) e

theorem two_zpow_pos (e : Int) : (0 : ℚ) < 2 ^ e :=
  zpow_pos (by norm_num) e

variable {exponent : Fin 2047} {fraction : Fin fractionCount}

def magnitude (exponent : Fin 2047) (fraction : Fin fractionCount) : ℚ :=
  significand exponent fraction * 2 ^ scale exponent

theorem quotient_eq (exponent : Fin 2047) (fraction : Fin fractionCount) :
    ((quotient exponent fraction).1 : ℚ) = magnitude exponent fraction * (quotient exponent fraction).2 := by
  simp only [quotient, magnitude, Nat.cast_mul]
  rw [twoPower_eq (scale exponent)]
  ring

theorem quotient_pos (exponent : Fin 2047) (fraction : Fin fractionCount) : 0 < (quotient exponent fraction).2 :=
  Nat.pow_pos (by decide)

theorem significand_lt (exponent : Fin 2047) (fraction : Fin fractionCount) :
    significand exponent fraction < 2 * fractionCount := by
  have := fraction.isLt
  unfold significand
  split <;> omega

theorem significand_eq_zero {exponent : Fin 2047} {fraction : Fin fractionCount}
    (zero : significand exponent fraction = 0) : exponent = 0 ∧ fraction = 0 := by
  unfold significand at zero
  split at zero
  · exact ⟨Fin.ext ‹_›, Fin.ext zero⟩
  · omega

theorem finite_rank (negative : Bool) (exponent : Fin 2047) (fraction : Fin fractionCount) :
    ofRank negative (exponent * fractionCount + fraction) = .finite negative exponent fraction := by
  have field : (exponent * fractionCount + fraction) / fractionCount = exponent.val := by
    rw [Nat.mul_comm, Nat.mul_add_div (by decide), Nat.div_eq_of_lt fraction.isLt, Nat.add_zero]
  have rest : (exponent * fractionCount + fraction) % fractionCount = fraction.val := by
    rw [Nat.mul_comm, Nat.mul_add_mod, Nat.mod_eq_of_lt fraction.isLt]
  simp only [ofRank, field, rest, exponent.isLt, dite_true]

theorem roundQuotient_eq {num den m : Nat} (pos : 0 < den) (low : (m : ℚ) - 1 / 2 ≤ num / den)
    (high : (num : ℚ) / den ≤ m + 1 / 2)
    (tie : m % 2 = 1 → (m : ℚ) - 1 / 2 < num / den ∧ (num : ℚ) / den < m + 1 / 2) : roundQuotient num den = m := by
  have den_pos : (0 : ℚ) < den := by exact_mod_cast pos
  rw [le_div_iff₀ den_pos] at low
  rw [div_le_iff₀ den_pos] at high
  rw [lt_div_iff₀ den_pos, div_lt_iff₀ den_pos] at tie
  have low' : 2 * (m * den) ≤ 2 * num + den := by
    have : (2 * (m * den) : ℚ) ≤ 2 * num + den := by linarith
    exact_mod_cast this
  have high' : 2 * num ≤ 2 * (m * den) + den := by
    have : (2 * num : ℚ) ≤ 2 * (m * den) + den := by linarith
    exact_mod_cast this
  have tie' (odd : m % 2 = 1) : 2 * (m * den) < 2 * num + den ∧ 2 * num < 2 * (m * den) + den := by
    obtain ⟨left, right⟩ := tie odd
    have left' : (2 * (m * den) : ℚ) < 2 * num + den := by linarith
    have right' : (2 * num : ℚ) < 2 * (m * den) + den := by linarith
    exact ⟨by exact_mod_cast left', by exact_mod_cast right'⟩
  have parts := Nat.div_add_mod num den
  have rest := Nat.mod_lt num pos
  -- The integer is the floor of the quotient, or the one after it.
  have near : num / den = m ∨ num / den + 1 = m := by
    have above : num / den ≤ m := by
      refine Nat.le_of_lt_succ (Nat.lt_of_mul_lt_mul_left (a := den) ?_)
      rw [Nat.mul_succ, Nat.mul_comm den m]
      omega
    have below : m < num / den + 2 := by
      refine Nat.lt_of_mul_lt_mul_left (a := den) ?_
      rw [Nat.mul_add, Nat.mul_comm den m]
      omega
    omega
  unfold roundQuotient
  rcases near with same | next
  · rw [same] at parts ⊢
    rw [Nat.mul_comm den m] at parts
    exact if_pos (by omega)
  · rw [← next, Nat.add_mul, Nat.one_mul, Nat.mul_comm (num / den)] at low' high' tie'
    rw [← next]
    exact if_neg (by omega)

theorem binaryExponent_bounds {num den : Nat} (num_pos : 0 < num) (den_pos : 0 < den) :
    (2 : ℚ) ^ binaryExponent num den ≤ num / den ∧ (num : ℚ) / den < 2 ^ (binaryExponent num den + 1) := by
  have log_bounds {n : Nat} (pos : 0 < n) : (2 : ℚ) ^ (n.log2 : Int) ≤ n ∧ (n : ℚ) < 2 ^ ((n.log2 : Int) + 1) := by
    refine ⟨?_, ?_⟩
    · rw [zpow_natCast]
      exact_mod_cast Nat.log2_self_le pos.ne'
    · rw [← Nat.cast_succ, zpow_natCast]
      exact_mod_cast Nat.lt_log2_self
  obtain ⟨num_low, num_high⟩ := log_bounds num_pos
  obtain ⟨den_low, den_high⟩ := log_bounds den_pos
  have den_pos' : (0 : ℚ) < den := by exact_mod_cast den_pos
  rw [le_div_iff₀ den_pos', div_lt_iff₀ den_pos']
  generalize guess_eq : (num.log2 : Int) - den.log2 = guess
  have guessed : num * twoPower (-guess) < den * twoPower guess ↔ (num : ℚ) < 2 ^ guess * den := by
    rw [← Nat.cast_lt (α := ℚ), Nat.cast_mul, Nat.cast_mul, twoPower_eq guess]
    have pos := twoPower_pos (-guess)
    constructor
    · intro less
      exact lt_of_mul_lt_mul_right (by linarith) pos.le
    · intro less
      nlinarith
  unfold binaryExponent
  simp only [guess_eq]
  split
  · rename_i less
    refine ⟨?_, by simpa using guessed.mp less⟩
    calc (2 : ℚ) ^ (guess - 1) * den ≤ 2 ^ (guess - 1) * 2 ^ ((den.log2 : Int) + 1) := by
          exact mul_le_mul_of_nonneg_left den_high.le (two_zpow_pos _).le
      _ = 2 ^ (num.log2 : Int) := by
          rw [← zpow_add₀ (by norm_num)]
          congr 1
          omega
      _ ≤ num := num_low
  · rename_i less
    refine ⟨not_lt.mp (mt guessed.mpr less), ?_⟩
    calc (num : ℚ) < 2 ^ ((num.log2 : Int) + 1) := num_high
      _ = 2 ^ (guess + 1) * 2 ^ (den.log2 : Int) := by
          rw [← zpow_add₀ (by norm_num)]
          congr 1
          omega
      _ ≤ 2 ^ (guess + 1) * den := mul_le_mul_of_nonneg_left den_low (two_zpow_pos _).le

variable {v : ℚ}

/-- The rational is at most half a unit of the last place away from a double, with the ends only for an even double.
Below a power of two the next double is only half a unit away. -/
structure RoundsTo (exponent : Fin 2047) (fraction : Fin fractionCount) (v : ℚ) : Prop where
  low : (significand exponent fraction : ℚ) - 1 / 2 ≤ v / 2 ^ scale exponent
  high : v / 2 ^ scale exponent ≤ significand exponent fraction + 1 / 2
  inner : significand exponent fraction % 2 = 1 → (significand exponent fraction : ℚ) - 1 / 2 < v / 2 ^ scale exponent ∧
    v / 2 ^ scale exponent < significand exponent fraction + 1 / 2
  power : fraction.val = 0 ∧ 1 < exponent.val → (significand exponent fraction : ℚ) - 1 / 4 ≤ v / 2 ^ scale exponent

theorem roundsTo_magnitude (exponent : Fin 2047) (fraction : Fin fractionCount) :
    RoundsTo exponent fraction (magnitude exponent fraction) := by
  have same : magnitude exponent fraction / 2 ^ scale exponent = significand exponent fraction :=
    mul_div_cancel_right₀ _ (two_zpow_pos _).ne'
  constructor <;> rw [same]
  · linarith
  · linarith
  · intro
    constructor <;> linarith
  · intro
    linarith

theorem significand_normal (fraction : Fin fractionCount) (normal : 0 < exponent.val) :
    significand exponent fraction = fractionCount + fraction := by
  rw [significand, if_neg normal.ne']

theorem rank_eq (exponent : Fin 2047) (fraction : Fin fractionCount) :
    (scale exponent + 1074).toNat * fractionCount + significand exponent fraction =
      exponent * fractionCount + fraction := by
  by_cases subnormal : exponent.val = 0
  · simp [scale, significand, subnormal]
  · obtain ⟨k, same⟩ := Nat.exists_eq_succ_of_ne_zero subnormal
    have place : (scale exponent + 1074).toNat = k := by
      unfold scale
      omega
    rw [place, significand, if_neg subnormal, same, Nat.succ_mul, Nat.add_assoc]

theorem lt_of_two_zpow_lt {a b : Int} (less : (2 : ℚ) ^ a < 2 ^ b) : a < b :=
  (zpow_lt_zpow_iff_right₀ (by norm_num)).mp less

theorem RoundsTo.lt_power (rounds : RoundsTo exponent fraction v) : v < 2 ^ (53 + scale exponent) := by
  have top : (significand exponent fraction : ℚ) + 1 ≤ 2 * fractionCount := by
    exact_mod_cast significand_lt exponent fraction
  have high := rounds.high
  rw [zpow_add₀ (by norm_num), ← div_lt_iff₀ (two_zpow_pos _)]
  norm_num at top ⊢
  linarith

theorem RoundsTo.power_le (rounds : RoundsTo exponent fraction v) (normal : 0 < exponent.val)
    (inside : fraction.val ≠ 0) : 2 ^ (52 + scale exponent) ≤ v := by
  have low := rounds.low
  have one : (1 : ℚ) ≤ fraction.val := by exact_mod_cast Nat.pos_of_ne_zero inside
  rw [zpow_add₀ (by norm_num), ← le_div_iff₀ (two_zpow_pos _)]
  rw [significand_normal fraction normal] at low
  push_cast at low
  norm_num at low ⊢
  linarith

theorem RoundsTo.half_power_le (rounds : RoundsTo exponent fraction v) (boundary : fraction.val = 0)
    (large : 1 < exponent.val) : 2 ^ (51 + scale exponent) ≤ v := by
  have low := rounds.power ⟨boundary, large⟩
  rw [zpow_add₀ (by norm_num), ← le_div_iff₀ (two_zpow_pos _)]
  rw [significand_normal fraction (by omega), boundary] at low
  norm_num at low ⊢
  linarith

/-- The last place of a rational in the interval of a double is that of the double, except where the double is a power
of two and the rational is below it. -/
theorem RoundsTo.lastPlace {num den : Nat} (num_pos : 0 < num) (den_pos : 0 < den)
    (rounds : RoundsTo exponent fraction (num / den)) :
    max (binaryExponent num den - 52) (-1074) = scale exponent ∨
      (fraction.val = 0 ∧ 1 < exponent.val) ∧ max (binaryExponent num den - 52) (-1074) = scale exponent - 1 ∧
        (num : ℚ) / den / 2 ^ scale exponent < 2 ^ 52 := by
  obtain ⟨low, high⟩ := binaryExponent_bounds num_pos den_pos
  generalize binaryExponent num den = b at low high ⊢
  generalize (num : ℚ) / den = v at rounds low high ⊢
  have below : b < 53 + scale exponent := lt_of_two_zpow_lt (low.trans_lt rounds.lt_power)
  have scale_eq : scale exponent = (max exponent.val 1 : Nat) - 1075 := rfl
  by_cases small : exponent.val ≤ 1
  · left
    omega
  by_cases boundary : fraction.val = 0
  · have above : 51 + scale exponent < b + 1 :=
      lt_of_two_zpow_lt ((rounds.half_power_le boundary (by omega)).trans_lt high)
    by_cases same : b = 51 + scale exponent
    · refine .inr ⟨⟨boundary, by omega⟩, by omega, ?_⟩
      rw [div_lt_iff₀ (two_zpow_pos _)]
      refine high.trans_eq ?_
      rw [same, ← zpow_natCast, ← zpow_add₀ (by norm_num)]
      congr 1
      push_cast
      ring
    · left
      omega
  · have above : 52 + scale exponent < b + 1 :=
      lt_of_two_zpow_lt ((rounds.power_le (by omega) boundary).trans_lt high)
    left
    omega

theorem num_pos_of_roundsTo {num den : Nat} (positive : 0 < significand exponent fraction)
    (rounds : RoundsTo exponent fraction (num / den)) : 0 < num := by
  rw [Nat.pos_iff_ne_zero]
  rintro rfl
  have low := rounds.low
  have one : (1 : ℚ) ≤ significand exponent fraction := by exact_mod_cast positive
  rw [Nat.cast_zero, zero_div, zero_div] at low
  linarith

theorem ofQuotient_eq (negative : Bool) {num den : Nat} (den_pos : 0 < den)
    (positive : 0 < significand exponent fraction) (rounds : RoundsTo exponent fraction (num / den)) :
    ofQuotient negative num den = .finite negative exponent fraction := by
  have num_pos := num_pos_of_roundsTo positive rounds
  have scaled (e : Int) : ((num * twoPower (-e) : Nat) : ℚ) / (den * twoPower e : Nat) = num / den / 2 ^ e := by
    have := twoPower_pos (-e)
    have := two_zpow_pos e
    rw [Nat.cast_mul, Nat.cast_mul, twoPower_eq e]
    field_simp
  have scaled_pos (e : Int) : 0 < den * twoPower e := Nat.mul_pos den_pos (Nat.pow_pos (by decide))
  have scale_eq : scale exponent = (max exponent.val 1 : Nat) - 1075 := rfl
  rw [ofQuotient, if_neg num_pos.ne', ← finite_rank]
  rcases rounds.lastPlace num_pos den_pos with same | ⟨⟨boundary, large⟩, lower, below⟩
  · have nearest : roundQuotient (num * twoPower (-scale exponent)) (den * twoPower (scale exponent)) =
        significand exponent fraction := by
      refine roundQuotient_eq (scaled_pos _) ?_ ?_ ?_ <;> rw [scaled]
      · exact rounds.low
      · exact rounds.high
      · exact rounds.inner
    simp only [same, nearest, rank_eq]
  · have normal := significand_normal fraction (by omega : 0 < exponent.val)
    have halved : (num : ℚ) / den / 2 ^ (scale exponent - 1) = 2 * (num / den / 2 ^ scale exponent) := by
      rw [zpow_sub₀ (by norm_num)]
      field_simp
    have low := rounds.power ⟨boundary, large⟩
    rw [normal, boundary] at low
    have nearest : roundQuotient (num * twoPower (-(scale exponent - 1))) (den * twoPower (scale exponent - 1)) =
        2 * fractionCount := by
      refine roundQuotient_eq (scaled_pos _) ?_ ?_ ?_ <;> rw [scaled, halved]
      · push_cast at low ⊢
        linarith
      · push_cast
        linarith
      · intro odd
        omega
    have rank : (scale exponent - 1 + 1074).toNat * fractionCount + 2 * fractionCount =
        exponent * fractionCount + fraction := by
      rw [boundary, ← Nat.add_mul, Nat.add_zero]
      congr 1
      omega
    simp only [lower, nearest, rank]

end Double

end WidgetSource
