import WidgetSource.Proofs.Rounding

namespace WidgetSource.Double

variable {exponent other : Fin 2047} {fraction rest : Fin fractionCount}

theorem magnitude_lt_power (exponent : Fin 2047) (fraction : Fin fractionCount) :
    magnitude exponent fraction < fractionCount * 2 ^ ((exponent.val : Int) - 1074) := by
  by_cases subnormal : exponent.val = 0
  · have scaled : scale exponent = (exponent.val : Int) - 1074 := by
      simp [scale, subnormal]
    have less : (fraction.val : ℚ) < fractionCount := by exact_mod_cast fraction.isLt
    rw [magnitude, scaled, significand, if_pos subnormal]
    exact mul_lt_mul_of_pos_right less (two_zpow_pos _)
  · have scaled : scale exponent = (exponent.val : Int) - 1074 - 1 := by
      unfold scale
      omega
    have less : (significand exponent fraction : ℚ) < 2 * fractionCount := by
      exact_mod_cast significand_lt exponent fraction
    rw [magnitude, scaled, zpow_sub₀ (by norm_num), zpow_one, ← mul_div_assoc, div_lt_iff₀ (by norm_num)]
    linarith [mul_lt_mul_of_pos_right less (two_zpow_pos ((exponent.val : Int) - 1074))]

theorem power_le_magnitude (fraction : Fin fractionCount) (normal : 0 < exponent.val) :
    fractionCount * 2 ^ ((exponent.val : Int) - 1075) ≤ magnitude exponent fraction := by
  have scaled : scale exponent = (exponent.val : Int) - 1075 := by
    unfold scale
    omega
  rw [magnitude, scaled, significand_normal fraction normal]
  refine mul_le_mul_of_nonneg_right ?_ (two_zpow_pos _).le
  exact_mod_cast Nat.le_add_right _ _

theorem magnitude_lt_of_rank_lt
    (less : exponent * fractionCount + fraction < other * fractionCount + rest) :
    magnitude exponent fraction < magnitude other rest := by
  have inside := fraction.isLt
  have inside' := rest.isLt
  rcases Nat.lt_trichotomy exponent.val other.val with lower | same | higher
  · calc magnitude exponent fraction < fractionCount * 2 ^ ((exponent.val : Int) - 1074) :=
          magnitude_lt_power exponent fraction
      _ ≤ fractionCount * 2 ^ ((other.val : Int) - 1075) := by
          refine mul_le_mul_of_nonneg_left ?_ (by positivity)
          exact zpow_le_zpow_right₀ (by norm_num) (by omega)
      _ ≤ magnitude other rest := power_le_magnitude rest (by omega)
  · obtain rfl : exponent = other := Fin.ext same
    have below : significand exponent fraction < significand exponent rest := by
      unfold significand
      split <;> omega
    exact mul_lt_mul_of_pos_right (by exact_mod_cast below) (two_zpow_pos _)
  · have := Nat.mul_le_mul_right fractionCount (Nat.succ_le_of_lt higher)
    rw [Nat.succ_mul] at this
    omega

theorem magnitude_le_of_rank_le (le : exponent * fractionCount + fraction ≤ other * fractionCount + rest) :
    magnitude exponent fraction ≤ magnitude other rest := by
  rcases Nat.lt_or_eq_of_le le with less | same
  · exact (magnitude_lt_of_rank_lt less).le
  · have equal : finite false exponent fraction = finite false other rest := by
      rw [← finite_rank, same, finite_rank]
    cases equal
    exact le_rfl

theorem finite_less_iff : (finite false exponent fraction).less (finite false other rest) = true ↔
    magnitude exponent fraction < magnitude other rest := by
  have ranks : (finite false exponent fraction).less (finite false other rest) = true ↔
      exponent * fractionCount + fraction < other * fractionCount + rest := by
    simp only [less, place?, rank, Bool.false_eq_true, if_false, decide_eq_true_eq, Int.ofNat_lt]
  rw [ranks]
  exact ⟨magnitude_lt_of_rank_lt, fun less => not_le.mp fun le => less.not_ge (magnitude_le_of_rank_le le)⟩

theorem finite_less_infinite (exponent : Fin 2047) (fraction : Fin fractionCount) :
    (finite false exponent fraction).less (.infinite false) = true := by
  have below : exponent * fractionCount + fraction < 2047 * fractionCount := by
    have := fraction.isLt
    have := Nat.mul_le_mul_right fractionCount (Nat.succ_le_of_lt exponent.isLt)
    rw [Nat.succ_mul] at this
    omega
  simp only [less, place?, rank, Bool.false_eq_true, if_false, decide_eq_true_eq]
  exact_mod_cast below

variable {m n : Nat}

/-- A natural number of at most 53 bits is a double. -/
theorem ofInt_exact (small : n < 2 ^ 53) :
    ∃ exponent fraction, ofInt n = .finite false exponent fraction ∧ magnitude exponent fraction = n := by
  rcases Nat.eq_zero_or_pos n with rfl | pos
  · exact ⟨0, 0, rfl, by simp [magnitude, significand]⟩
  · have short : n.log2 < 53 := (Nat.log2_lt pos.ne').mpr small
    -- Shifted so that the first bit is the one that the fraction field leaves out.
    have low : fractionCount ≤ n * 2 ^ (52 - n.log2) := by
      calc fractionCount = 2 ^ n.log2 * 2 ^ (52 - n.log2) := by
            rw [← Nat.pow_add, Nat.add_sub_cancel' (by omega)]
        _ ≤ n * 2 ^ (52 - n.log2) := Nat.mul_le_mul_right _ (Nat.log2_self_le pos.ne')
    have high : n * 2 ^ (52 - n.log2) < 2 * fractionCount := by
      calc n * 2 ^ (52 - n.log2) < 2 ^ (n.log2 + 1) * 2 ^ (52 - n.log2) :=
            Nat.mul_lt_mul_of_pos_right Nat.lt_log2_self (Nat.pow_pos (by decide))
        _ = 2 * fractionCount := by
            rw [← Nat.pow_add, (by omega : n.log2 + 1 + (52 - n.log2) = 53)]
            rfl
    let exponent : Fin 2047 := ⟨n.log2 + 1023, by omega⟩
    let fraction : Fin fractionCount := ⟨n * 2 ^ (52 - n.log2) - fractionCount, by omega⟩
    have digits : significand exponent fraction = n * 2 ^ (52 - n.log2) := by
      rw [significand_normal fraction (by simp [exponent])]
      exact Nat.add_sub_cancel' low
    have value : magnitude exponent fraction = n := by
      have scaled : scale exponent = -((52 - n.log2 : Nat) : Int) := by
        simp only [scale, exponent]
        omega
      rw [magnitude, digits, scaled, zpow_neg, zpow_natCast]
      push_cast
      field_simp
    refine ⟨exponent, fraction, ?_, value⟩
    have rounds : RoundsTo exponent fraction ((n : ℚ) / (1 : Nat)) := by
      rw [Nat.cast_one, div_one, ← value]
      exact roundsTo_magnitude exponent fraction
    have positive : ¬ (n : Int) < 0 := by omega
    rw [ofInt, Int.natAbs_natCast, decide_eq_false positive]
    exact ofQuotient_eq false Nat.one_pos (by omega) rounds

theorem truncate?_ofInt (small : n < 2 ^ 53) : (ofInt n).truncate? = some (n : Int) := by
  obtain ⟨exponent, fraction, same, value⟩ := ofInt_exact small
  have whole : (quotient exponent fraction).1 = n * (quotient exponent fraction).2 := by
    have product := quotient_eq exponent fraction
    rw [value] at product
    exact_mod_cast product
  rw [same, truncate?]
  dsimp only
  rw [whole, Nat.mul_div_cancel n (quotient_pos exponent fraction)]
  rfl

theorem ofInt_less_iff (small : m < 2 ^ 53) (small' : n < 2 ^ 53) : (ofInt m).less (ofInt n) = true ↔ m < n := by
  obtain ⟨exponent, fraction, same, value⟩ := ofInt_exact small
  obtain ⟨other, rest, same', value'⟩ := ofInt_exact small'
  rw [same, same', finite_less_iff, value, value', Nat.cast_lt]

end WidgetSource.Double
