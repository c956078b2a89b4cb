import WidgetSource.Number.Notation

namespace WidgetSource

theorem natOfDigits_natDigits (n : Nat) : natOfDigits (natDigits n) = n :=
  Nat.ofDigitChars_toDigits (by decide) (by decide)

theorem intText_toList (n : Nat) : (intText n).toList = natDigits n := by
  have small : ¬ (n : Int) < 0 := by omega
  rw [intText, if_neg small, Int.natAbs_natCast, String.toList_ofList]

theorem natOfDigits_zeros (n : Nat) (cs : List Char) :
    natOfDigits ((zeros n).toList ++ cs) = natOfDigits cs := by
  rw [zeros, String.toList_ofList]
  induction n with
  | zero => rfl
  | succ n ih => exact ih

theorem natOfDigits_append_zero (cs : List Char) : natOfDigits (cs ++ ['0']) = 10 * natOfDigits cs := by
  rw [natOfDigits, List.foldl_append, List.foldl_cons, List.foldl_nil, natOfDigits]
  rfl

end WidgetSource
