import WidgetSource.Number.Double

/-!
# Shortest decimals

The fewest decimal digits that read back as the same double: the coarsest grid of powers of ten with a point among
the reals that round to the double, and of its points there the one nearest to the double.
-/
namespace WidgetSource

inductive Tie
  | upper | even
  deriving DecidableEq

/-- The reals that round to a positive double, in units of a quarter of its last place: from `low` to `high`
around `middle`, with the ends included or not. -/
structure RoundingInterval where
  low : Nat
  middle : Nat
  high : Nat
  closed : Bool

namespace Double

/-- The reals that round to `m · 2^q`. Below a power of two the next double is only half as far away. -/
def interval (exponent : Fin 2047) (fraction : Fin fractionCount) : RoundingInterval :=
  let m := significand exponent fraction
  { low := if fraction.val = 0 ∧ 1 < exponent.val then 4 * m - 1 else 4 * m - 2
    middle := 4 * m
    high := 4 * m + 2
    closed := m % 2 = 0 }

end Double

namespace RoundingInterval

def holds (i : RoundingInterval) (num den d : Nat) : Bool :=
  if i.closed then i.low * num ≤ d * den && d * den ≤ i.high * num
  else i.low * num < d * den && d * den < i.high * num

def nearest? (tie : Tie) (i : RoundingInterval) (num den : Nat) : Option Nat :=
  let below := i.middle * num / den
  let left := 2 * (i.middle * num % den)
  let takesUpper := den < left ∨ (left = den ∧ (tie = .upper ∨ below % 2 = 1))
  match i.holds num den below, i.holds num den (below + 1) with
  | true, true => some (if takesUpper then below + 1 else below)
  | true, false => some below
  | false, true => some (below + 1)
  | false, false => none

end RoundingInterval

structure ShortDecimal where
  digits : Nat
  exponent : Int
  deriving DecidableEq, Repr

namespace Double

/-- The nearest point of the first grid that has one, from `10^k` on to finer grids. -/
def searchGrids (tie : Tie) (i : RoundingInterval) (q : Int) : Nat → Int → ShortDecimal
  | 0, k => ⟨0, k⟩
  | steps + 1, k =>
    let num := twoPower (q - 2) * tenPower (-k)
    let den := twoPower (2 - q) * tenPower k
    match i.nearest? tie num den with
    | some digits => ⟨digits, k⟩
    | none => searchGrids tie i q steps (k - 1)

/-- The shortest decimal of a positive finite magnitude. No double reaches `10^309`, and one with 17 significant
digits reads back, so the search ends before `10^-350`. -/
def shortest (tie : Tie) (exponent : Fin 2047) (fraction : Fin fractionCount) : ShortDecimal :=
  searchGrids tie (interval exponent fraction) (scale exponent) 660 309

end Double

end WidgetSource
