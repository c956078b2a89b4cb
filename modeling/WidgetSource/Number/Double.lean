/-!
# Doubles

Binary floating point numbers with 53 significant bits, as exact data. A finite one is given by its sign, its
exponent field and its fraction field, so every value of the type is one number and every number but zero has one
value; zero has two, one of each sign.
-/
namespace WidgetSource

abbrev Double.fractionCount : Nat := 4503599627370496

inductive Double
  | nan
  | infinite (negative : Bool)
  | finite (negative : Bool) (exponent : Fin 2047) (fraction : Fin Double.fractionCount)
  deriving DecidableEq, Repr

namespace Double

/-- The number of that rank among the finite magnitudes in ascending order; past the last, infinity. -/
def ofRank (negative : Bool) (rank : Nat) : Double :=
  if inside : rank / fractionCount < 2047 then
    .finite negative ⟨rank / fractionCount, inside⟩ ⟨rank % fractionCount, Nat.mod_lt _ (by decide)⟩
  else .infinite negative

def rank : Double → Nat
  | .nan => 0
  | .infinite _ => 2047 * fractionCount
  | .finite _ exponent fraction => exponent * fractionCount + fraction

def zero : Double := .finite false 0 0

instance : Inhabited Double := ⟨zero⟩

/-- The integer `m` in the magnitude `m · 2^q`. -/
def significand (exponent : Fin 2047) (fraction : Fin fractionCount) : Nat :=
  if exponent.val = 0 then fraction else fractionCount + fraction

/-- The integer `q` in the magnitude `m · 2^q`. -/
def scale (exponent : Fin 2047) : Int :=
  max exponent.val 1 - 1075

def isNaN : Double → Bool
  | .nan => true
  | _ => false

def isFinite : Double → Bool
  | .finite .. => true
  | _ => false

/-- The place of a number in the order of all numbers; both zeros have place 0. -/
def place? : Double → Option Int
  | .nan => none
  | x@(.infinite negative) | x@(.finite negative _ _) =>
    some (if negative then -(x.rank : Int) else x.rank)

/-- Numeric equality: the zeros are equal, and nothing equals a value that is not a number. -/
def same (x y : Double) : Bool :=
  match x.place?, y.place? with
  | some i, some j => i == j
  | _, _ => false

/-- Numeric order, false beside a value that is not a number. -/
def less (x y : Double) : Bool :=
  match x.place?, y.place? with
  | some i, some j => i < j
  | _, _ => false

/-- The quotient of two naturals rounded to the nearest integer, a half to the even neighbour. -/
def roundQuotient (num den : Nat) : Nat :=
  let floor := num / den
  let twice := 2 * (num % den)
  if twice < den ∨ (twice = den ∧ floor % 2 = 0) then floor else floor + 1

/-- The numerator of `2^e`; its denominator is `twoPower (-e)`. -/
def twoPower (e : Int) : Nat := Nat.pow 2 e.toNat

/-- The numerator of `10^e`; its denominator is `tenPower (-e)`. -/
def tenPower (e : Int) : Nat := Nat.pow 10 e.toNat

def binaryExponent (num den : Nat) : Int :=
  let guess : Int := num.log2 - den.log2
  if num * twoPower (-guess) < den * twoPower guess then guess - 1 else guess

def ofQuotient (negative : Bool) (num den : Nat) : Double :=
  if num = 0 then .finite negative 0 0
  else
    let q := max (binaryExponent num den - 52) (-1074)
    ofRank negative ((q + 1074).toNat * fractionCount + roundQuotient (num * twoPower (-q)) (den * twoPower q))

def ofInt (n : Int) : Double :=
  ofQuotient (n < 0) n.natAbs 1

/-- The number nearest to `digits · 10^exponent`. Exponents far outside the range of doubles are settled without
the power: a positive magnitude from `10^400` on is infinite, one below `10^-399` is zero. -/
def ofDecimal (negative : Bool) (digits : Nat) (exponent : Int) : Double :=
  if digits = 0 then .finite negative 0 0
  else if 400 < exponent then .infinite negative
  else if exponent < -(400 + digits.log2 : Int) then .finite negative 0 0
  else ofQuotient negative (digits * tenPower exponent) (tenPower (-exponent))

def quotient (exponent : Fin 2047) (fraction : Fin fractionCount) : Nat × Nat :=
  (significand exponent fraction * twoPower (scale exponent), twoPower (-scale exponent))

def isIntegral : Double → Bool
  | .finite _ exponent fraction =>
    let (num, den) := quotient exponent fraction
    num % den = 0
  | _ => false

/-- The product with the double for a power of ten, or the quotient by it for a negative exponent. -/
def scaleTen (x : Double) (exponent : Int) : Double :=
  match x, ofDecimal false 1 exponent.natAbs with
  | .finite negative exponentField fraction, .finite _ powerField powerFraction =>
    let (num, den) := quotient exponentField fraction
    let (powerNum, powerDen) := quotient powerField powerFraction
    if 0 ≤ exponent then ofQuotient negative (num * powerNum) (den * powerDen)
    else ofQuotient negative (num * powerDen) (den * powerNum)
  | x, _ => x

def withSign (negative : Bool) (n : Nat) : Int :=
  if negative then -(n : Int) else n

def truncate? : Double → Option Int
  | .finite negative exponent fraction =>
    let (num, den) := quotient exponent fraction
    some (withSign negative (num / den))
  | _ => none

/-- The nearest integer of a finite number, a half away from zero. -/
def round? : Double → Option Int
  | .finite negative exponent fraction =>
    let (num, den) := quotient exponent fraction
    some (withSign negative ((2 * num + den) / (2 * den)))
  | _ => none

/-- The 64 bits of a number; of those that are no number, the one with only the first fraction bit set. -/
def bits : Double → Nat
  | .nan => 0x7FF8000000000000
  | x@(.infinite negative) | x@(.finite negative _ _) =>
    (if negative then 2048 * fractionCount else 0) + x.rank

end Double

end WidgetSource
