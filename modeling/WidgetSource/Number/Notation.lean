import WidgetSource.Number.Decimal
import WidgetSource.Number.Shortest

namespace WidgetSource

def zeros (n : Nat) : String :=
  String.ofList (List.replicate n '0')

namespace ShortDecimal

def leading (d : ShortDecimal) : Int :=
  (natDigits d.digits).length + d.exponent - 1

def positional (d : ShortDecimal) : String :=
  let digits := natDigits d.digits
  let whole := digits.length + d.exponent
  if 0 ≤ d.exponent then String.ofList digits ++ zeros d.exponent.toNat
  else if 0 < whole then
    String.ofList (digits.take whole.toNat) ++ "." ++ String.ofList (digits.drop whole.toNat)
  else "0." ++ zeros (-whole).toNat ++ String.ofList digits

def scientific (d : ShortDecimal) : String :=
  let mantissa :=
    match natDigits d.digits with
    | [] => ""
    | [digit] => String.singleton digit
    | digit :: more => String.singleton digit ++ "." ++ String.ofList more
  mantissa ++ "e" ++ (if d.leading < 0 then "" else "+") ++ intText d.leading

end ShortDecimal

namespace Double

def signText (negative : Bool) : String :=
  if negative then "-" else ""

/-- The fewest digits that read back, in positions whatever their number. -/
def plainText : Double → String
  | .nan => "NaN"
  | .infinite negative => signText negative ++ "inf"
  | .finite negative exponent fraction =>
    signText negative ++
      (if significand exponent fraction = 0 then "0" else (shortest .upper exponent fraction).positional)

/-- An integral number with all its digits, and one zero after the point. -/
def integralText : Double → String
  | .finite negative exponent fraction =>
    let (num, den) := quotient exponent fraction
    signText negative ++ String.ofList (natDigits (num / den)) ++ ".0"
  | x => x.plainText

/-- The text of a number that serves as an identifier: positional while the first digit stands between the fifth
place after the point and the sixteenth before it, with `.0` after an integer; scientific otherwise. -/
def identifierText : Double → String
  | .finite negative exponent fraction =>
    signText negative ++
      (if significand exponent fraction = 0 then "0.0"
      else
        let d := shortest .even exponent fraction
        if -5 ≤ d.leading ∧ d.leading ≤ 15 then
          if 0 ≤ d.exponent then d.positional ++ ".0" else d.positional
        else d.scientific)
  | x => x.plainText

end Double

end WidgetSource
