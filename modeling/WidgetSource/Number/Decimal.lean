import WidgetSource.Number.Double
import WidgetSource.Text.Space
import WidgetSource.Text.Case

namespace WidgetSource

def isDigit (c : Char) : Bool :=
  '0' ≤ c && c ≤ '9'

def natOfDigits (cs : List Char) : Nat :=
  cs.foldl (fun n c => 10 * n + (c.toNat - '0'.toNat)) 0

def natDigits (n : Nat) : List Char :=
  Nat.toDigits 10 n

def intText (n : Int) : String :=
  if n < 0 then "-" ++ String.ofList (natDigits n.natAbs) else String.ofList (natDigits n.natAbs)

def signed : List Char → Bool × List Char
  | '-' :: rest => (true, rest)
  | '+' :: rest => (false, rest)
  | cs => (false, cs)

def exponentOf? : List Char → Option Int
  | [] => some 0
  | c :: rest =>
    if c = 'e' ∨ c = 'E' then
      let (negative, digits) := signed rest
      if digits.isEmpty || !digits.all isDigit then none
      else some (Double.withSign negative (natOfDigits digits))
    else none

/-- Digits with an optional point, at least one digit in all, and an optional exponent. -/
def decimalOf? (negative : Bool) (cs : List Char) : Option Double :=
  let whole := cs.takeWhile isDigit
  let rest := cs.dropWhile isDigit
  let (fraction, rest) :=
    match rest with
    | '.' :: after => (after.takeWhile isDigit, after.dropWhile isDigit)
    | _ => ([], rest)
  if whole.isEmpty && fraction.isEmpty then none
  else (exponentOf? rest).map fun exponent =>
    Double.ofDecimal negative (natOfDigits (whole ++ fraction)) (exponent - fraction.length)

/-- The number that a numeral stands for. Names of special values are read in any letter case. -/
def Double.ofText? (cs : List Char) : Option Double :=
  let (negative, body) := signed cs
  match String.ofList (body.map Text.asciiLower) with
  | "inf" | "infinity" => some (.infinite negative)
  | "nan" => some .nan
  | _ => decimalOf? negative body

end WidgetSource
