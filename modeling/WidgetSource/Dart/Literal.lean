import WidgetSource.Number.Notation
import WidgetSource.Widget.Value

namespace WidgetSource.Dart

/-- A double literal; integral values keep `.0`. -/
def doubleLiteral (x : Double) : String :=
  match x with
  | .nan => "double.nan"
  | .infinite false => "double.infinity"
  | .infinite true => "double.negativeInfinity"
  | x => if x.isIntegral then x.integralText else x.plainText

def integerBound : Nat := 9000000000000000

/-- A number as it was written: an integral one without a fractional part. -/
def numberLiteral (x : Double) : String :=
  match x.truncate? with
  | some n => if x.isIntegral ∧ n.natAbs < integerBound then intText n else doubleLiteral x
  | none => doubleLiteral x

def numberOf? : Value → Option Double
  | .number x => some x
  | .text s => Double.ofText? (Text.trimChars s.toList)
  | _ => none

def doubleOf? (value : Value) : Option String :=
  (numberOf? value).map doubleLiteral

def clampInteger (n : Int) : Int :=
  max (-9223372036854775808) (min n 9223372036854775807)

def integerOf? (value : Value) : Option String :=
  ((numberOf? value).bind Double.round?).map fun n => intText (clampInteger n)

def dimensionOf? (value : Value) : Option String :=
  match value with
  | .text s =>
    let token := Text.trim s
    if Text.asciiLowerText token = "infinity" ∨ token = "double.infinity" then some "double.infinity"
    else doubleOf? value
  | _ => doubleOf? value

def boolText (b : Bool) : String :=
  if b then "true" else "false"

def boolOf? : Value → Option String
  | .bool b => some (boolText b)
  | .text s =>
    match Text.asciiLowerText s with
    | "true" => some "true"
    | "false" => some "false"
    | _ => none
  | _ => none

/-- The characters that a text literal escapes and what is written for each, in the order in which they are
exchanged: the backslash comes first, so that no escape is escaped again. -/
def escapes : List (Char × List Char) := [
  ('\\', ['\\', '\\']), ('\'', ['\\', '\'']), ('$', ['\\', '$']), ('\n', ['\\', 'n']), ('\r', ['\\', 'r']),
  ('\t', ['\\', 't'])]

def exchange (c : Char) (replacement cs : List Char) : List Char :=
  cs.flatMap fun d => if d = c then replacement else [d]

def escapeText (cs : List Char) : List Char :=
  escapes.foldl (fun cs (c, replacement) => exchange c replacement cs) cs

def textLiteral (s : String) : String :=
  "'" ++ String.ofList (escapeText s.toList) ++ "'"

/-- A single value as a text; nothing set and values with parts give the empty text. -/
def textOf : Value → String
  | .text s => if s = "null" then textLiteral "" else textLiteral s
  | .number x => textLiteral (numberLiteral x)
  | .bool b => textLiteral (boolText b)
  | _ => textLiteral ""

end WidgetSource.Dart
