import WidgetSource.Dart.Literal
import WidgetSource.Text.Search

namespace WidgetSource.Dart

def fallbackColor : String := "const Color(0xFF000000)"

def palette : List (String × String) := [
  ("white", "Colors.white"), ("black", "Colors.black"), ("red", "Colors.red"), ("blue", "Colors.blue"),
  ("green", "Colors.green"), ("yellow", "Colors.yellow"), ("orange", "Colors.orange"), ("purple", "Colors.purple"),
  ("pink", "Colors.pink"), ("grey", "Colors.grey"), ("gray", "Colors.grey"), ("transparent", "Colors.transparent")]

def packedColor (digits : List Char) : String :=
  "const Color(0x" ++ String.ofList digits ++ ")"

def isHexDigit (c : Char) : Bool :=
  isDigit c || ('a' ≤ c && c ≤ 'f') || ('A' ≤ c && c ≤ 'F')

def asciiUpper (c : Char) : Char :=
  if 'a' ≤ c ∧ c ≤ 'z' then Char.ofNat (c.toNat - 32) else c

/-- The eight digits of a color given by three, six or eight; an opacity that is not given is full. -/
def expandHex (cs : List Char) : Option (List Char) :=
  if !cs.all isHexDigit then none
  else
    match cs.map asciiUpper with
    | [r, g, b] => some ['F', 'F', r, r, g, g, b, b]
    | [a, b, c, d, e, f] => some ['F', 'F', a, b, c, d, e, f]
    | [a, b, c, d, e, f, g, h] => some [a, b, c, d, e, f, g, h]
    | _ => none

def scanChannel (cs : List Char) : Option (Nat × List Char) :=
  let body := cs.dropWhile Text.isSpace
  let digits := body.takeWhile isDigit
  let n := natOfDigits digits
  if digits.isEmpty || 3 < digits.length || 255 < n then none
  else some (n, (body.dropWhile isDigit).dropWhile Text.isSpace)

/-- The opacity after the channels, with space around it: digits with an optional point that has one after it. -/
def scanOpacity (cs : List Char) : Option (Double × List Char) :=
  let body := cs.dropWhile Text.isSpace
  let whole := body.takeWhile isDigit
  let rest := body.dropWhile isDigit
  let (fraction, rest) :=
    match rest with
    | '.' :: after => (after.takeWhile isDigit, after.dropWhile isDigit)
    | _ => (whole, rest)
  if fraction.isEmpty then none
  else
    let numeral := body.take (body.length - rest.length)
    (Double.ofText? numeral).map fun x => (x, rest.dropWhile Text.isSpace)

def clampOpacity (x : Double) : Double :=
  let one := Double.ofInt 1
  if one.less x then one else x

def scanComma : List Char → Option (List Char)
  | ',' :: rest => some rest
  | _ => none

/-- A color given by its red, green and blue channels and perhaps its opacity, between parentheses. -/
def channelColor? (token : List Char) : Option String := do
  let lower := token.map Text.asciiLower
  let rest ← (Text.afterPrefix? "rgba(".toList lower).or (Text.afterPrefix? "rgb(".toList lower)
  let (r, rest) ← scanChannel rest
  let (g, rest) ← scanChannel (← scanComma rest)
  let (b, rest) ← scanChannel (← scanComma rest)
  let (opacity, rest) ←
    match rest with
    | ',' :: rest => scanOpacity rest
    | _ => some (Double.ofInt 1, rest)
  if rest = [')'] then
    some ("const Color.fromRGBO(" ++
      ", ".intercalate ([r, g, b].map (fun n : Nat => intText n) ++ [doubleLiteral (clampOpacity opacity)]) ++ ")")
  else none

def colorOfToken? (s : String) : Option String :=
  match Text.trimChars s.toList with
  | [] => none
  | token =>
    let lower := String.ofList (token.map Text.asciiLower)
    if lower = "null" then none
    else
      match token with
      | '#' :: digits => some (((expandHex digits).map packedColor).getD fallbackColor)
      | _ => some (((channelColor? token).or (palette.lookup lower)).getD fallbackColor)

def packedDigits (n : Nat) : List Char :=
  let digits := (Nat.toDigits 16 n).map asciiUpper
  List.replicate (8 - digits.length) '0' ++ digits

def colorOf? : Value → Option String
  | .null => none
  | .text s => colorOfToken? s
  | .number x =>
    match x.truncate? with
    | some n =>
      if !x.less .zero && !(Double.ofInt 0xFFFFFFFF).less x then some (packedColor (packedDigits n.toNat))
      else some fallbackColor
    | none => some fallbackColor
  | _ => some fallbackColor

end WidgetSource.Dart
