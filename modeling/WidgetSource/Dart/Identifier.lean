import WidgetSource.Number.Decimal
import WidgetSource.Text.Words

namespace WidgetSource.Dart

def isAsciiLetter (c : Char) : Bool :=
  ('a' ≤ c && c ≤ 'z') || ('A' ≤ c && c ≤ 'Z')

def beginsIdentifier (c : Char) : Bool :=
  isAsciiLetter c || c == '_' || c == '$'

def continuesIdentifier (c : Char) : Bool :=
  beginsIdentifier c || isDigit c

def isIdentifier (s : String) : Bool :=
  match s.toList with
  | [] => false
  | c :: rest => beginsIdentifier c && rest.all continuesIdentifier

def isWordChar (c : Char) : Bool :=
  isAsciiLetter c || isDigit c || c == '_'

/-- An identifier from free text: its words in camel case, without characters that identifiers do not have. The
stem goes in front if nothing is left or a digit would come first. -/
def identifierOf (source stem : String) : String :=
  match (Text.camelCase source.toList).filter isWordChar with
  | [] => stem
  | c :: rest => if isDigit c then stem ++ String.ofList (c :: rest) else String.ofList (c :: rest)

end WidgetSource.Dart
