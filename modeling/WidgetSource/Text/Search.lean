namespace WidgetSource.Text

/-- The pieces of a text around the occurrences of a pattern, after `skip` characters of an occurrence in
progress. -/
def splitFrom (pattern : List Char) : Nat → List Char → List (List Char)
  | _, [] => [[]]
  | skip + 1, _ :: rest => splitFrom pattern skip rest
  | 0, c :: rest =>
    if pattern.isPrefixOf (c :: rest) then [] :: splitFrom pattern (pattern.length - 1) rest
    else
      match splitFrom pattern 0 rest with
      | [] => [[c]]
      | piece :: pieces => (c :: piece) :: pieces

def splitAround (pattern text : List Char) : List (List Char) :=
  splitFrom pattern 0 text

def occurrences (pattern text : List Char) : Nat :=
  (splitAround pattern text).length - 1

def replaceAll (pattern replacement text : List Char) : List Char :=
  replacement.intercalate (splitAround pattern text)

def afterPrefix? (start text : List Char) : Option (List Char) :=
  if start.isPrefixOf text then some (text.drop start.length) else none

def beginsWith (start text : String) : Bool :=
  start.toList.isPrefixOf text.toList

def endsWith (ending text : String) : Bool :=
  ending.toList.isSuffixOf text.toList

end WidgetSource.Text
