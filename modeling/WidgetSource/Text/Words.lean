import WidgetSource.Text.Cluster
import WidgetSource.Text.Space

namespace WidgetSource.Text

def isSeparator (cluster : List Char) : Bool :=
  cluster == ['-'] || cluster == ['_'] || cluster == [' ']

def hasCase (cluster : List Char) : Bool :=
  upperChars cluster != lowerChars cluster

def isUpper (cluster : List Char) : Bool :=
  hasCase cluster && cluster == upperChars cluster

def isLower (cluster : List Char) : Bool :=
  hasCase cluster && cluster == lowerChars cluster

def isDigits (cluster : List Char) : Bool :=
  cluster.all fun c => '0' ≤ c && c ≤ '9'

/-- Whether a word begins with the second cluster: case rises, letters and digits meet, or the last capital of a
row of capitals starts a word in lower case. -/
def startsWord (before here : List Char) (after : Option (List Char)) : Bool :=
  (isLower before && isUpper here) || (isUpper before && isDigits here) || (isDigits before && isUpper here) ||
    (isDigits before && isLower here) || (isLower before && isDigits here) ||
    (isUpper before && isUpper here && after.any isLower)

/-- The rest of the word in progress after a cluster, and the words that follow. -/
def wordsAfter (before : List Char) : List (List Char) → List Char × List (List Char)
  | [] => ([], [])
  | here :: rest =>
    let (head, tail) := wordsAfter here rest
    if isSeparator here then ([], head :: tail)
    else if startsWord before here rest.head? then ([], (here ++ head) :: tail)
    else (here ++ head, tail)

def words (cs : List Char) : List (List Char) :=
  let (head, tail) := wordsAfter [] (clusters cs)
  (head :: tail).filter (!·.isEmpty)

def flatCase (cs : List Char) : List Char :=
  (words cs).flatMap lowerChars

def snakeCase (cs : List Char) : List Char :=
  ['_'].intercalate ((words cs).map lowerChars)

def capitalized : List Char → List Char
  | [] => []
  | c :: rest => upperChar c ++ lowerChars rest

def camelCase (cs : List Char) : List Char :=
  match words cs with
  | [] => []
  | first :: others => lowerChars first ++ others.flatMap capitalized

end WidgetSource.Text
