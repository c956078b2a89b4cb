namespace WidgetSource.Text

/-- The lines of a text, with the line in progress first; `[]` after the last line break. -/
def linesOf : List Char → List (List Char)
  | [] => []
  | '\n' :: rest => [] :: linesOf rest
  | '\r' :: '\n' :: rest => [] :: linesOf rest
  | c :: rest =>
    match linesOf rest with
    | [] => [[c]]
    | line :: lines => (c :: line) :: lines

def lines (s : String) : List String :=
  (linesOf s.toList).map String.ofList

/-- How many lines a text takes; each line feed begins another one. -/
def lineCount (s : String) : Nat :=
  s.toList.count '\n' + 1

end WidgetSource.Text
