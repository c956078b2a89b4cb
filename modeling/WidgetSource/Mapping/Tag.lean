import WidgetSource.Json.Document
import WidgetSource.Text.Search
import WidgetSource.Text.Space

/-!
# Tags

What stands between double braces in a template. A tag shows a value or calls a helper, opens or closes a block, is a
comment, or keeps text as it is. Helpers are given values by reference, as literals, or from calls of their own.
Partials and decorators are not known here: a tag that asks for one cannot be filled in.
-/
namespace WidgetSource.Template

/-- What was read at the front of a text, and the rest of the text, which is shorter. -/
structure Scan (α : Type) (cs : List Char) where
  found : α
  rest : List Char
  shorter : rest.length < cs.length

/-- A reader that took nothing from the text has read nothing. -/
def Scan.of? {α : Type} {cs : List Char} : Option (α × List Char) → Option (Scan α cs)
  | some (found, rest) => if shorter : rest.length < cs.length then some ⟨found, rest, shorter⟩ else none
  | none => none

def isTagSpace (c : Char) : Bool :=
  c == ' ' || c == '\t' || c == '\n' || c == '\r'

def isNameChar (c : Char) : Bool :=
  ('a' ≤ c && c ≤ 'z') || ('A' ≤ c && c ≤ 'Z') || ('0' ≤ c && c ≤ '9') || c == '_' || c == '-' || '\x80' ≤ c

def splitAtFirst (pattern : List Char) : List Char → Option (List Char × List Char)
  | [] => none
  | c :: rest =>
    if pattern.isPrefixOf (c :: rest) then some ([], (c :: rest).drop pattern.length)
    else (splitAtFirst pattern rest).map fun (before, after) => (c :: before, after)

/-- Names to follow from a value: the current one, one that is some levels further out, or all the data. A local one is
the value that a block gives to its first name. -/
structure Reference where
  word : String
  isLocal : Bool := false
  fromRoot : Bool := false
  levels : Nat := 0
  names : List String

def isStep (c : Char) : Bool := c == '.' || c == '/'

/-- The characters of a reference at the front of a text; between brackets it may have any. -/
def referenceWord (bracketed : Bool) : List Char → List Char × List Char
  | [] => ([], [])
  | c :: rest =>
    if bracketed || isNameChar c || isStep c || c == '@' || c == '[' then
      let (word, after) := referenceWord (if bracketed then c != ']' else c == '[') rest
      (c :: word, after)
    else ([], c :: rest)

/-- The parts of a word between its points and slashes, apart from those between brackets. -/
def wordParts (bracketed : Bool) : List Char → List (List Char)
  | [] => [[]]
  | c :: rest =>
    match wordParts (if bracketed then c != ']' else c == '[') rest with
    | [] => [[c]]
    | part :: parts => if isStep c && !bracketed then [] :: part :: parts else (c :: part) :: parts

def partName? (part : List Char) : Option String :=
  match part with
  | '[' :: inside => if inside.getLast? = some ']' then some (String.ofList inside.dropLast) else none
  | _ => if !part.isEmpty && part.all isNameChar then some (String.ofList part) else none

def afterCurrent : List Char → List Char
  | 't' :: 'h' :: 'i' :: 's' :: c :: rest => if isStep c then rest else 't' :: 'h' :: 'i' :: 's' :: c :: rest
  | '.' :: '/' :: rest => rest
  | word => word

def afterRoot : List Char → Bool × List Char
  | '@' :: 'r' :: 'o' :: 'o' :: 't' :: c :: rest =>
    if isStep c then (true, rest) else (false, '@' :: 'r' :: 'o' :: 'o' :: 't' :: c :: rest)
  | word => (false, word)

def afterLevels : List Char → Nat × List Char
  | '.' :: '.' :: c :: rest =>
    if isStep c then
      let (levels, body) := afterLevels rest
      (levels + 1, body)
    else (0, '.' :: '.' :: c :: rest)
  | word => (0, word)

def referenceOf? (word : List Char) : Option Reference := do
  let (fromRoot, body) := afterRoot (afterCurrent word)
  let (isLocal, body) := match body with
    | '@' :: body => (true, body)
    | body => (false, body)
  let (levels, body) := afterLevels body
  let names ← (wordParts false body).mapM partName?
  some { word := String.ofList word, isLocal, fromRoot, levels, names := names.filter (· != "this") }

def scanReference? (cs : List Char) : Option (Reference × List Char) :=
  let (word, rest) := referenceWord false cs
  (referenceOf? word).map fun reference => (reference, rest)

def scanName? (cs : List Char) : Option (String × List Char) :=
  let name := cs.takeWhile isNameChar
  if name.isEmpty then none else some (String.ofList name, cs.dropWhile isNameChar)

/-- The text up to a closing quote, with its escapes read. -/
def scanQuoted (quote : Char) : List Char → Option (List Char × List Char)
  | [] => none
  | '\\' :: 'u' :: a :: b :: c :: d :: rest =>
    match Json.hexUnit? a b c d, scanQuoted quote rest with
    | some n, some (text, rest) =>
      if Json.isHighSurrogate n || Json.isLowSurrogate n then none else some (Char.ofNat n :: text, rest)
    | _, _ => none
  | '\\' :: c :: rest =>
    let char? := if c = quote then some c else if c = '"' then none else Json.escaped? c
    match char?, scanQuoted quote rest with
    | some char, some (text, rest) => some (char :: text, rest)
    | _, _ => none
  | c :: rest =>
    if c = quote then some ([], rest) else (scanQuoted quote rest).map fun (text, rest) => (c :: text, rest)

/-- The text up to the bracket that closes the first one, behind `depth` open ones. -/
def scanBracketed (depth : Nat) (quoted : Bool) : List Char → Option (List Char × List Char)
  | [] => none
  | '\\' :: c :: rest => (scanBracketed depth quoted rest).map fun (text, rest) => ('\\' :: c :: text, rest)
  | c :: rest =>
    if quoted || c == '"' then
      (scanBracketed depth (quoted != (c == '"')) rest).map fun (text, rest) => (c :: text, rest)
    else if c == ']' || c == '\x7d' then
      if depth ≤ 1 then some ([c], rest)
      else (scanBracketed (depth - 1) false rest).map fun (text, rest) => (c :: text, rest)
    else
      (scanBracketed (if c == '[' || c == '\x7b' then depth + 1 else depth) false rest).map
        fun (text, rest) => (c :: text, rest)

def documentOf? (text : List Char) : Option Json.Document :=
  (Json.Document.ofText Json.depthLimit (String.ofList text)).toOption

def isNumeralChar (c : Char) : Bool := isDigit c || c == '-' || c == '.' || c == 'e' || c == 'E'

def scanLiteral? (cs : List Char) : Option (Json.Document × List Char) :=
  match cs with
  | '"' :: rest => (scanQuoted '"' rest).map fun (text, rest) => (.text (String.ofList text), rest)
  | '\'' :: rest => (scanQuoted '\'' rest).map fun (text, rest) => (.text (String.ofList text), rest)
  | '[' :: _ | '\x7b' :: _ => do
    let (text, rest) ← scanBracketed 0 false cs
    some (← documentOf? text, rest)
  | _ =>
    match String.ofList (cs.takeWhile isNameChar) with
    | "null" => some (.null, cs.dropWhile isNameChar)
    | "true" => some (.bool true, cs.dropWhile isNameChar)
    | "false" => some (.bool false, cs.dropWhile isNameChar)
    | _ =>
      let rest := cs.dropWhile isNumeralChar
      if (cs.takeWhile isNumeralChar).isEmpty || rest.head?.any isNameChar then none
      else (documentOf? (cs.takeWhile isNumeralChar)).map (·, rest)

inductive Argument
  | reference (target : Reference)
  | literal (value : Json.Document)
  | call (helper : String) (args : List Argument) (named : List (String × Argument))

/-- A call between two of its inputs; `key` is the name for the next one. -/
structure OpenCall where
  helper : String
  args : List Argument := []
  named : Fields Argument := []
  key : Option String := none

namespace OpenCall

def add (arg : Argument) (call : OpenCall) : OpenCall :=
  match call.key with
  | some key => { call with named := Fields.set key arg call.named, key := none }
  | none => { call with args := call.args ++ [arg] }

def close (call : OpenCall) : Argument :=
  .call call.helper call.args call.named

end OpenCall

inductive Input
  | key (name : String)
  | value (arg : Argument)
  | opens (helper : String)
  | closes

def keywords : List String := ["as", "else"]

def scanKey? (cs : List Char) : Option (String × List Char) := do
  let (name, rest) ← scanName? cs
  match rest.dropWhile isTagSpace with
  | '=' :: rest => some (name, rest)
  | _ => none

def scanInput? (cs : List Char) : Option (Input × List Char) :=
  match cs with
  | '(' :: rest => (scanReference? (rest.dropWhile isTagSpace)).map fun (name, rest) => (.opens name.word, rest)
  | ')' :: rest => some (.closes, rest)
  | _ =>
    match scanKey? cs with
    | some (name, rest) => some (.key name, rest)
    | none =>
      if keywords.contains (String.ofList (cs.takeWhile isNameChar)) then none
      else
        match scanLiteral? cs with
        | some (value, rest) => some (.value (.literal value), rest)
        | none => (scanReference? cs).map fun (reference, rest) => (.value (.reference reference), rest)

/-- Reads the inputs of a call inside the calls `outer`, innermost first, up to what is no input. -/
def scanInputs (call : OpenCall) (outer : List OpenCall) (cs : List Char) : Option (OpenCall × List Char) :=
  let body := cs.dropWhile isTagSpace
  match (Scan.of? (scanInput? body) : Option (Scan Input body)) with
  | some ⟨.key name, rest, _⟩ => if call.key.isSome then none else scanInputs { call with key := some name } outer rest
  | some ⟨.value arg, rest, _⟩ => scanInputs (call.add arg) outer rest
  | some ⟨.opens helper, rest, _⟩ => scanInputs { helper } (call :: outer) rest
  | some ⟨.closes, rest, _⟩ =>
    match outer with
    | parent :: outer => if call.key.isSome then none else scanInputs (parent.add call.close) outer rest
    | [] => none
  | none => if outer.isEmpty && call.key.isNone then some (call, body) else none
termination_by cs.length
decreasing_by
  all_goals
    have : body.length ≤ cs.length := (List.dropWhile_suffix isTagSpace).length_le
    omega

/-- What is shown: what a call gives that has inputs or parentheses, or what a reference leads to. -/
def scanShown? (cs : List Char) : Option (Argument × List Char) :=
  match cs with
  | '(' :: _ =>
    match scanInputs { helper := "" } [] cs with
    | some (⟨_, [arg], [], _⟩, rest) => some (arg, rest)
    | _ => none
  | _ =>
    match (scanName? cs).bind fun (helper, rest) => scanInputs { helper } [] rest with
    | some (⟨helper, arg :: args, named, _⟩, rest) => some (.call helper (arg :: args) named, rest)
    | some (⟨helper, [], field :: named, _⟩, rest) => some (.call helper [] (field :: named), rest)
    | _ => (scanReference? cs).map fun (reference, rest) => (.reference reference, rest)

/-- The names that a block gives to its values: none, one or two between bars. -/
def scanBlockNames? (cs : List Char) : Option (List String × List Char) :=
  match cs.dropWhile isTagSpace with
  | 'a' :: 's' :: rest =>
    match rest.dropWhile isTagSpace with
    | '|' :: rest => do
      let (first, rest) ← scanName? (rest.dropWhile isTagSpace)
      match rest.dropWhile isTagSpace with
      | '|' :: rest => some ([first], rest)
      | rest => do
        let (second, rest) ← scanName? rest
        match rest.dropWhile isTagSpace with
        | '|' :: rest => some ([first, second], rest)
        | _ => none
    | _ => some ([], cs)
  | _ => some ([], cs)

/-- What a tag says. A failure is a tag that cannot be filled in. -/
inductive Tag
  | comment
  | shows (arg : Argument)
  | opens (call : OpenCall) (names : List String)
  | otherwise
  | closes (helper : String)
  | raw (call : OpenCall) (names : List String) (text : List Char)
  | failure

/-- A tag, and whether it takes the white space before or after it. -/
structure MarkedTag where
  tag : Tag
  trimsBefore : Bool := false
  trimsAfter : Bool := false

def tagClose : List Char := ['\x7d', '\x7d']

def frontMark (cs : List Char) : Bool × List Char :=
  match cs.dropWhile isTagSpace with
  | '~' :: rest => (true, rest.dropWhile isTagSpace)
  | rest => (false, rest)

def scanClose? (braces cs : List Char) : Option (Bool × List Char) :=
  let (trimsAfter, rest) := frontMark cs
  (Text.afterPrefix? braces rest).map (trimsAfter, ·)

def closed? (trimsBefore : Bool) (braces : List Char) (tag : Tag) (cs : List Char) : Option (MarkedTag × List Char) :=
  (scanClose? braces cs).map fun (trimsAfter, rest) => (⟨tag, trimsBefore, trimsAfter⟩, rest)

def scanOpening? (braces cs : List Char) : Option (OpenCall × List String × Bool × List Char) := do
  let (helper, rest) ← scanName? (cs.dropWhile isTagSpace)
  let (call, rest) ← scanInputs { helper } [] rest
  let (names, rest) ← scanBlockNames? rest
  let (trimsAfter, rest) ← scanClose? braces rest
  some (call, names, trimsAfter, rest)

/-- A value between three braces; the third ones may stand apart from the others. -/
def scanBraced? (trimsBefore : Bool) (cs : List Char) : Option (MarkedTag × List Char) := do
  let (inner, body) := frontMark cs
  let (arg, rest) ← scanShown? body
  let trims := trimsBefore || inner
  let together := closed? trims ('\x7d' :: tagClose) (.shows arg) rest
  together.or (match rest.dropWhile isTagSpace with
    | '\x7d' :: rest => closed? trims tagClose (.shows arg) rest
    | _ => none)

/-- The text up to four braces, in which tags have no meaning; `slashes` backslashes stand right before. -/
def scanRaw (slashes : Nat) : List Char → List Char × List Char
  | [] => (List.replicate slashes '\\', [])
  | '\x7b' :: '\x7b' :: rest =>
    let front := List.replicate (slashes - 1) '\\'
    match slashes, rest with
    | 1, '\x7b' :: '\x7b' :: rest =>
      let (text, after) := scanRaw 0 rest
      (['\x7b', '\x7b', '\x7b', '\x7b'] ++ text, after)
    | _, '\x7b' :: '\x7b' :: rest => (front, ['\x7b', '\x7b', '\x7b', '\x7b'] ++ rest)
    | _, rest =>
      let (text, after) := scanRaw 0 rest
      (front ++ ['\x7b', '\x7b'] ++ text, after)
  | '\\' :: rest => scanRaw (slashes + 1) rest
  | c :: rest =>
    let (text, after) := scanRaw 0 rest
    (List.replicate slashes '\\' ++ c :: text, after)

/-- A block between tags with four braces, from behind the first ones. -/
def scanRawBlock? (cs : List Char) : Option (MarkedTag × List Char) := do
  let braces := tagClose ++ tagClose
  let (trimsBefore, body) := frontMark cs
  let (call, names, trimsStart, rest) ← scanOpening? braces body
  let (text, rest) := scanRaw 0 rest
  let rest ← Text.afterPrefix? ['\x7b', '\x7b', '\x7b', '\x7b'] rest
  let (trimsEnd, rest) := frontMark rest
  let rest ← Text.afterPrefix? ['/'] rest
  let (helper, rest) ← scanName? (rest.dropWhile isTagSpace)
  let text := if trimsStart then text.dropWhile Text.isSpace else text
  let text := if trimsEnd then Text.dropEndWhile Text.isSpace text else text
  if helper = call.helper then closed? trimsBefore braces (.raw call names text) rest else none

def scanComment? (cs : List Char) : Option (MarkedTag × List Char) :=
  let long := ['!', '-', '-'].isPrefixOf cs
  let found := if long then splitAtFirst (['-', '-'] ++ tagClose) (cs.drop 3) else none
  (found.or (splitAtFirst tagClose cs)).map fun (_, rest) => (⟨.comment, false, false⟩, rest)

def scanWordTag? (trimsBefore : Bool) (body : List Char) : Option (MarkedTag × List Char) :=
  let inverts :=
    if String.ofList (body.takeWhile isNameChar) = "else" then
      closed? trimsBefore tagClose .otherwise (body.dropWhile isNameChar)
    else none
  inverts.or do
    let (arg, rest) ← scanShown? body
    closed? trimsBefore tagClose (.shows arg) rest

/-- The tag at the front of a text from behind its opening braces. -/
def readTag? (cs : List Char) : Option (MarkedTag × List Char) :=
  match cs with
  | '!' :: _ => scanComment? cs
  | _ =>
    let (trimsBefore, body) := frontMark cs
    match body with
    | '#' :: rest => do
      let (call, names, trimsAfter, rest) ← scanOpening? tagClose rest
      some (⟨.opens call names, trimsBefore, trimsAfter⟩, rest)
    | '/' :: rest => do
      let (helper, rest) ← scanName? (rest.dropWhile isTagSpace)
      closed? trimsBefore tagClose (.closes helper) rest
    | '^' :: rest => closed? trimsBefore tagClose .otherwise rest
    | '>' :: rest | '*' :: rest => do
      let (named, rest) ← splitAtFirst tagClose rest
      if named.all isTagSpace then none else some (⟨.failure, trimsBefore, false⟩, rest)
    | '&' :: rest => do
      let (reference, rest) ← scanReference? (rest.dropWhile isTagSpace)
      closed? trimsBefore tagClose (.shows (.reference reference)) rest
    | '\x7b' :: rest =>
      match trimsBefore, rest with
      | false, '\x7b' :: rest => scanRawBlock? rest
      | _, _ => scanBraced? trimsBefore rest
    | _ => scanWordTag? trimsBefore body

def scanTag? (cs : List Char) : Option (Scan MarkedTag cs) :=
  Scan.of? (readTag? cs)

end WidgetSource.Template
