import WidgetSource.Mapping.Tag

namespace WidgetSource.Template

/-- A value with the names that a block gives to its values, and with the local values of a loop. -/
structure Frame where
  value : Json.Document
  names : Fields Json.Document := []
  locals : Fields Json.Document := []

/-- All the data, and the values around a place of a template, innermost first. -/
structure Scope where
  root : Json.Document
  frames : List Frame

/-- The value at the end of some names; nothing there counts as null. Into a list there are only numbers. -/
def follow? (value : Json.Document) : List String → Option Json.Document
  | [] => some value
  | name :: path =>
    match value with
    | .list items =>
      let index := natOfDigits name.toList
      if name != "" && name.toList.all isDigit && index < Json.wordCount then follow? (items[index]?.getD .null) path
      else none
    | value => follow? ((value.field? name).getD .null) path

namespace Scope

def start (root : Json.Document) : Scope := ⟨root, [{ value := root }]⟩

def enter (frame : Frame) (scope : Scope) : Scope := { scope with frames := frame :: scope.frames }

/-- The value some levels further out; with no such level the current one. -/
def valueAt (levels : Nat) (scope : Scope) : Json.Document :=
  match scope.frames[levels]?.or scope.frames.head? with
  | some frame => frame.value
  | none => scope.root

def named? (name : String) (scope : Scope) : Option Json.Document :=
  scope.frames.findSome? fun frame => Fields.get? name frame.names

def local? (levels : Nat) (name : String) (scope : Scope) : Option Json.Document :=
  scope.frames[levels]?.bind fun frame => Fields.get? name frame.locals

def find? (scope : Scope) (reference : Reference) : Option Json.Document :=
  match reference.names with
  | [] => follow? (if reference.fromRoot then scope.root else scope.valueAt reference.levels) []
  | name :: path =>
    if reference.isLocal then some ((scope.local? reference.levels name).getD .null)
    else if reference.fromRoot then follow? scope.root (name :: path)
    else
      match if reference.levels = 0 then scope.named? name else none with
      | some value => follow? value path
      | none => follow? (scope.valueAt reference.levels) (name :: path)

end Scope

mutual

def printed (value : Json.Document) : String :=
  match value with
  | .null => ""
  | .bool b => if b then "true" else "false"
  | .number n => n.print
  | .text s => s
  | .list items => "[" ++ ", ".intercalate (printedAll items) ++ "]"
  | .object _ => "[object]"

def printedAll : List Json.Document → List String
  | [] => []
  | item :: items => printed item :: printedAll items

end

/-- Whether a value chooses the first branch. Of the numbers all do if zero is included, else the normal ones do. -/
def holds (includesZero : Bool) : Json.Document → Bool
  | .null => false
  | .bool b => b
  | .number n =>
    match n.double with
    | .finite _ exponent _ => includesZero || exponent.val != 0
    | _ => includesZero
  | .text s => s != ""
  | .list items => !items.isEmpty
  | .object fields => !fields.isEmpty

mutual

def sameValue (value other : Json.Document) : Bool :=
  match value, other with
  | .null, .null => true
  | .bool b, .bool b' => b == b'
  | .number (.integer n), .number (.integer n') => n == n'
  | .number (.real x), .number (.real y) => x.same y
  | .text s, .text s' => s == s'
  | .list items, .list items' => sameItems items items'
  | .object fields, .object fields' => sameFields fields fields'
  | _, _ => false

def sameItems (items others : List Json.Document) : Bool :=
  match items, others with
  | [], [] => true
  | item :: items, other :: others => sameValue item other && sameItems items others
  | _, _ => false

def sameFields (fields others : List (String × Json.Document)) : Bool :=
  match fields, others with
  | [], [] => true
  | (name, value) :: fields, (name', value') :: others =>
    name == name' && sameValue value value' && sameFields fields others
  | _, _ => false

end

def helperNames : List String :=
  ["if", "unless", "each", "with", "lookup", "raw", "log", "eq", "ne", "gt", "gte", "lt", "lte", "and", "or", "not",
    "len"]

def logLevels : List String := ["error", "warn", "info", "debug", "trace"]

def lookUp (collection index : Json.Document) : Json.Document :=
  match collection, index with
  | .list items, .number (.integer n) => if 0 ≤ n then items[n.toNat]?.getD .null else .null
  | .object fields, .text name => (Fields.get? name fields).getD .null
  | _, _ => .null

def sizeOf : Json.Document → Nat
  | .list items => items.length
  | .object fields => fields.length
  | .text s => s.utf8ByteSize
  | _ => 0

/-- An integer of 64 bits with a sign. -/
def wordOf? : Json.Document → Option Int
  | .number (.integer n) => if 2 * n < Json.wordCount then some n else none
  | _ => none

def compared? (holds : Int → Int → Bool) (value other : Json.Document) : Option Json.Document := do
  some (.bool (holds (← wordOf? value) (← wordOf? other)))

/-- What a helper gives that has no block. Those that fill in their block then give the empty text. -/
def helperValue? (helper : String) (args : List Json.Document) (named : Fields Json.Document) : Option Json.Document :=
  match helper, args with
  | "if", _ :: _ | "unless", _ :: _ | "with", _ :: _ | "each", _ :: _ | "raw", _ => some (.text "")
  | "log", _ =>
    match Fields.get? "level" named with
    | some (.text level) => if logLevels.contains (Text.asciiLowerText level) then some (.text "") else none
    | _ => some (.text "")
  | "lookup", collection :: index :: _ => some (lookUp collection index)
  | "eq", value :: other :: _ => some (.bool (sameValue value other))
  | "ne", value :: other :: _ => some (.bool (!sameValue value other))
  | "gt", value :: other :: _ => compared? (fun n m => m < n) value other
  | "gte", value :: other :: _ => compared? (fun n m => m ≤ n) value other
  | "lt", value :: other :: _ => compared? (fun n m => n < m) value other
  | "lte", value :: other :: _ => compared? (fun n m => n ≤ m) value other
  | "and", value :: other :: _ => some (.bool (holds false value && holds false other))
  | "or", value :: other :: _ => some (.bool (holds false value || holds false other))
  | "not", value :: _ => some (.bool (!holds false value))
  | "len", value :: _ => some (.number (.integer (sizeOf value)))
  | _, _ => none

mutual

def Argument.value? (scope : Scope) : Argument → Option Json.Document
  | .reference target => scope.find? target
  | .literal value => some value
  | .call helper args named => do helperValue? helper (← argumentValues? scope args) (← fieldValues? scope named)

def argumentValues? (scope : Scope) : List Argument → Option (List Json.Document)
  | [] => some []
  | arg :: args => do some ((← arg.value? scope) :: (← argumentValues? scope args))

def fieldValues? (scope : Scope) : List (String × Argument) → Option (Fields Json.Document)
  | [] => some []
  | (name, arg) :: fields => do some ((name, ← arg.value? scope) :: (← fieldValues? scope fields))

end

/-- The text of a tag that shows an argument. A helper may be called by its name alone. -/
def Argument.shown? (scope : Scope) (arg : Argument) : Option (List Char) := do
  let value ← match arg with
    | .reference target =>
      if helperNames.contains target.word then helperValue? target.word [] [] else scope.find? target
    | arg => arg.value? scope
  some (printed value).toList

/-- A turn of a loop over some values, given by their places or names. -/
def turn (names : List String) (last : Nat) (keyName : String) (index : Nat) (key value : Json.Document) : Frame where
  value := value
  names := names.zip [value, key]
  locals := [("first", .bool (index == 0)), ("last", .bool (index == last)), (keyName, key)]

def turns (names : List String) : Json.Document → List Frame
  | .list items => items.zipIdx.map fun (item, index) =>
    turn names (items.length - 1) "index" index (.number (.integer index)) item
  | .object fields => fields.zipIdx.map fun ((name, value), index) =>
    turn names (fields.length - 1) "key" index (.text name) value
  | _ => []

/-- The text of a block from those of its two branches. -/
def blockText? (scope : Scope) (helper : String) (args : List Json.Document) (named : Fields Json.Document)
    (names : List String) (body otherwise : Scope → Option (List Char)) : Option (List Char) :=
  let includesZero := ((Fields.get? "includeZero" named).bind Json.Document.bool?).getD false
  match helper, args with
  | "if", value :: _ => if holds includesZero value then body scope else otherwise scope
  | "unless", value :: _ => if holds includesZero value then otherwise scope else body scope
  | "with", value :: _ =>
    if holds false value then
      body (scope.enter { value, names := if names.length = 1 then names.zip [value] else [] })
    else otherwise scope
  | "each", value :: _ =>
    match turns names value with
    | [] => otherwise scope
    | frames => (frames.mapM fun frame => body (scope.enter frame)).map List.flatten
  | "raw", _ => body scope
  | helper, args => (helperValue? helper args named).map fun value => (printed value).toList

end WidgetSource.Template
