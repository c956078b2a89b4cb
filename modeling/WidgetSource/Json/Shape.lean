import WidgetSource.Json.Document
import WidgetSource.Text.Quoted

namespace WidgetSource.Json

inductive Found
  | null
  | bool (b : Bool)
  | number (n : Numeral)
  | text (s : String)
  | list
  | object
  deriving Repr

def Found.describe : Found → String
  | .null => "null"
  | .bool b => "boolean `" ++ (if b then "true" else "false") ++ "`"
  | .number (.integer n) => "integer `" ++ intText n ++ "`"
  | .number (.real x) => "floating point `" ++ x.identifierText ++ "`"
  | .text s => "string " ++ Text.quoted s
  | .list => "sequence"
  | .object => "map"

inductive ShapeFault
  | invalidType (found : Found) (expected : String)
  | invalidValue (found : Found) (expected : String)
  | unknownVariant (name : String) (expected : List String)
  | missingField (name : String)
  | duplicateField (name : String)
  | invalidLength (count : Nat) (expected : String)
  deriving Repr

def ShapeFault.message : ShapeFault → String
  | .invalidType found expected => "invalid type: " ++ found.describe ++ ", expected " ++ expected
  | .invalidValue found expected => "invalid value: " ++ found.describe ++ ", expected " ++ expected
  | .unknownVariant name expected =>
    "unknown variant `" ++ name ++ "`, expected " ++ " or ".intercalate (expected.map fun e => "`" ++ e ++ "`")
  | .missingField name => "missing field `" ++ name ++ "`"
  | .duplicateField name => "duplicate field `" ++ name ++ "`"
  | .invalidLength count expected => "invalid length " ++ intText count ++ ", expected " ++ expected

inductive ReadError
  | text (cause : Cause)
  | shape (fault : ShapeFault)
  deriving Repr

def Draft.mismatch (expected : String) : Draft → ReadError
  | .scalar .null => .shape (.invalidType .null expected)
  | .scalar (.bool b) => .shape (.invalidType (.bool b) expected)
  | .scalar (.number n) => .shape (.invalidType (.number n) expected)
  | .scalar (.text s) => .shape (.invalidType (.text s) expected)
  | .scalar .refusedNumber | .scalar .refusedText => .text .malformed
  | .broken stop => .text stop.whenRead
  | .list .. => .shape (.invalidType .list expected)
  | .object .. => .shape (.invalidType .object expected)

abbrev Reader (α : Type) := Draft → Except ReadError α

namespace Reader

def bool : Reader Bool
  | .scalar (.bool b) => .ok b
  | draft => .error (draft.mismatch "a boolean")

def text : Reader String
  | .scalar (.text s) => .ok s
  | draft => .error (draft.mismatch "a string")

def size : Reader Nat
  | .scalar (.number (.integer (.ofNat n))) => .ok n
  | .scalar (.number (.integer n)) => .error (.shape (.invalidValue (.number (.integer n)) "usize"))
  | draft => .error (draft.mismatch "usize")

def unit : Reader Unit
  | .scalar .null => .ok ()
  | draft => .error (draft.mismatch "unit")

def closed : Option Stop → Except ReadError Unit
  | none => .ok ()
  | some stop => .error (.text stop.whenRead)

def key : Key → Except ReadError String
  | .text s => .ok s
  | .refused => .error (.text .malformed)
  | .broken stop => .error (.text stop.whenRead)

def list {α : Type} (item : Reader α) : Reader (List α)
  | .list items stop => do
    let values ← items.mapM item
    closed stop
    return values
  | draft => .error (draft.mismatch "a sequence")

/-- Named parts of one shape; a repeated name keeps its place and its last value. -/
def fields {α : Type} (value : Reader α) : Reader (Fields α)
  | .object fields stop => do
    let done ← fields.foldlM (fun done (k, d) => return Fields.set (← key k) (← value d) done) []
    closed stop
    return done
  | draft => .error (draft.mismatch "a map")

/-- One of several names: a text, or an object whose only field has the name and holds null. -/
def choice {α : Type} (options : List (String × α)) : Reader α
  | .scalar (.text s) => find s
  | .object ((k, value) :: more) stop => do
    let chosen ← find (← key k)
    unit value
    if more.isEmpty then closed stop else .error (.text .malformed)
    return chosen
  | .object [] (some stop) => .error (.text stop.whenRead)
  | .broken stop => .error (.text stop.whenRead)
  | _ => .error (.text .malformed)
where
  find (name : String) : Except ReadError α :=
    match options.lookup name with
    | some a => .ok a
    | none => .error (.shape (.unknownVariant name (options.map Prod.fst)))

end Reader

/-- A field of a record of type `ρ`: its name, whether it must be given, and how reading it changes the record. -/
structure Field (ρ : Type) where
  name : String
  required : Bool
  read : Reader (ρ → ρ)

namespace Field

variable {ρ α : Type}

def optional (name : String) (value : Reader α) (write : α → ρ → ρ) : Field ρ :=
  ⟨name, false, fun draft => (value draft).map write⟩

def mandatory (name : String) (value : Reader α) (write : α → ρ → ρ) : Field ρ :=
  ⟨name, true, fun draft => (value draft).map write⟩

def readObject (fields : List (Field ρ)) (stop : Option Stop) (seen : List String) (record : ρ) :
    List (Key × Draft) → Except ReadError ρ
  | [] => do
    Reader.closed stop
    match fields.find? fun f => f.required && !seen.contains f.name with
    | some f => .error (.shape (.missingField f.name))
    | none => .ok record
  | (k, value) :: rest => do
    let name ← Reader.key k
    match fields.find? fun f => f.name == name with
    | none =>
      match value.skip with
      | some cause => .error (.text cause)
      | none => readObject fields stop seen record rest
    | some f =>
      if seen.contains name then .error (.shape (.duplicateField name))
      else
        let change ← f.read value
        readObject fields stop (name :: seen) (change record) rest

/-- Reads the fields in order from a list; `count` are done. -/
def readList (expected : String) (stop : Option Stop) (count : Nat) (record : ρ) :
    List (Field ρ) → List Draft → Except ReadError ρ
  | [], [] => do
    Reader.closed stop
    return record
  | [], _ :: _ => .error (.text .malformed)
  | f :: fields, [] => do
    Reader.closed stop
    if f.required then .error (.shape (.invalidLength count expected))
    else readList expected stop (count + 1) record fields []
  | f :: fields, item :: items => do
    let change ← f.read item
    readList expected stop (count + 1) (change record) fields items

end Field

/-- Reads a record, starting from the values of fields that are not given. -/
def Reader.record {ρ : Type} (name : String) (fields : List (Field ρ)) (start : ρ) : Reader ρ
  | .object given stop => Field.readObject fields stop [] start given
  | .list items stop =>
    Field.readList ("struct " ++ name ++ " with " ++ intText fields.length ++ " elements") stop 0 start fields items
  | draft => .error (draft.mismatch ("struct " ++ name))

def Reader.ofText {α : Type} (reader : Reader α) (text : String) : Except ReadError α := do
  let reading := read text
  let value ← reader reading.root
  if reading.trailing then .error (.text .malformed) else .ok value

end WidgetSource.Json
