import WidgetSource.Json.Content

namespace WidgetSource

inductive Value
  | null
  | bool (b : Bool)
  | number (x : Double)
  | text (s : String)
  | list (items : List Value)
  | map (fields : List (String × Value))
  deriving Inhabited

namespace Value

def text? : Value → Option String
  | .text s => some s
  | _ => none

def number? : Value → Option Double
  | .number x => some x
  | _ => none

def bool? : Value → Option Bool
  | .bool b => some b
  | _ => none

def list? : Value → Option (List Value)
  | .list items => some items
  | _ => none

def map? : Value → Option (Fields Value)
  | .map fields => some fields
  | _ => none

def field? (name : String) : Value → Option Value
  | .map fields => Fields.get? name fields
  | _ => none

/-- Nothing is set: null, or the word that stands for a cleared field. -/
def isNull : Value → Bool
  | .null => true
  | .text s => s == "null"
  | _ => false

/-- Something is set and switched on. -/
def isTruthy : Value → Bool
  | .null => false
  | .bool b => b
  | .number x => !x.same .zero
  | .text s => s != "" && s != "null"
  | .list items => !items.isEmpty
  | .map fields => !fields.isEmpty

mutual

def weight : Value → Nat
  | .list items => 1 + itemsWeight items
  | .map fields => 1 + fieldsWeight fields
  | _ => 1

def itemsWeight : List Value → Nat
  | [] => 0
  | item :: items => item.weight + itemsWeight items

def fieldsWeight : List (String × Value) → Nat
  | [] => 0
  | (_, value) :: fields => value.weight + fieldsWeight fields

end

theorem weight_pos (v : Value) : 0 < v.weight := by
  cases v <;> simp only [weight] <;> omega

theorem weight_le_itemsWeight {v : Value} {items : List Value} (h : v ∈ items) : v.weight ≤ itemsWeight items := by
  induction items with
  | nil => simp at h
  | cons item items ih =>
    simp only [itemsWeight]
    rcases List.mem_cons.mp h with rfl | later
    · omega
    · have := ih later
      omega

theorem weight_le_fieldsWeight {name : String} {v : Value} {fields : List (String × Value)}
    (h : (name, v) ∈ fields) : v.weight ≤ fieldsWeight fields := by
  induction fields with
  | nil => simp at h
  | cons field fields ih =>
    obtain ⟨n, w⟩ := field
    simp only [fieldsWeight]
    rcases List.mem_cons.mp h with same | later
    · cases same
      omega
    · have := ih later
      omega

end Value

mutual

def Json.Document.value : Json.Document → Value
  | .null => .null
  | .bool b => .bool b
  | .number n => .number n.double
  | .text s => .text s
  | .list items => .list (Json.valueItems items)
  | .object fields => .map (Json.valueFields fields)

def Json.valueItems : List Json.Document → List Value
  | [] => []
  | item :: items => item.value :: Json.valueItems items

def Json.valueFields : List (String × Json.Document) → List (String × Value)
  | [] => []
  | (name, value) :: fields => (name, value.value) :: Json.valueFields fields

end

namespace Json.Content

def nullValue? : Content → Option Value
  | .null => some .null
  | _ => none

def boolValue? : Content → Option Value
  | .bool b => some (.bool b)
  | _ => none

def numberValue? : Content → Option Value
  | .number n => some (.number n.double)
  | _ => none

def textValue? : Content → Option Value
  | .text s => some (.text s)
  | _ => none

end Json.Content

mutual

/-- The value that a content has the form of. The forms are tried one after another, and the first that fits counts. -/
def Json.Content.value? (content : Json.Content) : Option Value :=
  content.nullValue? <|> content.boolValue? <|> content.numberValue? <|> content.textValue? <|>
    (match content with
      | .list items => (Json.contentValues? items).map .list
      | _ => none) <|>
    (match content with
      | .object fields => (Json.contentEntries? [] fields).map .map
      | _ => none)

def Json.contentValues? : List Json.Content → Option (List Value)
  | [] => some []
  | item :: items =>
    match item.value? with
    | none => none
    | some value => (Json.contentValues? items).map (value :: ·)

/-- Entries are written in the order of the text, so that a repeated name keeps its place and has its last value. -/
def Json.contentEntries? (done : List (String × Value)) : List (String × Json.Content) → Option (List (String × Value))
  | [] => some done
  | (name, content) :: fields =>
    match content.value? with
    | none => none
    | some value => Json.contentEntries? (Fields.set name value done) fields

end

inductive Value.ReadError
  | text (cause : Json.Cause)
  | formless
  deriving DecidableEq, Repr

def Value.ofText (room : Nat) (text : String) : Except Value.ReadError Value :=
  match Json.Content.ofText room text with
  | .error cause => .error (.text cause)
  | .ok content =>
    match content.value? with
    | none => .error .formless
    | some value => .ok value

end WidgetSource
