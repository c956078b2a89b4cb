import WidgetSource.Fields
import WidgetSource.Json.Draft

namespace WidgetSource.Json

inductive Document
  | null
  | bool (b : Bool)
  | number (n : Numeral)
  | text (s : String)
  | list (items : List Document)
  | object (fields : List (String × Document))
  deriving Inhabited

def depthLimit : Nat := 127

mutual

/-- The document of a draft, or its first fault. `room` is how deep containers may still nest. -/
def Draft.document (room : Nat) : Draft → Except Cause Document
  | .scalar .null => .ok .null
  | .scalar (.bool b) => .ok (.bool b)
  | .scalar (.number n) => .ok (.number n)
  | .scalar (.text s) => .ok (.text s)
  | .scalar .refusedNumber | .scalar .refusedText => .error .malformed
  | .broken stop => .error stop.whenRead
  | .list items stop =>
    match room with
    | 0 => .error .malformed
    | room + 1 =>
      match documentItems room items, stop with
      | .error cause, _ => .error cause
      | .ok _, some stop => .error stop.whenRead
      | .ok items, none => .ok (.list items)
  | .object fields stop =>
    match room with
    | 0 => .error .malformed
    | room + 1 =>
      match documentFields room [] fields, stop with
      | .error cause, _ => .error cause
      | .ok _, some stop => .error stop.whenRead
      | .ok fields, none => .ok (.object fields)

def documentItems (room : Nat) : List Draft → Except Cause (List Document)
  | [] => .ok []
  | item :: items =>
    match item.document room with
    | .error cause => .error cause
    | .ok value => (documentItems room items).map (value :: ·)

def documentFields (room : Nat) (done : List (String × Document)) :
    List (Key × Draft) → Except Cause (List (String × Document))
  | [] => .ok done
  | (.refused, _) :: _ => .error .malformed
  | (.broken stop, _) :: _ => .error stop.whenRead
  | (.text name, value) :: fields =>
    match value.document room with
    | .error cause => .error cause
    | .ok value => documentFields room (Fields.insertSorted name value done) fields

end

def Document.ofText (room : Nat) (text : String) : Except Cause Document :=
  let reading := read text
  match reading.root.document room with
  | .error cause => .error cause
  | .ok value => if reading.trailing then .error .malformed else .ok value

mutual

/-- The draft of a text that spells the document. -/
def Document.draft : Document → Draft
  | .null => .scalar .null
  | .bool b => .scalar (.bool b)
  | .number n => .scalar (.number n)
  | .text s => .scalar (.text s)
  | .list items => .list (draftItems items) none
  | .object fields => .object (draftFields fields) none

def draftItems : List Document → List Draft
  | [] => []
  | item :: items => item.draft :: draftItems items

def draftFields : List (String × Document) → List (Key × Draft)
  | [] => []
  | (name, value) :: fields => (.text name, value.draft) :: draftFields fields

end

namespace Document

def field? (name : String) : Document → Option Document
  | .object fields => Fields.get? name fields
  | _ => none

def text? : Document → Option String
  | .text s => some s
  | _ => none

def bool? : Document → Option Bool
  | .bool b => some b
  | _ => none

end Document

def Numeral.double : Numeral → Double
  | .integer n => .ofInt n
  | .real x => x

def Numeral.print : Numeral → String
  | .integer n => intText n
  | .real x => x.identifierText

end WidgetSource.Json
