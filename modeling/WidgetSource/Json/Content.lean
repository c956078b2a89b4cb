import WidgetSource.Json.Document

namespace WidgetSource.Json

inductive Content
  | null
  | bool (b : Bool)
  | number (n : Numeral)
  | text (s : String)
  | list (items : List Content)
  | object (fields : List (String × Content))

mutual

/-- What a draft spells, or its first fault. `room` is how deep containers may still nest. -/
def Draft.content (room : Nat) : Draft → Except Cause Content
  | .scalar .null => .ok .null
  | .scalar (.bool b) => .ok (.bool b)
  | .scalar (.number n) => .ok (.number n)
  | .scalar (.text s) => .ok (.text s)
  | .scalar .refusedNumber | .scalar .refusedText => .error .malformed
  | .broken stop => .error stop.whenRead
  | .list items stop =>
    match room with
    | 0 => .error .malformed
    | room + 1 =>
      match contentItems room items, stop with
      | .error cause, _ => .error cause
      | .ok _, some stop => .error stop.whenRead
      | .ok items, none => .ok (.list items)
  | .object fields stop =>
    match room with
    | 0 => .error .malformed
    | room + 1 =>
      match contentFields room fields, stop with
      | .error cause, _ => .error cause
      | .ok _, some stop => .error stop.whenRead
      | .ok fields, none => .ok (.object fields)

def contentItems (room : Nat) : List Draft → Except Cause (List Content)
  | [] => .ok []
  | item :: items =>
    match item.content room with
    | .error cause => .error cause
    | .ok content => (contentItems room items).map (content :: ·)

def contentFields (room : Nat) : List (Key × Draft) → Except Cause (List (String × Content))
  | [] => .ok []
  | (.refused, _) :: _ => .error .malformed
  | (.broken stop, _) :: _ => .error stop.whenRead
  | (.text name, value) :: fields =>
    match value.content room with
    | .error cause => .error cause
    | .ok content => (contentFields room fields).map ((name, content) :: ·)

end

def Content.ofText (room : Nat) (text : String) : Except Cause Content :=
  let reading := read text
  match reading.root.content room with
  | .error cause => .error cause
  | .ok content => if reading.trailing then .error .malformed else .ok content

end WidgetSource.Json
