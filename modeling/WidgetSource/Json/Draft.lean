import WidgetSource.Json.Token

/-!
# Drafts

What is known of a document while it is read: its parts in the order of the text, repeated names included, up to the
place where the text stops making sense. A reader that wants a certain shape walks the draft in that order, so it
reports the first fault of the text, be it one of grammar or of shape.
-/
namespace WidgetSource.Json

/-- A name in an object; a refused one is complete but spells no text. -/
inductive Key
  | text (s : String)
  | refused
  | broken (stop : Stop)
  deriving DecidableEq, Repr

/-- A document as far as its text goes. A container has a stop if something else stands in place of its end. -/
inductive Draft
  | scalar (s : Scalar)
  | broken (stop : Stop)
  | list (items : List Draft) (stop : Option Stop)
  | object (fields : List (Key × Draft)) (stop : Option Stop)

structure Reading where
  root : Draft
  trailing : Bool

/-- A container between two of its parts, the last part first. -/
inductive OpenPart
  | list (done : List Draft)
  | object (done : List (Key × Draft))

inductive Frame
  | list (done : List Draft)
  | object (done : List (Key × Draft)) (key : Key)

def Frame.fill (value : Draft) : Frame → OpenPart
  | .list done => .list (value :: done)
  | .object done key => .object ((key, value) :: done)

def OpenPart.close (stop : Option Stop) : OpenPart → Draft
  | .list done => .list done.reverse stop
  | .object done => .object done.reverse stop

def enclose (part : Draft) : List Frame → Draft
  | [] => part
  | frame :: frames => enclose ((frame.fill part).close none) frames

inductive Start
  | complete (value : Draft)
  | opens (part : OpenPart)
  | fails (stop : Stop)

def Token.start : Token → Start
  | .scalar s => .complete (.scalar s)
  | .openList => .opens (.list [])
  | .openObject => .opens (.object [])
  | .broken stop | .brokenText stop => .fails stop
  | _ => .fails Cause.malformed.stop

def Token.key : Token → Key
  | .scalar (.text s) => .text s
  | .scalar .refusedText => .refused
  | .brokenText stop => .broken stop
  | _ => .broken Cause.malformed.stop

inductive Awaits
  | value
  | firstPart (part : OpenPart)
  | afterPart (part : OpenPart)
  | key (done : List (Key × Draft))
  | colon (done : List (Key × Draft)) (key : Key)

def Awaits.halt (stop : Stop) (frames : List Frame) : Awaits → Draft
  | .value => enclose (.broken stop) frames
  | .firstPart part | .afterPart part => enclose (part.close (some stop)) frames
  | .key done => enclose ((OpenPart.object ((.broken stop, .broken stop) :: done)).close none) frames
  | .colon done name => enclose ((OpenPart.object ((name, .broken stop) :: done)).close none) frames

/-- Reads tokens inside the containers `frames`, innermost first. -/
def build (frames : List Frame) (awaits : Awaits) : List Token → Reading
  | [] => ⟨awaits.halt Cause.ended.stop frames, false⟩
  | token :: rest =>
    let settle (value : Draft) (frames : List Frame) : Reading :=
      match frames with
      | [] => ⟨value, !rest.isEmpty⟩
      | frame :: frames => build frames (.afterPart (frame.fill value)) rest
    let begin (frames : List Frame) : Reading :=
      match token.start with
      | .complete value => settle value frames
      | .opens part => build frames (.firstPart part) rest
      | .fails stop => ⟨enclose (.broken stop) frames, false⟩
    let halt (stop : Stop) : Reading := ⟨awaits.halt stop frames, false⟩
    match awaits with
    | .value => begin frames
    | .firstPart (.list done) =>
      match token with
      | .closeList => settle ((OpenPart.list done).close none) frames
      | _ => begin (.list done :: frames)
    | .firstPart (.object done) =>
      match token, token.key with
      | .closeObject, _ => settle ((OpenPart.object done).close none) frames
      | _, .broken stop => halt stop
      | _, key => build frames (.colon done key) rest
    | .afterPart (.list done) =>
      match token with
      | .comma => build (.list done :: frames) .value rest
      | .closeList => settle ((OpenPart.list done).close none) frames
      | _ => halt Cause.malformed.stop
    | .afterPart (.object done) =>
      match token with
      | .comma => build frames (.key done) rest
      | .closeObject => settle ((OpenPart.object done).close none) frames
      | _ => halt Cause.malformed.stop
    | .key done =>
      match token.key with
      | .broken stop => halt stop
      | key => build frames (.colon done key) rest
    | .colon done key =>
      match token with
      | .colon => build (.object done key :: frames) .value rest
      | _ => halt Cause.malformed.stop

def read (text : String) : Reading :=
  build [] .value (tokens text.toList)

mutual

/-- What stops the reading of a part whose value is not wanted. -/
def Draft.skip : Draft → Option Cause
  | .scalar _ => none
  | .broken stop => some stop.whenSkipped
  | .list items stop => (skipItems items).or (stop.map (·.whenSkipped))
  | .object fields stop => (skipFields fields).or (stop.map (·.whenSkipped))

def skipItems : List Draft → Option Cause
  | [] => none
  | item :: items => item.skip.or (skipItems items)

def skipFields : List (Key × Draft) → Option Cause
  | [] => none
  | (_, value) :: fields => value.skip.or (skipFields fields)

end

end WidgetSource.Json
