import WidgetSource.Mapping.Helper
import WidgetSource.Mapping.Piece

/-!
# Templates

Texts with tags between double braces. A text that is no template, or that asks for something unknown when it is filled
in, gives nothing; a property template then has its placeholder exchanged as plain text.
-/
namespace WidgetSource.Template

inductive Element
  | text (cs : List Char)
  | shows (arg : Argument)
  | block (helper : String) (args : List Argument) (named : List (String × Argument)) (names : List String)
    (body otherwise : List Element)
  | failure

def OpenCall.block (call : OpenCall) (names : List String) (body otherwise : List Element) : Element :=
  .block call.helper call.args call.named names body otherwise

/-- A block that is not closed: its elements so far, last first, and those before `else` if that has come. -/
structure OpenBlock where
  call : OpenCall
  names : List String
  elements : List Element
  body : Option (List Element)

def OpenBlock.close (block : OpenBlock) : Element :=
  match block.body with
  | some body => block.call.block block.names body block.elements.reverse
  | none => block.call.block block.names block.elements.reverse []

/-- Nests the pieces inside the open blocks, innermost first, after the elements `done`, last first. -/
def nest (blocks : List OpenBlock) (done : List Element) : List Piece → Option (List Element)
  | [] => if blocks.isEmpty then some done.reverse else none
  | .text cs :: rest => nest blocks (.text cs :: done) rest
  | .tag placed :: rest =>
    match placed.tag, blocks with
    | .comment, _ => nest blocks done rest
    | .shows arg, _ => nest blocks (.shows arg :: done) rest
    | .raw call names text, _ => nest blocks (call.block names [.text text] [] :: done) rest
    | .failure, _ => nest blocks (.failure :: done) rest
    | .opens call names, _ => nest (⟨call, names, done, none⟩ :: blocks) [] rest
    | .otherwise, block :: blocks =>
      match block.body with
      | none => nest ({ block with body := some done.reverse } :: blocks) [] rest
      | some _ => none
    | .closes helper, block :: blocks =>
      if helper = block.call.helper then
        nest blocks ({ block with elements := done }.close :: block.elements) rest
      else none
    | _, [] => none

def read? (source : String) : Option (List Element) := do
  nest [] [] (settle false false (← pieces? [] source.toList))

mutual

def Element.fill (scope : Scope) : Element → Option (List Char)
  | .text cs => some cs
  | .shows arg => arg.shown? scope
  | .block helper args named names body otherwise => do
    let args ← argumentValues? scope args
    let named ← fieldValues? scope named
    blockText? scope helper args named names (fun scope => fillAll scope body) fun scope => fillAll scope otherwise
  | .failure => none

def fillAll (scope : Scope) : List Element → Option (List Char)
  | [] => some []
  | element :: elements => do
    let text ← element.fill scope
    let more ← fillAll scope elements
    some (text ++ more)

end

/-- The text of a template for a value; nothing if it is no template or cannot be filled in. -/
def render? (source : String) (value : Json.Document) : Option String := do
  let text ← fillAll (.start value) (← read? source)
  some (String.ofList text)

def placeholder : String := "\x7b\x7bvalue\x7d\x7d"

/-- What gives a template its text for some data, if it can. -/
abbrev Engine := String → Json.Document → Option String

def propertyData (value : String) : Json.Document := .object [("value", .text value)]

/-- A property template with a formatted value in it: as the engine fills it in, or else with plain replacement. -/
def renderPropertyWith (engine : Engine) (source value : String) : String :=
  match engine source (propertyData value) with
  | some text => text
  | none => String.ofList (Text.replaceAll placeholder.toList value.toList source.toList)

def renderProperty (source value : String) : String :=
  renderPropertyWith render? source value

end WidgetSource.Template
