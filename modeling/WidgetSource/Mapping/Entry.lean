import WidgetSource.Mapping.Template
import WidgetSource.Widget.Node

namespace WidgetSource.Mapping

def materialImport : String := "package:flutter/material.dart"

def isQuote (c : Char) : Bool := c == '\'' || c == '"'

/-- The address in an import: a line may give it bare, in quotes, or as a whole statement. -/
def importAddress? (line : String) : Option String :=
  let trimmed := Text.trimChars line.toList
  let bare := ((Text.afterPrefix? "import".toList trimmed).map Text.trimChars).getD trimmed
  let unended := Text.trimChars (Text.dropEndWhile (· == ';') bare)
  match Text.trimChars (Text.trimWhile isQuote unended) with
  | [] => none
  | address => some (String.ofList address)

structure Entry where
  type : String
  target : String
  templates : Fields String
  imports : List String
  takesChildren : Bool
  deriving DecidableEq, Repr

inductive EntryFault
  | emptyTarget
  | placeholders (property : String) (count : Nat)
  deriving DecidableEq, Repr

structure InvalidEntry where
  type : String
  fault : EntryFault
  deriving DecidableEq, Repr

def EntryFault.reason : EntryFault → String
  | .emptyTarget => "target widget name is empty"
  | .placeholders property count =>
    "template for '" ++ property ++ "' must contain exactly one " ++ Template.placeholder ++ " placeholder, found " ++
      intText count

def InvalidEntry.message (invalid : InvalidEntry) : String :=
  "Invalid mapping for '" ++ invalid.type ++ "': " ++ invalid.fault.reason

namespace Entry

def ofTarget (type target : String) : Entry := ⟨type, target, [], [], false⟩

def withTemplate (property template : String) (entry : Entry) : Entry :=
  { entry with templates := Fields.set property template entry.templates }

def withImport (line : String) (entry : Entry) : Entry :=
  { entry with imports := entry.imports ++ (importAddress? line).toList }

def withChildren (takesChildren : Bool) (entry : Entry) : Entry :=
  { entry with takesChildren }

def template? (property : String) (entry : Entry) : Option String :=
  Fields.get? property entry.templates

def placeholderCount (template : String) : Nat :=
  Text.occurrences Template.placeholder.toList template.toList

/-- What is wrong first: a blank target, or a template that has not exactly one place for the value. -/
def fault? (entry : Entry) : Option EntryFault :=
  if Text.isBlank entry.target then some .emptyTarget
  else
    (entry.templates.find? fun (_, template) => placeholderCount template != 1).map fun (property, template) =>
      .placeholders property (placeholderCount template)

end Entry

end WidgetSource.Mapping
