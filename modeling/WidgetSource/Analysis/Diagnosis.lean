import WidgetSource.Mapping.Generic
import WidgetSource.Number.Decimal

namespace WidgetSource

inductive TreeError
  | noObject
  | noType
  | childrenNoList
  deriving DecidableEq, Repr

inductive TreeWarning
  | deprecated (type replacement : String)
  | unmapped (type : String)
  | propertiesNoObject
  | childrenOmitted (count : Nat)
  deriving DecidableEq, Repr

def TreeError.message : TreeError → String
  | .noObject => "expected a widget object"
  | .noType => "missing widget type"
  | .childrenNoList => "children must be a list"

def TreeWarning.message : TreeWarning → String
  | .deprecated type replacement => "'" ++ type ++ "' is deprecated, use " ++ replacement ++ " instead"
  | .unmapped type => "no mapping for widget type '" ++ type ++ "'"
  | .propertiesNoObject => "properties is not an object and will be ignored"
  | .childrenOmitted count => "widget cannot have children, " ++ intText count ++ " will be omitted"

/-- The way down to a widget: the places among the children. -/
abbrev TreePath := List Nat

def TreePath.print (path : TreePath) : String :=
  path.foldl (fun (text : String) (index : Nat) => text ++ ".children[" ++ intText index ++ "]") "root"

structure Diagnosis where
  errors : List (TreePath × TreeError)
  warnings : List (TreePath × TreeWarning)

namespace Diagnosis

def none : Diagnosis := ⟨[], []⟩

def error (path : TreePath) (e : TreeError) : Diagnosis := ⟨[(path, e)], []⟩

def warning (path : TreePath) (w : TreeWarning) : Diagnosis := ⟨[], [(path, w)]⟩

def append (d e : Diagnosis) : Diagnosis := ⟨d.errors ++ e.errors, d.warnings ++ e.warnings⟩

instance : Append Diagnosis := ⟨append⟩

def isValid (d : Diagnosis) : Bool :=
  d.errors.isEmpty

end Diagnosis

def deprecatedTypes : List (String × String) :=
  [("raisedbutton", "ElevatedButton"), ("flatbutton", "TextButton"), ("outlinebutton", "OutlinedButton")]

/-- The type that an object gives, unless it is blank. -/
def givenType? (fields : Fields Json.Document) : Option String :=
  (((Fields.get? "type" fields).bind Json.Document.text?).map Text.trim).filter (· != "")

def diagnoseType (table : Mapping.Table) (path : TreePath) : Option String → Diagnosis
  | none => .error path .noType
  | some type =>
    (match deprecatedTypes.lookup (normalizeType type) with
      | some replacement => .warning path (.deprecated type replacement)
      | none => .none) ++
    if !(Kind.ofType type).isNamed && !table.contains type then .warning path (.unmapped type) else .none

def diagnoseProperties (path : TreePath) : Option Json.Document → Diagnosis
  | none | some .null | some (.object _) => .none
  | some _ => .warning path .propertiesNoObject

mutual

def Json.Document.diagnose (table : Mapping.Table) (path : TreePath) : Json.Document → Diagnosis
  | .object fields =>
    let type? := givenType? fields
    diagnoseType table path type? ++ diagnoseProperties path (Fields.get? "properties" fields) ++
      diagnoseChildren table path (type?.any (dropsChildren table)) fields
  | _ => .error path .noObject

/-- What is to be said of the children, the first field of that name. -/
def diagnoseChildren (table : Mapping.Table) (path : TreePath) (drops : Bool) :
    List (String × Json.Document) → Diagnosis
  | [] => .none
  | (name, value) :: fields =>
    if name = "children" then value.diagnoseList table path drops else diagnoseChildren table path drops fields

def Json.Document.diagnoseList (table : Mapping.Table) (path : TreePath) (drops : Bool) : Json.Document → Diagnosis
  | .null => .none
  | .list items =>
    (if drops && !items.isEmpty then Diagnosis.warning path (.childrenOmitted items.length) else .none) ++
      diagnoseItems table path 0 items
  | _ => .error path .childrenNoList

def diagnoseItems (table : Mapping.Table) (path : TreePath) (index : Nat) : List Json.Document → Diagnosis
  | [] => .none
  | item :: items => item.diagnose table (path ++ [index]) ++ diagnoseItems table path (index + 1) items

end

def diagnose (table : Mapping.Table) (document : Json.Document) : Diagnosis :=
  document.diagnose table []

end WidgetSource
