import WidgetSource.Mapping.Table
import WidgetSource.Widget.Kind

/-!
# Types under a table

What a table decides of a type of widget that has no form of its own: the name it is written under, and whether it
keeps its children. All other types decide this for themselves.
-/
namespace WidgetSource

/-- The name under which a generic widget is constructed: the target of its entry, or its own type. -/
def genericTarget (table : Mapping.Table) (type : String) : String :=
  Text.trim (((table.lookup? type).map (·.target)).getD type)

/-- Whether a generic widget takes children; it does unless its entry says otherwise. -/
def takesChildren (table : Mapping.Table) (type : String) : Bool :=
  (table.lookup? type).all (·.takesChildren)

def dropsChildren (table : Mapping.Table) (type : String) : Bool :=
  match Kind.ofType type with
  | .generic => !takesChildren table type
  | kind => kind.cardinality = .leaf

end WidgetSource
