import WidgetSource.Mapping.Entry

namespace WidgetSource.Mapping

/-- Entries in order, each under the normalized spelling of its type. -/
structure Table where
  entries : Fields Entry

namespace Table

def empty : Table := ⟨[]⟩

/-- Writes an entry without looking at it, at the place of the one for the same type if there is one. -/
def put (entry : Entry) (table : Table) : Table :=
  ⟨Fields.set (normalizeType entry.type) entry table.entries⟩

def insert (entry : Entry) (table : Table) : Except InvalidEntry Table :=
  match entry.fault? with
  | some fault => .error ⟨entry.type, fault⟩
  | none => .ok (table.put entry)

def lookup? (type : String) (table : Table) : Option Entry :=
  Fields.get? (normalizeType type) table.entries

def remove (type : String) (table : Table) : Option Entry × Table :=
  (table.lookup? type, ⟨Fields.erase (normalizeType type) table.entries⟩)

def contains (type : String) (table : Table) : Bool :=
  (table.lookup? type).isSome

def toList (table : Table) : List Entry :=
  table.entries.map Prod.snd

def size (table : Table) : Nat :=
  table.entries.length

end Table

def bare : String := Template.placeholder

def stockEntries : List Entry :=
  let entry := Entry.ofTarget
  [ (entry "text" "Text").withTemplate "text" bare,
    (entry "container" "Container").withChildren true,
    (entry "column" "Column").withChildren true,
    (entry "row" "Row").withChildren true,
    entry "button" "ElevatedButton",
    ((entry "textfield" "TextField").withTemplate "hintText" ("decoration: InputDecoration(hintText: " ++ bare ++ ")"))
      |>.withTemplate "labelText" ("decoration: InputDecoration(labelText: " ++ bare ++ ")"),
    (entry "image" "Image").withTemplate "source" ("Image.network(" ++ bare ++ ")"),
    (((entry "icon" "Icon").withTemplate "icon" ("Icons." ++ bare)).withTemplate "size" ("size: " ++ bare))
      |>.withTemplate "color" ("color: " ++ bare),
    (entry "stack" "Stack").withChildren true,
    ((entry "listview" "ListView").withTemplate "scrollDirection" ("scrollDirection: Axis." ++ bare)).withChildren true,
    ((entry "card" "Card").withTemplate "elevation" ("elevation: " ++ bare)).withChildren true,
    ((entry "appbar" "AppBar").withTemplate "title" ("title: Text(" ++ bare ++ ")"))
      |>.withTemplate "backgroundColor" ("backgroundColor: " ++ bare) ]

def Table.stock : Table :=
  stockEntries.foldl (fun table entry => table.put entry) .empty

end WidgetSource.Mapping
