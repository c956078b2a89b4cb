/-!
# Fields

Lists of named entries in a fixed order. Writing a name that is there keeps its place, a new name goes to the end.
-/
namespace WidgetSource

abbrev Fields (α : Type) := List (String × α)

namespace Fields

variable {α : Type}

def get? (name : String) : Fields α → Option α
  | [] => none
  | (n, a) :: rest => if n = name then some a else get? name rest

def has (name : String) (fields : Fields α) : Bool :=
  (get? name fields).isSome

/-- Writes an entry, in place if the name is there. -/
def set (name : String) (a : α) : Fields α → Fields α
  | [] => [(name, a)]
  | (n, b) :: rest => if n = name then (n, a) :: rest else (n, b) :: set name a rest

def erase (name : String) : Fields α → Fields α
  | [] => []
  | (n, b) :: rest => if n = name then rest else (n, b) :: erase name rest

/-- Writes an entry into fields in ascending order of their names. -/
def insertSorted (name : String) (a : α) : Fields α → Fields α
  | [] => [(name, a)]
  | (n, b) :: rest =>
    if name < n then (name, a) :: (n, b) :: rest
    else if n = name then (n, a) :: rest
    else (n, b) :: insertSorted name a rest

def names (fields : Fields α) : List String :=
  fields.map Prod.fst

end Fields

end WidgetSource
