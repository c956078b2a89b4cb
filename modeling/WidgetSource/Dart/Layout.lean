/-!
# Layout

How argument lists and list literals are laid out. An expression starts without indentation; its further lines carry
the indentation of the level on which it stands.
-/
namespace WidgetSource.Dart

/-- Whether short argument lists are joined on one line, or each argument takes a line. -/
inductive Format
  | compact | expanded
  deriving DecidableEq, Repr

structure Layout where
  indent : Nat
  format : Format
  deriving DecidableEq, Repr

def compactLimit : Nat := 2

def spaces (n : Nat) : String :=
  String.ofList (List.replicate n ' ')

def isOneLine (s : String) : Bool :=
  !s.toList.contains '\n'

namespace Layout

def pad (layout : Layout) (level : Nat) : String :=
  spaces (layout.indent * level)

/-- Parts between an opening and a closing text: on one line with commas between them, or each on a line of its own
with a comma after it. -/
def enclose (layout : Layout) (level : Nat) (inline : Bool) (opening closing : String) (parts : List String) : String :=
  if inline then opening ++ ", ".intercalate parts ++ closing
  else
    "\n".intercalate
      (opening :: parts.map (fun part => layout.pad (level + 1) ++ part ++ ",") ++ [layout.pad level ++ closing])

/-- A call. In the expanded format it stays on one line only if all its arguments are positional. -/
def call (layout : Layout) (name : String) (positional : Option String) (named : List String) (level : Nat) : String :=
  let args := positional.toList ++ named
  if args.isEmpty then name ++ "()"
  else
    let inline :=
      args.all isOneLine &&
        match layout.format with
        | .expanded => named.isEmpty
        | .compact => args.length ≤ compactLimit
    layout.enclose level inline (name ++ "(") ")" args

def list (layout : Layout) (element : Option String) (items : List String) (level : Nat) : String :=
  let opening :=
    match element with
    | some type => "<" ++ type ++ ">["
    | none => "["
  if items.isEmpty then opening ++ "]"
  else
    let inline := layout.format = .compact && items.length ≤ compactLimit && items.all isOneLine
    layout.enclose level inline opening "]" items

end Layout

end WidgetSource.Dart
