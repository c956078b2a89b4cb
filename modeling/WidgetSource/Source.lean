import WidgetSource.Options
import WidgetSource.Text.Lines

namespace WidgetSource.Source

def bodyLevel : Nat := 2

def header : List String :=
  ["/// Generated Flutter widget.", "/// Produced from a visual builder widget tree."]

def importLine (address : String) : String :=
  "import '" ++ address ++ "';"

section

variable (options : Options) (body : String)

def pad (level : Nat) : String :=
  options.layout.pad level

def buildMethod : List String := [
  pad options 1 ++ "@override",
  pad options 1 ++ "Widget build(BuildContext context) \x7b",
  pad options bodyLevel ++ "return " ++ body ++ ";",
  pad options 1 ++ "\x7d"]

def constructor : String :=
  pad options 1 ++ "const " ++ options.widgetName ++ "(\x7bsuper.key\x7d);"

def statelessClass : List String :=
  let name := options.widgetName
  ["class " ++ name ++ " extends StatelessWidget \x7b", constructor options, ""] ++ buildMethod options body ++ ["\x7d"]

def stateName : String :=
  "_" ++ options.widgetName ++ "State"

def statefulClass : List String :=
  let name := options.widgetName
  let state := stateName options
  ["class " ++ name ++ " extends StatefulWidget \x7b",
    constructor options,
    "",
    pad options 1 ++ "@override",
    pad options 1 ++ "State<" ++ name ++ "> createState() => " ++ state ++ "();",
    "\x7d",
    "",
    "class " ++ state ++ " extends State<" ++ name ++ "> \x7b"] ++
  buildMethod options body ++ ["\x7d"]

def widgetLines : List String :=
  if options.wrapInClass then
    if options.isStateful then statefulClass options body else statelessClass options body
  else [body]

/-- The lines of a source; a line that holds an expression may have breaks of its own. -/
def lines (imports : List String) : List String :=
  (if options.includeComments then header ++ [""] else []) ++
  (if options.includeImports then imports.map importLine ++ [""] else []) ++
  widgetLines options body

def text (imports : List String) : String :=
  "\n".intercalate (lines options body imports)

end

end WidgetSource.Source
