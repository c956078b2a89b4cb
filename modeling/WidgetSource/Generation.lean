import WidgetSource.Rendering
import WidgetSource.Source

namespace WidgetSource

/-- Names in ascending order, each once. -/
def insertName (name : String) : List String → List String
  | [] => [name]
  | first :: rest =>
    if name < first then name :: first :: rest
    else if first = name then first :: rest
    else first :: insertName name rest

def sortedNames (names : List String) : List String :=
  names.foldr insertName []

structure Generation where
  code : String
  lineCount : Nat
  widgetCount : Nat
  maxDepth : Nat
  imports : List String
  statistics : Option Statistics
  deriving DecidableEq, Repr

def Options.rootLevel (options : Options) : Nat :=
  if options.wrapInClass then Source.bodyLevel else 0

def Node.renderRoot (options : Options) (table : Mapping.Table) (root : Node) : Rendering :=
  root.render options table 0 options.rootLevel

def Rendering.allImports (rendering : Rendering) : List String :=
  sortedNames (Mapping.materialImport :: rendering.imports)

def Generation.ofRendering (options : Options) (rendering : Rendering) : Generation :=
  let statistics := Statistics.recordAll {} rendering.visits
  let code := Source.text options (rendering.expr.render options.layout options.rootLevel) rendering.allImports
  { code
    lineCount := Text.lineCount code
    widgetCount := statistics.totalWidgets
    maxDepth := statistics.maxDepth
    imports := rendering.allImports
    statistics := if options.includeStatistics then some statistics else none }

/-- The source of a widget tree, unless an option has no usable value. -/
def generate (options : Options) (table : Mapping.Table) (root : Node) : Except OptionFault Generation :=
  match options.fault? with
  | some fault => .error fault
  | none => .ok (.ofRendering options (root.renderRoot options table))

end WidgetSource
