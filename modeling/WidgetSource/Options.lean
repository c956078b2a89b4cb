import WidgetSource.Dart.Identifier
import WidgetSource.Dart.Layout
import WidgetSource.Json.Shape

namespace WidgetSource

structure Options where
  includeImports : Bool := true
  includeComments : Bool := true
  indentSize : Nat := 2
  useConstConstructors : Bool := true
  widgetName : String := "MyWidget"
  isStateful : Bool := false
  includeKeys : Bool := false
  format : Dart.Format := .expanded
  wrapInClass : Bool := true
  includeStatistics : Bool := true
  deriving DecidableEq, Repr

inductive OptionFault
  | indentSize (given : Nat)
  | widgetName (given : String)
  deriving DecidableEq, Repr

def maxIndent : Nat := 8

def OptionFault.message : OptionFault → String
  | .indentSize given =>
    "Invalid option 'indentSize': must be between 1 and " ++ intText maxIndent ++ ", got " ++ intText given
  | .widgetName given => "Invalid option 'widgetName': '" ++ given ++ "' is not a valid Dart class name"

namespace Options

/-- The first option without a usable value. The name counts only if there is a class. -/
def fault? (options : Options) : Option OptionFault :=
  if options.indentSize = 0 ∨ maxIndent < options.indentSize then some (.indentSize options.indentSize)
  else if options.wrapInClass && !Dart.isIdentifier options.widgetName then some (.widgetName options.widgetName)
  else none

def layout (options : Options) : Dart.Layout :=
  ⟨options.indentSize, options.format⟩

def formats : List (String × Dart.Format) := [("compact", .compact), ("expanded", .expanded)]

def fields : List (Json.Field Options) := [
  .optional "includeImports" Json.Reader.bool fun b o => { o with includeImports := b },
  .optional "includeComments" Json.Reader.bool fun b o => { o with includeComments := b },
  .optional "indentSize" Json.Reader.size fun n o => { o with indentSize := n },
  .optional "useConstConstructors" Json.Reader.bool fun b o => { o with useConstConstructors := b },
  .optional "widgetName" Json.Reader.text fun s o => { o with widgetName := s },
  .optional "isStateful" Json.Reader.bool fun b o => { o with isStateful := b },
  .optional "includeKeys" Json.Reader.bool fun b o => { o with includeKeys := b },
  .optional "format" (Json.Reader.choice formats) fun f o => { o with format := f },
  .optional "wrapInClass" Json.Reader.bool fun b o => { o with wrapInClass := b },
  .optional "includeStatistics" Json.Reader.bool fun b o => { o with includeStatistics := b }]

def reader : Json.Reader Options :=
  Json.Reader.record "GenerationOptions" fields {}

end Options

end WidgetSource
