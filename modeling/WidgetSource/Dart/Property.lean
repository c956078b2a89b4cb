import WidgetSource.Dart.Icon
import WidgetSource.Dart.Insets
import WidgetSource.Dart.TextStyle

namespace WidgetSource.Dart

def isColorName (name : String) : Bool :=
  name == "color" || Text.endsWith "Color" name

def tokensOf? : String → Option TokenTable
  | "alignment" => some alignments
  | "mainAxisAlignment" => some mainAxisAlignments
  | "crossAxisAlignment" => some crossAxisAlignments
  | "mainAxisSize" => some mainAxisSizes
  | "textAlign" => some textAligns
  | "overflow" => some textOverflows
  | "fontWeight" => some fontWeights
  | "fontStyle" => some fontStyles
  | "fit" => some boxFits
  | "scrollDirection" | "direction" => some axes
  | "keyboardType" => some keyboardTypes
  | "physics" => some scrollPhysics
  | _ => none

def plainProperty? (name : String) : Value → Option String
  | .text s =>
    match tokensOf? name with
    | some table => some (table.read s)
    | none => some (if name = "icon" then iconOf s else textLiteral s)
  | .bool b => some (boolText b)
  | .number x => some (doubleLiteral x)
  | _ => none

/-- The expression of a property; none if nothing is set, or if the value has no form under that name. -/
def propertyOf? (name : String) (value : Value) : Option Expr :=
  if value.isNull then none
  else
    match name, value with
    | "padding", value | "margin", value => some (.text (insetsOf value))
    | "decoration", .map fields => some (decorationOf (.map fields))
    | "border", value => some (.text (borderOf value))
    | "borderRadius", value => some (.text (borderRadiusOf value))
    | "boxShadow", value => some (boxShadowOf value)
    | "gradient", .map fields => some (.text (gradientOf (.map fields)))
    | "constraints", .map fields => some (.text (constraintsOf (.map fields)))
    | "transform", value => some (.text (transformOf value))
    | "width", value | "height", value => (dimensionOf? value).map .text
    | name, value =>
      if isColorName name then (colorOf? value).map .text else (plainProperty? name value).map .text

end WidgetSource.Dart
