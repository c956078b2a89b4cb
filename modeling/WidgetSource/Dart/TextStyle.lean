import WidgetSource.Dart.Decoration

namespace WidgetSource.Dart

/-- A field of a style that is set: a property, or else a field of the map under `style`. -/
def styleField (properties : Fields Value) (name : String) : Option Value :=
  ((Fields.get? name properties).filter (·.isTruthy)).or
    (((Fields.get? "style" properties).bind (·.field? name)).filter (·.isTruthy))

def styleArgs (properties : Fields Value) : List (String × Expr) :=
  let field := styleField properties
  let token (name : String) := (field name).bind Value.text?
  given [
    argument? "fontSize" ((field "fontSize").bind doubleOf?),
    argument? "color" (((field "textColor").or (field "color")).bind colorOf?),
    argument? "fontWeight" ((field "fontWeight").map fontWeightOf),
    argument? "fontStyle" ((token "fontStyle").map fontStyles.read),
    argument? "letterSpacing" ((field "letterSpacing").bind doubleOf?),
    argument? "wordSpacing" ((field "wordSpacing").bind doubleOf?),
    argument? "height" ((field "height").bind doubleOf?),
    argument? "decoration" ((token "decoration").map textDecorations.read),
    argument? "decorationColor" ((field "decorationColor").bind colorOf?),
    argument? "fontFamily" ((token "fontFamily").map textLiteral)]

def textStyleOf? (properties : Fields Value) : Option Expr :=
  match styleArgs properties with
  | [] => none
  | args => some (.ofArgs "TextStyle" args)

end WidgetSource.Dart
