import WidgetSource.Dart.Color
import WidgetSource.Dart.Expr
import WidgetSource.Dart.Token

namespace WidgetSource.Dart

def doubleField (value : Value) (name : String) (fallback : Double) : String :=
  doubleLiteral (((value.field? name).bind numberOf?).getD fallback)

def colorField (value : Value) (name : String) : String :=
  ((value.field? name).bind colorOf?).getD fallbackColor

/-- A border that is the same on all sides: a map gives color and width, a number the width. -/
def borderOf (value : Value) : String :=
  let side :=
    match value with
    | .map _ => "BorderSide(color: " ++ colorField value "color" ++ ", width: " ++
        doubleField value "width" (.ofInt 1) ++ ")"
    | .number width => "BorderSide(width: " ++ doubleLiteral width ++ ")"
    | _ => "BorderSide()"
  "Border.fromBorderSide(" ++ side ++ ")"

def uniformRadius (radius : Double) : String :=
  "BorderRadius.all(Radius.circular(" ++ doubleLiteral radius ++ "))"

def borderRadiusOf (value : Value) : String :=
  match (numberOf? value).or ((value.field? "all").bind numberOf?) with
  | some radius => uniformRadius radius
  | none =>
    match value with
    | .map _ =>
      let corner (name : String) := name ++ ": Radius.circular(" ++ doubleField value name .zero ++ ")"
      "BorderRadius.only(" ++ ", ".intercalate (["topLeft", "topRight", "bottomLeft", "bottomRight"].map corner) ++ ")"
    | _ => "BorderRadius.zero"

def shadowOf (value : Value) : String :=
  let double (name : String) := doubleField value name .zero
  "BoxShadow(color: " ++ colorField value "color" ++ ", offset: Offset(" ++ double "offsetX" ++ ", " ++
    double "offsetY" ++ "), blurRadius: " ++ double "blurRadius" ++ ", spreadRadius: " ++ double "spreadRadius" ++ ")"

def shadowsIn : Value → List Value
  | .list items => items.filter fun item => item.map?.isSome
  | .map fields => [.map fields]
  | _ => []

def boxShadowOf (value : Value) : Expr :=
  match shadowsIn value with
  | [] => .text "const <BoxShadow>[]"
  | shadows => .list (shadows.map fun shadow => .text (shadowOf shadow))

def defaultGradient : List String :=
  ["const Color(0xFFFFFFFF)", "const Color(0xFF000000)"]

def gradientOf (value : Value) : String :=
  let given := (((value.field? "colors").bind Value.list?).getD []).filterMap colorOf?
  let colors := "colors: [" ++ ", ".intercalate (if given.isEmpty then defaultGradient else given) ++ "]"
  let token (name fallback : String) := ((value.field? name).bind Value.text?).getD fallback
  match token "type" "linear" with
  | "radial" => "RadialGradient(" ++ colors ++ ")"
  | "linear" =>
    "LinearGradient(begin: " ++ alignments.read (token "begin" "topLeft") ++ ", end: " ++
      alignments.read (token "end" "bottomRight") ++ ", " ++ colors ++ ")"
  | _ => "LinearGradient(" ++ colors ++ ")"

def constraintsOf (value : Value) : String :=
  let bounds := ["minWidth", "maxWidth", "minHeight", "maxHeight"].filterMap fun name =>
    ((value.field? name).bind dimensionOf?).map fun bound => name ++ ": " ++ bound
  if bounds.isEmpty then "const BoxConstraints()" else "BoxConstraints(" ++ ", ".intercalate bounds ++ ")"

/-- A rotation, else a scaling, else a shift. -/
def transformOf (value : Value) : String :=
  match (value.field? "rotate").bind numberOf?, (value.field? "scale").bind numberOf?, value.field? "translate" with
  | some angle, _, _ => "Matrix4.rotationZ(" ++ doubleLiteral angle ++ ")"
  | none, some scale, _ =>
    "Matrix4.diagonal3Values(" ++ doubleLiteral scale ++ ", " ++ doubleLiteral scale ++ ", 1.0)"
  | none, none, some (.map offset) =>
    "Matrix4.translationValues(" ++ doubleField (.map offset) "x" .zero ++ ", " ++
      doubleField (.map offset) "y" .zero ++ ", 0.0)"
  | none, none, _ => "Matrix4.identity()"

def given (args : List (Option (String × Expr))) : List (String × Expr) :=
  args.filterMap id

def argument? (name : String) (value : Option String) : Option (String × Expr) :=
  value.map fun s => (name, .text s)

def decorationOf (value : Value) : Expr :=
  let set (name : String) := (value.field? name).filter (·.isTruthy)
  let args := given [
    argument? "color" ((set "color").bind colorOf?),
    argument? "border" ((set "border").map borderOf),
    argument? "borderRadius" ((set "borderRadius").map borderRadiusOf),
    (set "boxShadow").map fun shadows => ("boxShadow", boxShadowOf shadows),
    argument? "gradient" ((set "gradient").map gradientOf)]
  if args.isEmpty then .text "const BoxDecoration()" else .ofArgs "BoxDecoration" args

end WidgetSource.Dart
