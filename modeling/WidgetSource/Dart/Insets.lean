import WidgetSource.Dart.Literal

namespace WidgetSource.Dart

def zeroInsets : String := "EdgeInsets.zero"

def uniformInsets (all : Double) : String :=
  if all.same .zero then zeroInsets else "const EdgeInsets.all(" ++ doubleLiteral all ++ ")"

def sidedInsets (left top right bottom : Double) : String :=
  if left.same top && top.same right && right.same bottom then uniformInsets left
  else if left.same right && top.same bottom then
    "const EdgeInsets.symmetric(horizontal: " ++ doubleLiteral left ++ ", vertical: " ++ doubleLiteral top ++ ")"
  else
    "const EdgeInsets.fromLTRB(" ++ ", ".intercalate ([left, top, right, bottom].map doubleLiteral) ++ ")"

def insetsOrZero (value : Value) : String :=
  match numberOf? value with
  | some x => uniformInsets x
  | none => zeroInsets

def insetSide (fields : Fields Value) (name : String) : Double :=
  ((Fields.get? name fields).bind numberOf?).getD .zero

/-- Insets from a number or a map. `all` wins over the sides, and a side over a direction. -/
def insetsOf : Value → String
  | .map fields =>
    match Fields.get? "all" fields with
    | some all => insetsOrZero all
    | none =>
      let side := insetSide fields
      if !(["top", "right", "bottom", "left"].any fun name => Fields.has name fields) &&
          (Fields.has "horizontal" fields || Fields.has "vertical" fields) then
        sidedInsets (side "horizontal") (side "vertical") (side "horizontal") (side "vertical")
      else sidedInsets (side "left") (side "top") (side "right") (side "bottom")
  | value => insetsOrZero value

end WidgetSource.Dart
