import WidgetSource.Dart.Icon
import WidgetSource.Dart.TextStyle
import WidgetSource.Form.Single

namespace WidgetSource.Form

open Dart (Expr)

def translationImport : String := "package:flutter_gen/gen_l10n/app_localizations.dart"

def defaultText : String := "Text"

def textValue? (node : Node) : Option Value :=
  (node.property? "text").or (node.property? "content")

def isTranslated (node : Node) : Bool :=
  (node.property? "useTranslation").any (·.isTruthy)

def translationName (node : Node) : String :=
  let key := (node.property? "translationKey").bind Value.text?
  Dart.identifierOf ((key.or ((textValue? node).bind Value.text?)).getD defaultText) "text"

def lineLimit : Writer := .ifTruthy Dart.integerOf?

def text (node : Node) : Form :=
  let translated := isTranslated node
  let content :=
    if translated then "AppLocalizations.of(context)!." ++ translationName node
    else ((textValue? node).map Dart.textOf).getD (Dart.textLiteral defaultText)
  { target := "Text"
    positional := some (.text content)
    args :=
      Argument.ofExpr? "style" (Dart.textStyleOf? node.properties) ++
      node.named [
        ("textAlign", .word Dart.textAligns), ("overflow", .word Dart.textOverflows), ("maxLines", lineLimit),
        ("softWrap", Dart.boolOf?)]
    imports := if translated then [translationImport] else [] }

def iconIn (name fallback : String) (node : Node) : String :=
  (node.written? name fun value => value.text?.map Dart.iconOf).getD fallback

def icon (node : Node) : Form :=
  { target := "Icon"
    positional := some (.text (iconIn "icon" Dart.defaultIcon node))
    args := node.named [("size", Dart.doubleOf?), ("color", Dart.colorOf?), ("semanticLabel", .text)] }

def imageSource? (node : Node) : Option String :=
  let given := ["source", "src", "url"].findSome? fun name => (node.property? name).bind Value.text?
  (given.map Text.trim).filter (· != "")

/-- The path of an asset; one without a folder is in the folder for images. -/
def assetPath (source : String) : String :=
  if Text.beginsWith "assets/" source then source else "assets/images/" ++ source

/-- An image from the network or from the assets, or a placeholder if it comes from nowhere. -/
def image (node : Node) : Form :=
  match imageSource? node with
  | none => { target := "Placeholder" }
  | some source =>
    let isRemote := Text.beginsWith "http://" source || Text.beginsWith "https://" source
    { target := if isRemote then "Image.network" else "Image.asset"
      positional := some (.text (Dart.textLiteral (if isRemote then source else assetPath source)))
      args := node.named (sizes ++ [("fit", .word Dart.boxFits)]) }

def divider (node : Node) : Form :=
  let lengths := ["height", "thickness", "indent", "endIndent"].map fun name => (name, Dart.doubleOf?)
  { target := "Divider", args := node.named (lengths ++ [("color", Dart.colorOf?)]) }

def iconButton (node : Node) : Form :=
  { target := "IconButton"
    args :=
      .text "icon" ("Icon(" ++ iconIn "icon" "Icons.add" node ++ ")") :: tapHandler node ::
        node.named [("iconSize", Dart.doubleOf?), ("color", Dart.colorOf?), ("tooltip", .text)] }

def inputBorder : Writer := fun value =>
  match value.text?.map Text.asciiLowerText with
  | some "outline" | some "outlined" => some "OutlineInputBorder()"
  | some "underline" => some "UnderlineInputBorder()"
  | some "none" => some "InputBorder.none"
  | _ => none

def fieldIcon : Writer := fun value => value.text?.map fun name => "Icon(" ++ Dart.iconOf name ++ ")"

def inputDecoration (node : Node) : List (String × Expr) :=
  node.fields [
    ("hintText", .text), ("labelText", .text), ("helperText", .text), ("prefixIcon", fieldIcon),
    ("suffixIcon", fieldIcon), ("border", inputBorder)]

def textField (node : Node) : Form :=
  let decoration := inputDecoration node
  { target := "TextField"
    args :=
      node.named [("controller", fun value => value.text?.map fun name => Dart.identifierOf name "controller")] ++
      (if decoration.isEmpty then [] else [.value (.named "decoration") (.ofArgs "InputDecoration" decoration)]) ++
      node.named [
        ("obscureText", Dart.boolOf?), ("maxLines", lineLimit), ("keyboardType", .word Dart.keyboardTypes),
        ("enabled", Dart.boolOf?), ("onChanged", .constant valueStub), ("onSubmitted", .constant valueStub)] }

/-- A control that is on or off. Its handler is always there, so that it can be used. -/
def toggle (target : String) (node : Node) : Form :=
  { target
    args :=
      .text "value" ((node.written? "value" Dart.boolOf?).getD "false") :: .text "onChanged" valueStub ::
        node.named [("activeColor", Dart.colorOf?)] }

def choiceOf : Option Value → String
  | some (.number x) => Dart.numberLiteral x
  | some (.bool b) => Dart.boolText b
  | some (.text s) => Dart.textLiteral s
  | _ => "1"

def radio (node : Node) : Form :=
  { target := "Radio"
    args :=
      .text "value" (choiceOf (node.property? "value")) :: .text "groupValue" (choiceOf (node.property? "groupValue")) ::
        .text "onChanged" valueStub :: node.named [("activeColor", Dart.colorOf?)] }

def slider (node : Node) : Form :=
  let double (name : String) (fallback : Double) : Argument Node :=
    .text name ((node.written? name Dart.doubleOf?).getD (Dart.doubleLiteral fallback))
  { target := "Slider"
    args :=
      double "value" (.ofDecimal false 5 (-1)) :: double "min" .zero :: double "max" (.ofInt 1) ::
        (node.named [("divisions", Dart.integerOf?), ("label", .text)] ++
          .text "onChanged" valueStub ::
            node.named [("activeColor", Dart.colorOf?), ("inactiveColor", Dart.colorOf?)]) }

variable (node : Node)

theorem text_lighter : Lighter node (text node).args :=
  .append (.ofExpr? _ _) (.named _)

theorem icon_lighter : Lighter node (icon node).args :=
  .named _

theorem image_lighter : Lighter node (image node).args := by
  unfold image
  split
  · exact .nil
  · exact .named _

theorem divider_lighter : Lighter node (divider node).args :=
  .named _

theorem iconButton_lighter : Lighter node (iconButton node).args :=
  .cons_text _ _ (.cons_text _ _ (.named _))

theorem textField_lighter : Lighter node (textField node).args := by
  refine .append (.append (.named _) ?_) (.named _)
  split
  · exact .nil
  · exact .ofExpr? "decoration" (some _)

theorem toggle_lighter (target : String) : Lighter node (toggle target node).args :=
  .cons_text _ _ (.cons_text _ _ (.named _))

theorem radio_lighter : Lighter node (radio node).args :=
  .cons_text _ _ (.cons_text _ _ (.cons_text _ _ (.named _)))

theorem slider_lighter : Lighter node (slider node).args :=
  .cons_text _ _ (.cons_text _ _ (.cons_text _ _ (.append (.named _) (.cons_text _ _ (.named _)))))

end WidgetSource.Form
