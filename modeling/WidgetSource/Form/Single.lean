import WidgetSource.Analysis.Constness
import WidgetSource.Dart.Decoration
import WidgetSource.Dart.Insets
import WidgetSource.Form.Basic

namespace WidgetSource.Form

open Dart (Expr)

def sizes : List (String × Writer) :=
  [("width", Dart.dimensionOf?), ("height", Dart.dimensionOf?)]

def factors : List (String × Writer) :=
  [("widthFactor", Dart.doubleOf?), ("heightFactor", Dart.doubleOf?)]

def insets : Writer := .always Dart.insetsOf

def child (node : Node) : List (Argument Node) :=
  Node.childSlot "child" node.children

/-- The child, or an empty box where there has to be one. -/
def requiredChild (node : Node) : List (Argument Node) :=
  if node.isLeaf then [.text "child" "SizedBox.shrink()"] else child node

def complete (name : String) (value : Option Value) (fields : Fields Value) : Fields Value :=
  match value with
  | some value => if Fields.has name fields then fields else fields ++ [(name, value)]
  | none => fields

/-- The decoration of a container. A container cannot have both a color and a decoration, so that color and corners
become part of the decoration where there is one, or where the corners ask for one. -/
def decorationFields? (node : Node) : Option (Fields Value) :=
  let fields := (node.property? "decoration").bind Value.map?
  let corners := node.property? "borderRadius"
  if fields.isNone && corners.isNone then none
  else some (complete "borderRadius" corners (complete "color" (node.property? "color") (fields.getD [])))

def container (node : Node) : Form :=
  let decoration := (decorationFields? node).map fun fields => Dart.decorationOf (.map fields)
  { target := "Container"
    args :=
      node.named sizes ++ node.named (if decoration.isNone then [("color", Dart.colorOf?)] else []) ++
      node.named [("padding", insets), ("margin", insets), ("alignment", .word Dart.alignments)] ++
      Argument.ofExpr? "decoration" decoration ++
      node.named [
        ("constraints", fun value => value.map?.map fun fields => Dart.constraintsOf (.map fields)),
        ("transform", .always Dart.transformOf)] ++
      child node }

def defaultPadding : String := "const EdgeInsets.all(8.0)"

def padding (node : Node) : Form :=
  { target := "Padding"
    args := .text "padding" ((node.written? "padding" insets).getD defaultPadding) :: child node }

def center (node : Node) : Form :=
  { target := "Center", args := node.named factors ++ child node }

def sizedBox (node : Node) : Form :=
  { target := "SizedBox", args := node.named sizes ++ child node }

def align (node : Node) : Form :=
  { target := "Align"
    args :=
      .text "alignment" ((node.written? "alignment" (.word Dart.alignments)).getD Dart.alignments.fallback) ::
        (node.named factors ++ child node) }

def expanded (node : Node) : Form :=
  { target := "Expanded", args := node.named [("flex", Dart.integerOf?)] ++ requiredChild node }

def flexible (node : Node) : Form :=
  { target := "Flexible"
    args := node.named [("flex", Dart.integerOf?), ("fit", .word Dart.flexFits)] ++ requiredChild node }

def positioned (node : Node) : Form :=
  let offsets := ["left", "top", "right", "bottom"].map fun name => (name, Dart.doubleOf?)
  { target := "Positioned", args := node.named (offsets ++ sizes) ++ requiredChild node }

def cardShape (radius : Double) : String :=
  "RoundedRectangleBorder(borderRadius: " ++ Dart.uniformRadius radius ++ ")"

def card (node : Node) : Form :=
  let shape := ((node.property? "borderRadius").bind Dart.numberOf?).map fun radius => Expr.text (cardShape radius)
  { target := "Card"
    args :=
      node.named [("color", Dart.colorOf?), ("shadowColor", Dart.colorOf?), ("elevation", Dart.doubleOf?),
        ("margin", insets)] ++
      Argument.ofExpr? "shape" shape ++ child node }

def tapStub : String := "() \x7b\x7d"

def valueStub : String := "(value) \x7b\x7d"

def tapHandler (node : Node) : Argument Node :=
  .text "onPressed" (if node.hasProperty "onPressed" then tapStub else "null")

def buttonStyle (node : Node) : List (String × Expr) :=
  node.fields (buttonStyleNames.map fun name => (name, if name = "padding" then insets else Dart.colorOf?))

def buttonLabel (node : Node) : String :=
  (((node.property? "text").or (node.property? "label")).map Dart.textOf).getD (Dart.textLiteral "Button")

/-- A button of a variant. Children take the place of the label. -/
def materialButton (variant : String) (node : Node) : Form :=
  let style := buttonStyle node
  { target := variant
    args :=
      [tapHandler node] ++ node.named [("onLongPress", .constant tapStub)] ++
      (if style.isEmpty then [] else [.value (.named "style") (.ofArgs (variant ++ ".styleFrom") style)]) ++
      if node.isLeaf then [.text "child" ("Text(" ++ buttonLabel node ++ ")")] else child node }

def buttonVariant (node : Node) : String :=
  match ((node.property? "buttonType").bind Value.text?).map Text.asciiLowerText with
  | some "text" => "TextButton"
  | some "outlined" | some "outline" => "OutlinedButton"
  | _ => "ElevatedButton"

variable (node : Node)

theorem child_lighter : Lighter node (child node) :=
  .childSlot "child" fun _ => Node.child_weight

theorem requiredChild_lighter : Lighter node (requiredChild node) := by
  unfold requiredChild
  split
  · exact .cons_text _ _ .nil
  · exact child_lighter node

theorem container_lighter : Lighter node (container node).args :=
  .append (.append (.append (.append (.append (.named _) (.named _)) (.named _)) (.ofExpr? _ _)) (.named _))
    (child_lighter node)

theorem padding_lighter : Lighter node (padding node).args :=
  .cons_text _ _ (child_lighter node)

theorem center_lighter : Lighter node (center node).args :=
  .append (.named _) (child_lighter node)

theorem sizedBox_lighter : Lighter node (sizedBox node).args :=
  .append (.named _) (child_lighter node)

theorem align_lighter : Lighter node (align node).args :=
  .cons_text _ _ (.append (.named _) (child_lighter node))

theorem expanded_lighter : Lighter node (expanded node).args :=
  .append (.named _) (requiredChild_lighter node)

theorem flexible_lighter : Lighter node (flexible node).args :=
  .append (.named _) (requiredChild_lighter node)

theorem positioned_lighter : Lighter node (positioned node).args :=
  .append (.named _) (requiredChild_lighter node)

theorem card_lighter : Lighter node (card node).args :=
  .append (.append (.named _) (.ofExpr? _ _)) (child_lighter node)

theorem materialButton_lighter (variant : String) : Lighter node (materialButton variant node).args := by
  refine .append (.append (.append (.cons_text _ _ .nil) (.named _)) ?_) ?_
  · split
    · exact .nil
    · exact .ofExpr? "style" (some _)
  · split
    · exact .cons_text _ _ .nil
    · exact child_lighter node

end WidgetSource.Form
