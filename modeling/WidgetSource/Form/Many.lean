import WidgetSource.Dart.Insets
import WidgetSource.Form.Basic

namespace WidgetSource.Form

open Dart (Expr)

def children (node : Node) : List (Argument Node) :=
  Node.childList node.children

def flex (target : String) (node : Node) : Form :=
  { target
    args :=
      node.named [
        ("mainAxisAlignment", .word Dart.mainAxisAlignments), ("crossAxisAlignment", .word Dart.crossAxisAlignments),
        ("mainAxisSize", .word Dart.mainAxisSizes)] ++
      children node }

def stack (node : Node) : Form :=
  { target := "Stack"
    args := node.named [("alignment", .word Dart.alignments), ("fit", .word Dart.stackFits)] ++ children node }

def scrolling : List (String × Writer) := [
  ("scrollDirection", .word Dart.axes), ("padding", .always Dart.insetsOf), ("shrinkWrap", Dart.boolOf?),
  ("physics", .word Dart.scrollPhysics)]

def itemBuilder : String := "(context, index) => const SizedBox.shrink()"

/-- A list of the children; without any it may be built from a number of items. -/
def listView (node : Node) : Form :=
  match node.isLeaf, node.written? "itemCount" Dart.integerOf? with
  | true, some count =>
    { target := "ListView.builder"
      args := node.named scrolling ++ [.text "itemCount" count, .text "itemBuilder" itemBuilder] }
  | _, _ => { target := "ListView", args := node.named scrolling ++ children node }

def defaultColumns : String := "2"

def gridDelegate (node : Node) : Expr :=
  let columns := (node.written? "crossAxisCount" Dart.integerOf?).getD defaultColumns
  let spacing := ["mainAxisSpacing", "crossAxisSpacing", "childAspectRatio"].map fun name => (name, Dart.doubleOf?)
  .ofArgs "SliverGridDelegateWithFixedCrossAxisCount" (("crossAxisCount", .text columns) :: node.fields spacing)

def gridView (node : Node) : Form :=
  { target := "GridView"
    args := Argument.ofExpr? "gridDelegate" (gridDelegate node) ++ node.named scrolling ++ children node }

def wrap (node : Node) : Form :=
  { target := "Wrap"
    args :=
      node.named [
        ("direction", .word Dart.axes), ("alignment", .word Dart.wrapAlignments), ("spacing", Dart.doubleOf?),
        ("runSpacing", Dart.doubleOf?)] ++
      children node }

variable (node : Node)

theorem children_lighter : Lighter node (children node) :=
  .childList fun _ => Node.child_weight

theorem flex_lighter (target : String) : Lighter node (flex target node).args :=
  .append (.named _) (children_lighter node)

theorem stack_lighter : Lighter node (stack node).args :=
  .append (.named _) (children_lighter node)

theorem listView_lighter : Lighter node (listView node).args := by
  unfold listView
  split
  · exact .append (.named _) (.cons_text _ _ (.cons_text _ _ .nil))
  · exact .append (.named _) (children_lighter node)

theorem gridView_lighter : Lighter node (gridView node).args :=
  .append (.append (.ofExpr? _ _) (.named _)) (children_lighter node)

theorem wrap_lighter : Lighter node (wrap node).args :=
  .append (.named _) (children_lighter node)

end WidgetSource.Form
