import WidgetSource.Form.Mapped
import WidgetSource.Form.Screen

namespace WidgetSource

open Dart (Expr)

def Form.ofKind (write : Expr → String) (table : Mapping.Table) (node : Node) : Kind → Form
  | .scaffold => scaffold node
  | .appBar => appBar node
  | .container => container node
  | .padding => padding node
  | .center => center node
  | .sizedBox => sizedBox node
  | .align => align node
  | .expanded => expanded node
  | .flexible => flexible node
  | .positioned => positioned node
  | .card => card node
  | .column => flex "Column" node
  | .row => flex "Row" node
  | .stack => stack node
  | .listView => listView node
  | .gridView => gridView node
  | .wrap => wrap node
  | .text => text node
  | .icon => icon node
  | .image => image node
  | .divider => divider node
  | .listTile => listTile node
  | .button => materialButton (buttonVariant node) node
  | .elevatedButton => materialButton "ElevatedButton" node
  | .textButton => materialButton "TextButton" node
  | .outlinedButton => materialButton "OutlinedButton" node
  | .iconButton => iconButton node
  | .textField => textField node
  | .checkbox => toggle "Checkbox" node
  | .switch => toggle "Switch" node
  | .radio => radio node
  | .slider => slider node
  | .generic => mapped write table node

def Node.form (write : Expr → String) (table : Mapping.Table) (node : Node) : Form :=
  { Form.ofKind write table node node.kind with
    dropped := if dropsChildren table node.type then node.children else [] }

namespace Form

/-- All arguments of a form, also those that give way. -/
def allArgs (form : Form) : List (Argument Node) :=
  form.args ++ form.shadowed

theorem listView_shadowed (node : Node) : (listView node).shadowed = [] := by
  unfold listView
  split <;> rfl

theorem image_shadowed (node : Node) : (image node).shadowed = [] := by
  unfold image
  split <;> rfl

theorem ofKind_lighter (write : Expr → String) (table : Mapping.Table) (node : Node) (kind : Kind) :
    Lighter node (ofKind write table node kind).allArgs := by
  have plain {form : Form} (h : Lighter node form.args) (none : form.shadowed = []) : Lighter node form.allArgs :=
    .append h (none ▸ .nil)
  cases kind with
  | scaffold => exact plain (scaffold_lighter node) rfl
  | appBar => exact plain (appBar_lighter node) rfl
  | container => exact plain (container_lighter node) rfl
  | padding => exact plain (padding_lighter node) rfl
  | center => exact plain (center_lighter node) rfl
  | sizedBox => exact plain (sizedBox_lighter node) rfl
  | align => exact plain (align_lighter node) rfl
  | expanded => exact plain (expanded_lighter node) rfl
  | flexible => exact plain (flexible_lighter node) rfl
  | positioned => exact plain (positioned_lighter node) rfl
  | card => exact plain (card_lighter node) rfl
  | column | row => exact plain (flex_lighter node _) rfl
  | stack => exact plain (stack_lighter node) rfl
  | listView => exact plain (listView_lighter node) (listView_shadowed node)
  | gridView => exact plain (gridView_lighter node) rfl
  | wrap => exact plain (wrap_lighter node) rfl
  | text => exact plain (text_lighter node) rfl
  | icon => exact plain (icon_lighter node) rfl
  | image => exact plain (image_lighter node) (image_shadowed node)
  | divider => exact plain (divider_lighter node) rfl
  | listTile => exact plain (listTile_lighter node) rfl
  | button | elevatedButton | textButton | outlinedButton => exact plain (materialButton_lighter node _) rfl
  | iconButton => exact plain (iconButton_lighter node) rfl
  | textField => exact plain (textField_lighter node) rfl
  | checkbox | switch => exact plain (toggle_lighter node _) rfl
  | radio => exact plain (radio_lighter node) rfl
  | slider => exact plain (slider_lighter node) rfl
  | generic => exact mapped_lighter write table node

end Form

theorem Node.form_lighter (write : Expr → String) (table : Mapping.Table) (node : Node) :
    Lighter node (node.form write table).allArgs := by
  simp only [Node.form, Form.allArgs]
  exact Form.ofKind_lighter write table node node.kind

end WidgetSource
