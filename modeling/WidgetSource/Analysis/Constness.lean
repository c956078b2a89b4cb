import WidgetSource.Mapping.Generic
import WidgetSource.Text.Search
import WidgetSource.Widget.Embedded

namespace WidgetSource

def dynamicNames : List String :=
  ["onPressed", "onChanged", "onTap", "onLongPress", "onDoubleTap", "onSubmitted", "onEditingComplete", "onSaved",
    "controller", "focusNode", "itemBuilder", "transform"]

def isAsciiCapital (c : Char) : Bool :=
  'A' ≤ c && c ≤ 'Z'

/-- A name that handles an event: `on` and a capital. -/
def isHandlerName (name : String) : Bool :=
  match name.toList with
  | 'o' :: 'n' :: c :: _ => isAsciiCapital c
  | _ => false

def isDynamicName (name : String) : Bool :=
  dynamicNames.contains name || isHandlerName name

def buttonStyleNames : List String :=
  ["backgroundColor", "foregroundColor", "padding"]

namespace Node

def hasDynamicProperty (node : Node) : Bool :=
  node.properties.any fun (name, value) => !value.isNull && isDynamicName name

/-- What keeps a widget of its kind from being constant: a factory as constructor, a translation, a button style, or
a slot of a scaffold that is filled from plain properties. -/
def blocksConst (table : Mapping.Table) (node : Node) : Bool :=
  match node.kind with
  | .generic => (genericTarget table node.type).toList.contains '.'
  | .text => (node.property? "useTranslation").any (·.isTruthy)
  | .button | .elevatedButton | .textButton | .outlinedButton => buttonStyleNames.any node.hasProperty
  | .scaffold => ["appBar", "floatingActionButton"].any fun name => ((node.property? name).bind Value.map?).isSome
  | _ => false

def isLocallyConst (table : Mapping.Table) (node : Node) : Bool :=
  node.kind.hasConstConstructor && !node.blocksConst table && !node.hasDynamicProperty

def canBeConst (table : Mapping.Table) (node : Node) : Bool :=
  node.isLocallyConst table &&
    (node.embedded.attach.all fun ⟨widget, _⟩ => widget.canBeConst table) &&
    node.children.attach.all fun ⟨child, _⟩ => child.canBeConst table
termination_by node.weight
decreasing_by
  · exact embedded_weight ‹_›
  · exact child_weight ‹_›

/-- Whether a widget can be constant but for its children. -/
def allowsConst (table : Mapping.Table) (node : Node) : Bool :=
  node.isLocallyConst table && node.embedded.all (·.canBeConst table)

def isConstEligible (useConst : Bool) (table : Mapping.Table) (node : Node) : Bool :=
  useConst && node.canBeConst table

section

variable {table : Mapping.Table} {node : Node}

theorem blocksConst_of_generic (isGeneric : node.kind = .generic) :
    node.blocksConst table = (genericTarget table node.type).toList.contains '.' := by
  unfold blocksConst
  rw [isGeneric]

theorem blocksConst_of_text (isText : node.kind = .text) :
    node.blocksConst table = (node.property? "useTranslation").any (·.isTruthy) := by
  unfold blocksConst
  rw [isText]

theorem blocksConst_of_button (isButton : node.kind = .button ∨ node.kind = .elevatedButton ∨
    node.kind = .textButton ∨ node.kind = .outlinedButton) :
    node.blocksConst table = buttonStyleNames.any node.hasProperty := by
  unfold blocksConst
  rcases isButton with kind | kind | kind | kind <;> rw [kind]

theorem blocksConst_of_scaffold (isScaffold : node.kind = .scaffold) : node.blocksConst table =
    ["appBar", "floatingActionButton"].any fun name => ((node.property? name).bind Value.map?).isSome := by
  unfold blocksConst
  rw [isScaffold]

theorem not_const_of_blocks (blocks : node.blocksConst table = true) : node.isLocallyConst table = false := by
  simp [isLocallyConst, blocks]

end

theorem canBeConst_eq (table : Mapping.Table) (node : Node) :
    node.canBeConst table = (node.allowsConst table && node.children.all (·.canBeConst table)) := by
  conv => lhs; unfold canBeConst
  simp only [allowsConst, List.all_subtype, List.unattach_attach]

end Node

end WidgetSource
