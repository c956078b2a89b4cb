import WidgetSource.Text.Words
import WidgetSource.Widget.Value

/-!
# Widgets

A tree of widgets, and how trees are read: from a document, or from a property value that describes a widget. Reading
never fails; what has no place in a widget is left out.
-/
namespace WidgetSource

structure Node where
  id : Option String
  type : String
  properties : List (String × Value)
  children : List Node

def defaultType : String := "Container"

def typeOrDefault (type : String) : String :=
  if Text.isBlank type then defaultType else type

/-- The spelling under which types are compared: words in lower case, joined. -/
def normalizeType (type : String) : String :=
  String.ofList (Text.flatCase (Text.trimChars type.toList))

namespace Node

def ofType (type : String) : Node := ⟨none, typeOrDefault type, [], []⟩

instance : Inhabited Node := ⟨ofType defaultType⟩

def withId (id : String) (node : Node) : Node := { node with id := some id }

def withProperty (name : String) (value : Value) (node : Node) : Node :=
  { node with properties := Fields.set name value node.properties }

def withChild (node child : Node) : Node := { node with children := node.children ++ [child] }

def property? (name : String) (node : Node) : Option Value :=
  (Fields.get? name node.properties).filter (!·.isNull)

def hasProperty (name : String) (node : Node) : Bool :=
  (node.property? name).isSome

def normalizedType (node : Node) : String :=
  normalizeType node.type

def isLeaf (node : Node) : Bool :=
  node.children.isEmpty

mutual

def count : Node → Nat
  | ⟨_, _, _, children⟩ => 1 + countAll children

def countAll : List Node → Nat
  | [] => 0
  | node :: nodes => node.count + countAll nodes

end

mutual

def depth : Node → Nat
  | ⟨_, _, _, children⟩ => depthBelow children

def depthBelow : List Node → Nat
  | [] => 0
  | node :: nodes => max (node.depth + 1) (depthBelow nodes)

end

mutual

/-- How many widgets and values a tree consists of. A widget that is described by a property value of a widget weighs
less than the widget. -/
def weight : Node → Nat
  | ⟨_, _, properties, children⟩ => 1 + Value.fieldsWeight properties + weightAll children

def weightAll : List Node → Nat
  | [] => 0
  | node :: nodes => node.weight + weightAll nodes

end

theorem weight_le_weightAll {node : Node} {nodes : List Node} (h : node ∈ nodes) :
    node.weight ≤ weightAll nodes := by
  induction nodes with
  | nil => simp at h
  | cons first nodes ih =>
    simp only [weightAll]
    rcases List.mem_cons.mp h with rfl | later
    · omega
    · have := ih later
      omega

theorem child_weight {child node : Node} (h : child ∈ node.children) : child.weight < node.weight := by
  have := weight_le_weightAll h
  cases node
  simp only [weight] at *
  omega

theorem value_weight {name : String} {value : Value} {node : Node} (h : (name, value) ∈ node.properties) :
    value.weight < node.weight := by
  have := Value.weight_le_fieldsWeight h
  cases node
  simp only [weight] at *
  omega

end Node

def propertiesIn (fields : Fields Value) : Fields Value :=
  match Fields.get? "properties" fields with
  | some (.map properties) => properties
  | _ => []

mutual

def Value.node : Value → Node
  | .map fields =>
    { id := (Fields.get? "id" fields).bind Value.text?
      type := typeOrDefault (((Fields.get? "type" fields).bind Value.text?).getD "")
      properties := propertiesIn fields
      children := childrenIn fields }
  | _ => Node.ofType defaultType

def childrenIn : List (String × Value) → List Node
  | [] => []
  | (name, value) :: fields => if name = "children" then value.nodes else childrenIn fields

def Value.nodes : Value → List Node
  | .list items => nodesOfItems items
  | _ => []

def nodesOfItems : List Value → List Node
  | [] => []
  | item :: items => item.node :: nodesOfItems items

end

theorem childrenIn_eq (fields : Fields Value) :
    childrenIn fields = ((Fields.get? "children" fields).map Value.nodes).getD [] := by
  induction fields with
  | nil => rfl
  | cons field fields ih =>
    obtain ⟨name, value⟩ := field
    rw [childrenIn, Fields.get?, ih]
    split <;> rfl

theorem nodesOfItems_eq (items : List Value) : nodesOfItems items = items.map Value.node := by
  induction items with
  | nil => rfl
  | cons item items ih => rw [nodesOfItems, ih, List.map_cons]

/-- The widget that a value describes: a map whose type is a text. -/
def Value.widget? (value : Value) : Option Node :=
  match value.field? "type" with
  | some (.text _) => some value.node
  | _ => none

def Json.propertiesIn (fields : Fields Json.Document) : Fields Value :=
  match Fields.get? "properties" fields with
  | some (.object properties) => Json.valueFields properties
  | _ => []

def Json.Document.identifier? : Json.Document → Option String
  | .text s => some s
  | .number n => some n.print
  | _ => none

mutual

/-- The widget tree of a document. Anything but an object is a widget of the default type. -/
def Json.Document.node : Json.Document → Node
  | .object fields =>
    { id := (Fields.get? "id" fields).bind Json.Document.identifier?
      type := typeOrDefault (((Fields.get? "type" fields).bind Json.Document.text?).getD "")
      properties := Json.propertiesIn fields
      children := Json.childrenIn fields }
  | _ => Node.ofType defaultType

def Json.childrenIn : List (String × Json.Document) → List Node
  | [] => []
  | (name, value) :: fields => if name = "children" then value.nodes else Json.childrenIn fields

def Json.Document.nodes : Json.Document → List Node
  | .list items => Json.nodesOfItems items
  | _ => []

def Json.nodesOfItems : List Json.Document → List Node
  | [] => []
  | item :: items => item.node :: Json.nodesOfItems items

end

def Node.ofText (text : String) : Except Json.Cause Node :=
  (Json.Document.ofText Json.depthLimit text).map (·.node)

end WidgetSource
