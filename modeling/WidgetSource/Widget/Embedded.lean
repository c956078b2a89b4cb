import WidgetSource.Widget.Node

namespace WidgetSource

/-- Names of properties whose values are never widgets, whatever fields they have. -/
def valueNames : List String :=
  ["padding", "margin", "decoration", "border", "borderRadius", "boxShadow", "gradient", "constraints", "transform"]

def isValueName (name : String) : Bool :=
  valueNames.contains name

def Value.widgets : Value → List Node
  | .list items => items.filterMap Value.widget?
  | value => value.widget?.toList

def Node.embedded (node : Node) : List Node :=
  node.properties.flatMap fun (name, value) => if isValueName name then [] else value.widgets

/-- The app bar that a value describes: a widget, or the properties of an app bar. -/
def Value.appBar? (value : Value) : Option Node :=
  match value.widget?, value with
  | some widget, _ => some widget
  | none, .map properties => some ⟨none, "AppBar", properties, []⟩
  | none, _ => none

theorem Node.ofType_weight (type : String) : (Node.ofType type).weight = 1 := by
  simp [Node.ofType, Node.weight, Value.fieldsWeight, Node.weightAll]

theorem fieldsWeight_le_of_get? {name : String} {fields : Fields Value} {value : Value}
    (h : Fields.get? name fields = some value) : value.weight ≤ Value.fieldsWeight fields := by
  induction fields with
  | nil => simp [Fields.get?] at h
  | cons field fields ih =>
    obtain ⟨n, v⟩ := field
    simp only [Fields.get?] at h
    simp only [Value.fieldsWeight]
    split at h
    · simp only [Option.some.injEq] at h
      rw [h]
      omega
    · have := ih h
      omega

theorem propertiesIn_weight (fields : Fields Value) :
    Value.fieldsWeight (propertiesIn fields) ≤ Value.fieldsWeight fields := by
  unfold propertiesIn
  split
  · rename_i found
    have := fieldsWeight_le_of_get? found
    simp only [Value.weight] at this
    omega
  · simp [Value.fieldsWeight]

theorem propertiesIn_cons_of_ne {name : String} (h : name ≠ "properties") (value : Value) (fields : Fields Value) :
    propertiesIn ((name, value) :: fields) = propertiesIn fields := by
  simp [propertiesIn, Fields.get?, h]

mutual

theorem Value.node_weight : ∀ value : Value, value.node.weight ≤ value.weight
  | .map fields => by
    have := childrenIn_weight fields
    simp only [Value.node, Node.weight, Value.weight]
    omega
  | .null | .bool _ | .number _ | .text _ | .list _ => by
    simp only [Value.node, Node.ofType_weight]
    exact Value.weight_pos _

theorem childrenIn_weight : ∀ fields : List (String × Value),
    Value.fieldsWeight (propertiesIn fields) + Node.weightAll (childrenIn fields) ≤ Value.fieldsWeight fields
  | [] => by simp [propertiesIn, Fields.get?, childrenIn, Value.fieldsWeight, Node.weightAll]
  | (name, value) :: fields => by
    simp only [childrenIn, Value.fieldsWeight]
    by_cases isChildren : name = "children"
    · have inside := Value.nodes_weight value
      have other := propertiesIn_weight fields
      rw [propertiesIn_cons_of_ne (by simp [isChildren]), if_pos isChildren]
      omega
    · rw [if_neg isChildren]
      have rest := childrenIn_weight fields
      by_cases isProperties : name = "properties"
      · have : Value.fieldsWeight (propertiesIn ((name, value) :: fields)) ≤ value.weight := by
          cases value <;> simp [propertiesIn, Fields.get?, isProperties, Value.fieldsWeight, Value.weight]
        omega
      · rw [propertiesIn_cons_of_ne isProperties]
        omega

theorem Value.nodes_weight : ∀ value : Value, Node.weightAll value.nodes ≤ value.weight
  | .list items => by
    have := nodesOfItems_weight items
    simp only [Value.nodes, Value.weight]
    omega
  | .null | .bool _ | .number _ | .text _ | .map _ => by simp [Value.nodes, Node.weightAll]

theorem nodesOfItems_weight : ∀ items : List Value, Node.weightAll (nodesOfItems items) ≤ Value.itemsWeight items
  | [] => by simp [nodesOfItems, Node.weightAll]
  | item :: items => by
    have := Value.node_weight item
    have := nodesOfItems_weight items
    simp only [nodesOfItems, Node.weightAll, Value.itemsWeight]
    omega

end

theorem Value.widget?_weight {value : Value} {node : Node} (h : value.widget? = some node) :
    node.weight ≤ value.weight := by
  unfold Value.widget? at h
  split at h
  · simp only [Option.some.injEq] at h
    exact h ▸ value.node_weight
  · simp at h

theorem Value.widgets_weight {value : Value} {node : Node} (h : node ∈ value.widgets) : node.weight ≤ value.weight := by
  unfold Value.widgets at h
  split at h
  · obtain ⟨item, member, found⟩ := List.mem_filterMap.mp h
    have := Value.widget?_weight found
    have := Value.weight_le_itemsWeight member
    simp only [Value.weight]
    omega
  · exact Value.widget?_weight (by simpa using h)

theorem Value.appBar?_weight {value : Value} {node : Node} (h : value.appBar? = some node) :
    node.weight ≤ value.weight := by
  unfold Value.appBar? at h
  split at h
  · rename_i found
    exact Value.widget?_weight (found.trans h)
  · simp only [Option.some.injEq] at h
    simp [← h, Node.weight, Node.weightAll, Value.weight]
  · simp at h

theorem Fields.mem_of_get? {α : Type} {name : String} {fields : Fields α} {a : α}
    (h : Fields.get? name fields = some a) : (name, a) ∈ fields := by
  induction fields with
  | nil => simp [Fields.get?] at h
  | cons field fields ih =>
    obtain ⟨n, b⟩ := field
    simp only [Fields.get?] at h
    split at h
    · rename_i same
      simp only [Option.some.injEq] at h
      simp [same, h]
    · exact List.mem_cons_of_mem _ (ih h)

theorem Node.property?_weight {node : Node} {name : String} {value : Value} (h : node.property? name = some value) :
    value.weight < node.weight :=
  Node.value_weight (Fields.mem_of_get? (Option.filter_eq_some_iff.mp h).1)

theorem Node.embedded_weight {node widget : Node} (h : widget ∈ node.embedded) : widget.weight < node.weight := by
  obtain ⟨⟨name, value⟩, member, inside⟩ := List.mem_flatMap.mp h
  simp only at inside
  split at inside
  · simp at inside
  · exact Nat.lt_of_le_of_lt (Value.widgets_weight inside) (Node.value_weight member)

end WidgetSource
