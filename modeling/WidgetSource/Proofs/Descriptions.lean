import WidgetSource.Proofs.Places

namespace WidgetSource

namespace Node

mutual

def anonymous : Node → Node
  | ⟨_, type, properties, children⟩ => ⟨none, type, properties, anonymousAll children⟩

def anonymousAll : List Node → List Node
  | [] => []
  | node :: nodes => node.anonymous :: anonymousAll nodes

end

theorem anonymousAll_eq (nodes : List Node) : anonymousAll nodes = nodes.map anonymous := by
  induction nodes with
  | nil => rfl
  | cons node nodes ih => rw [anonymousAll, ih, List.map_cons]

theorem anonymous_eq (node : Node) :
    node.anonymous = ⟨none, node.type, node.properties, node.children.map anonymous⟩ := by
  obtain ⟨id, type, properties, children⟩ := node
  rw [anonymous, anonymousAll_eq]

end Node

namespace Json

theorem get?_valueFields (name : String) (fields : Fields Document) :
    Fields.get? name (valueFields fields) = (Fields.get? name fields).map Document.value := by
  induction fields with
  | nil => rfl
  | cons field fields ih =>
    obtain ⟨first, value⟩ := field
    rw [valueFields, Fields.get?, Fields.get?, ih]
    split <;> rfl

theorem valueItems_eq (items : List Document) : valueItems items = items.map Document.value := by
  induction items with
  | nil => rfl
  | cons item items ih => rw [valueItems, ih, List.map_cons]

theorem text?_valueFields (name : String) (fields : Fields Document) :
    (Fields.get? name (valueFields fields)).bind Value.text? = (Fields.get? name fields).bind Document.text? := by
  rw [get?_valueFields]
  rcases Fields.get? name fields with _ | document
  · rfl
  · cases document <;> rfl

theorem propertiesIn_valueFields (fields : Fields Document) :
    WidgetSource.propertiesIn (valueFields fields) = propertiesIn fields := by
  rw [WidgetSource.propertiesIn, propertiesIn, get?_valueFields]
  rcases Fields.get? "properties" fields with _ | document
  · rfl
  · cases document <;> rfl

namespace Document

variable {document : Document}

theorem childrenIn_valueFields (fields : Fields Document) :
    WidgetSource.childrenIn (valueFields fields) = (childItems (.object fields)).map fun item => item.value.node := by
  rw [WidgetSource.childrenIn_eq, get?_valueFields, childItems]
  rcases Fields.get? "children" fields with _ | children
  · rfl
  · cases children with
    | list items =>
      show WidgetSource.nodesOfItems (valueItems items) = _
      rw [nodesOfItems_eq, valueItems_eq, List.map_map]
      rfl
    | null | bool | number | text | object => rfl

theorem value_node_eq (fields : Fields Document) : (object fields).value.node = { (object fields).node with
      id := (Fields.get? "id" fields).bind text?
      children := (object fields).childItems.map fun item => item.value.node } := by
  rw [value, Value.node, text?_valueFields, text?_valueFields, propertiesIn_valueFields, childrenIn_valueFields]
  rfl

theorem value_anonymous (document : Document) : document.value.node.anonymous = document.node.anonymous := by
  induction document using induct with
  | step document ih =>
    cases document with
    | object fields =>
      rw [Node.anonymous_eq, Node.anonymous_eq (object fields).node, value_node_eq, node_children]
      dsimp only
      rw [List.map_map, List.map_map]
      exact congrArg _ (List.map_congr_left ih)
    | null | bool | number | text | list => rfl

theorem identifier?_eq_text?_iff (id : Option Document) :
    id.bind text? = id.bind identifier? ↔ ∀ n, id ≠ some (.number n) := by
  rcases id with _ | document
  · simp
  · cases document <;> simp [text?, identifier?]

theorem forall_at?_iff {P : Document → Prop} : (∀ path item, document.at? path = some item → P item) ↔
    P document ∧ ∀ child ∈ document.childItems, ∀ path item, child.at? path = some item → P item := by
  constructor
  · intro each
    refine ⟨each [] document rfl, fun child member path item found => ?_⟩
    obtain ⟨index, here⟩ := List.mem_iff_getElem?.mp member
    refine each (index :: path) item ?_
    rw [at?, here]
    exact found
  · rintro ⟨here, below⟩ path item found
    cases path with
    | nil =>
      cases found
      exact here
    | cons index path =>
      obtain ⟨child, member, inside⟩ := Option.bind_eq_some_iff.mp found
      exact below child (List.mem_of_getElem? member) path item inside

theorem value_node_eq_node_iff (document : Document) : document.value.node = document.node ↔
    ∀ path item, document.at? path = some item → ∀ n, item.field? "id" ≠ some (.number n) := by
  induction document using induct with
  | step document ih =>
    rw [forall_at?_iff (P := fun item => ∀ n, item.field? "id" ≠ some (.number n))]
    cases document with
    | object fields =>
      have parts : (object fields).value.node = (object fields).node ↔
          (Fields.get? "id" fields).bind text? = (Fields.get? "id" fields).bind identifier? ∧
            ∀ item ∈ (object fields).childItems, item.value.node = item.node := by
        rw [value_node_eq, ← List.map_inj_left, ← node_children]
        simp [node]
      rw [parts, identifier?_eq_text?_iff]
      exact and_congr Iff.rfl (forall₂_congr ih)
    | null | bool | number | text | list => simp [value, Value.node, node, field?, childItems]

theorem widget?_value {type : String} (typed : document.field? "type" = some (.text type)) :
    document.value.widget? = some document.value.node := by
  cases document with
  | object fields =>
    have found : Fields.get? "type" (valueFields fields) = some (.text type) := by
      rw [get?_valueFields, show Fields.get? "type" fields = some (.text type) from typed]
      rfl
    rw [value, Value.widget?, Value.field?, found]
  | null | bool | number | text | list => cases typed

/-- A document of a widget with a type describes, as a value, the widget that it is in a tree, exactly if no widget of
it has a number as its identifier. But for the identifiers it always does. -/
theorem widget?_eq_node_iff (document : Document) {type : String}
    (typed : document.field? "type" = some (.text type)) :
    document.value.widget?.map Node.anonymous = some document.node.anonymous ∧
      (document.value.widget? = some document.node ↔
        ∀ path item, document.at? path = some item → ∀ n, item.field? "id" ≠ some (.number n)) := by
  rw [widget?_value typed]
  constructor
  · rw [Option.map_some, value_anonymous]
  · rw [Option.some.injEq]
    exact value_node_eq_node_iff document

def namedRow : Document :=
  .object [("children", .list [.object [("id", .text "a")], .null]), ("type", .text "row")]

theorem namedRow_described : namedRow.field? "type" = some (.text "row") ∧
    namedRow.value.widget?.map Node.anonymous = some namedRow.node.anonymous ∧
    (namedRow.value.widget? = some namedRow.node ↔
      ∀ path item, namedRow.at? path = some item → ∀ n, item.field? "id" ≠ some (.number n)) :=
  have typed : namedRow.field? "type" = some (.text "row") := rfl
  ⟨typed, widget?_eq_node_iff namedRow typed⟩

def numberedIcon : Document :=
  .object [("id", .number (.integer 7)), ("type", .text "icon")]

theorem numberedIcon_differs : numberedIcon.field? "type" = some (.text "icon") ∧
    numberedIcon.value.widget? ≠ some numberedIcon.node := by
  refine ⟨rfl, fun same => ?_⟩
  have id : (none : Option String) = some (Numeral.integer 7).print := congrArg Node.id (Option.some.inj same)
  cases id

end Document

end Json

end WidgetSource
