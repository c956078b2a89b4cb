import WidgetSource.Widget.Node
import Mathlib.Algebra.Ring.Nat
import Mathlib.Data.List.Nodup

namespace WidgetSource

namespace Fields

variable {α : Type} {name other : String} {a : α} {fields : Fields α}

def Ascending (fields : Fields α) : Prop :=
  (names fields).Pairwise (· < ·)

theorem Ascending.nil : Ascending ([] : Fields α) :=
  List.Pairwise.nil

theorem Ascending.nodup (ascending : fields.Ascending) : (names fields).Nodup := by
  apply ascending.imp
  intro first second before same
  exact String.lt_irrefl second (same ▸ before)

theorem get?_eq_none (missing : name ∉ names fields) : get? name fields = none := by
  induction fields with
  | nil => rfl
  | cons field rest ih =>
    obtain ⟨first, b⟩ := field
    simp only [names, List.map_cons, List.mem_cons, not_or] at missing
    rw [get?, if_neg (Ne.symm missing.1)]
    exact ih missing.2

theorem get?_insertSorted :
    get? other (insertSorted name a fields) = if name = other then some a else get? other fields := by
  induction fields with
  | nil => simp [insertSorted, get?]
  | cons field rest ih =>
    obtain ⟨first, b⟩ := field
    rw [insertSorted]
    split
    · rw [get?]
    · split
      · rename_i same
        subst same
        by_cases here : first = other <;> simp [get?, here]
      · rename_i different
        rw [get?, get?, ih]
        by_cases here : first = other
        · rw [if_pos here, if_pos here, if_neg]
          exact fun same => different (here.trans same.symm)
        · rw [if_neg here, if_neg here]

theorem mem_names_insertSorted : other ∈ names (insertSorted name a fields) ↔ other = name ∨ other ∈ names fields := by
  induction fields with
  | nil => simp [insertSorted, names]
  | cons field rest ih =>
    obtain ⟨first, b⟩ := field
    simp only [names] at ih ⊢
    simp only [insertSorted]
    split
    · simp
    · split
      · rename_i same
        simp [same]
      · rw [List.map_cons, List.map_cons, List.mem_cons, List.mem_cons, ih]
        exact or_left_comm

theorem insertSorted_ascending (ascending : fields.Ascending) : (insertSorted name a fields).Ascending := by
  induction fields with
  | nil => exact List.pairwise_singleton (· < ·) name
  | cons field rest ih =>
    obtain ⟨first, b⟩ := field
    obtain ⟨above, later⟩ := List.pairwise_cons.mp ascending
    rw [insertSorted]
    split
    · rename_i before
      refine List.pairwise_cons.mpr ⟨fun other member => ?_, ascending⟩
      rcases List.mem_cons.mp member with rfl | member
      · exact before
      · exact String.lt_trans before (above other member)
    · split
      · exact ascending
      · rename_i notBefore different
        refine List.pairwise_cons.mpr ⟨fun other member => ?_, ih later⟩
        rcases mem_names_insertSorted.mp member with rfl | member
        · exact Std.lt_of_le_of_ne (String.not_lt.mp notBefore) different
        · exact above other member

theorem mem_names_set : other ∈ names (set name a fields) ↔ other = name ∨ other ∈ names fields := by
  induction fields with
  | nil => simp [set, names]
  | cons field rest ih =>
    obtain ⟨first, b⟩ := field
    simp only [names] at ih ⊢
    simp only [set]
    split
    · rename_i same
      simp [same]
    · rw [List.map_cons, List.map_cons, List.mem_cons, List.mem_cons, ih]
      exact or_left_comm

theorem set_nodup (once : (names fields).Nodup) : (names (set name a fields)).Nodup := by
  induction fields with
  | nil => simp [set, names]
  | cons field rest ih =>
    obtain ⟨first, b⟩ := field
    obtain ⟨apart, later⟩ := List.nodup_cons.mp once
    rw [set]
    split
    · exact once
    · rename_i different
      refine List.nodup_cons.mpr ⟨fun member => ?_, ih later⟩
      rcases mem_names_set.mp member with same | member
      · exact different same
      · exact apart member

end Fields

mutual

/-- The widgets of a tree, those below a widget before it. -/
def Node.tree : Node → List Node
  | ⟨id, type, properties, children⟩ => treeAll children ++ [⟨id, type, properties, children⟩]

def treeAll : List Node → List Node
  | [] => []
  | node :: nodes => node.tree ++ treeAll nodes

end

theorem treeAll_eq (nodes : List Node) : treeAll nodes = nodes.flatMap Node.tree := by
  induction nodes with
  | nil => rfl
  | cons node nodes ih => rw [treeAll, ih, List.flatMap_cons]

mutual

theorem Node.tree_length : ∀ node : Node, node.tree.length = node.count
  | ⟨id, type, properties, children⟩ => by
    rw [Node.tree, List.length_append, treeAll_length children, Node.count, Nat.add_comm, List.length_singleton]

theorem treeAll_length : ∀ nodes : List Node, (treeAll nodes).length = Node.countAll nodes
  | [] => rfl
  | node :: nodes => by
    rw [treeAll, List.length_append, Node.tree_length node, treeAll_length nodes, Node.countAll]

end

theorem treeAll_length_eq_sum (nodes : List Node) : (treeAll nodes).length = (nodes.map Node.count).sum := by
  simp only [treeAll_eq, List.length_flatMap, Node.tree_length]

namespace Node

/-- No widget of a tree has two properties of one name. -/
def NamesOnce (root : Node) : Prop :=
  ∀ node ∈ root.tree, (Fields.names node.properties).Nodup

variable {root : Node}

theorem namesOnce_iff :
    root.NamesOnce ↔ (Fields.names root.properties).Nodup ∧ ∀ child ∈ root.children, child.NamesOnce := by
  obtain ⟨id, type, properties, children⟩ := root
  simp only [NamesOnce, tree, treeAll_eq, List.mem_append, List.mem_flatMap, List.mem_singleton]
  constructor
  · intro once
    exact ⟨once _ (.inr rfl), fun child member node inside => once node (.inl ⟨child, member, inside⟩)⟩
  · rintro ⟨here, below⟩ node (⟨child, member, inside⟩ | rfl)
    · exact below child member node inside
    · exact here

theorem ofType_namesOnce (type : String) : (ofType type).NamesOnce :=
  namesOnce_iff.mpr ⟨List.nodup_nil, fun _ none => absurd none List.not_mem_nil⟩

theorem NamesOnce.withProperty (once : root.NamesOnce) (name : String) (value : Value) :
    (root.withProperty name value).NamesOnce :=
  have ⟨here, below⟩ := namesOnce_iff.mp once
  namesOnce_iff.mpr ⟨Fields.set_nodup here, below⟩

theorem NamesOnce.withChild {child : Node} (once : root.NamesOnce) (childOnce : child.NamesOnce) :
    (root.withChild child).NamesOnce := by
  obtain ⟨here, below⟩ := namesOnce_iff.mp once
  refine namesOnce_iff.mpr ⟨here, fun node member => ?_⟩
  rcases List.mem_append.mp member with before | last
  · exact below node before
  · exact List.mem_singleton.mp last ▸ childOnce

end Node

namespace Json

mutual

def Document.Sorted : Document → Prop
  | .list items => SortedItems items
  | .object fields => Fields.Ascending fields ∧ SortedFields fields
  | _ => True

def SortedItems : List Document → Prop
  | [] => True
  | item :: items => item.Sorted ∧ SortedItems items

def SortedFields : List (String × Document) → Prop
  | [] => True
  | (_, value) :: fields => value.Sorted ∧ SortedFields fields

end

theorem SortedFields.insertSorted {name : String} {value : Document} (sorted : value.Sorted) {fields : Fields Document}
    (rest : SortedFields fields) : SortedFields (Fields.insertSorted name value fields) := by
  induction fields with
  | nil => exact ⟨sorted, trivial⟩
  | cons field fields ih =>
    obtain ⟨first, other⟩ := field
    rw [Fields.insertSorted]
    split
    · exact ⟨sorted, rest⟩
    · split
      · exact ⟨sorted, rest.2⟩
      · exact ⟨rest.1, ih rest.2⟩

theorem SortedFields.get? {name : String} {value : Document} {fields : Fields Document} (sorted : SortedFields fields)
    (found : Fields.get? name fields = some value) : value.Sorted := by
  induction fields with
  | nil => cases found
  | cons field fields ih =>
    obtain ⟨first, other⟩ := field
    rw [Fields.get?] at found
    split at found
    · exact Option.some.inj found ▸ sorted.1
    · exact ih sorted.2 found

mutual

theorem Draft.document_sorted {room : Nat} {document : Document} :
    ∀ draft : Draft, draft.document room = .ok document → document.Sorted
  | .scalar scalar, read => by
    cases scalar <;> simp only [Draft.document, Except.ok.injEq, reduceCtorEq] at read <;> subst read <;> trivial
  | .broken stop, read => by cases read
  | .list items stop, read => by
    cases room with
    | zero => cases read
    | succ room =>
      simp only [Draft.document] at read
      split at read
      · cases read
      · cases read
      · rename_i values readItems
        cases read
        exact documentItems_sorted items readItems
  | .object fields stop, read => by
    cases room with
    | zero => cases read
    | succ room =>
      simp only [Draft.document] at read
      split at read
      · cases read
      · cases read
      · rename_i values readFields
        cases read
        exact documentFields_sorted fields Fields.Ascending.nil trivial readFields

theorem documentItems_sorted {room : Nat} {values : List Document} :
    ∀ items : List Draft, documentItems room items = .ok values → SortedItems values
  | [], read => by
    cases read
    trivial
  | item :: items, read => by
    rw [documentItems] at read
    split at read
    · cases read
    · rename_i value readItem
      cases readRest : documentItems room items with
      | error cause =>
        rw [readRest] at read
        cases read
      | ok rest =>
        rw [readRest] at read
        cases read
        exact ⟨Draft.document_sorted item readItem, documentItems_sorted items readRest⟩

theorem documentFields_sorted {room : Nat} {done values : Fields Document} :
    ∀ fields : List (Key × Draft), done.Ascending → SortedFields done → documentFields room done fields = .ok values →
      values.Ascending ∧ SortedFields values
  | [], ascending, sorted, read => by
    cases read
    exact ⟨ascending, sorted⟩
  | (.refused, _) :: _, _, _, read => by cases read
  | (.broken stop, _) :: _, _, _, read => by cases read
  | (.text name, draft) :: fields, ascending, sorted, read => by
    rw [documentFields] at read
    split at read
    · cases read
    · rename_i value readValue
      exact documentFields_sorted fields (Fields.insertSorted_ascending ascending)
        (SortedFields.insertSorted (Draft.document_sorted draft readValue) sorted) read

end

theorem names_valueFields (fields : Fields Document) : Fields.names (valueFields fields) = Fields.names fields := by
  induction fields with
  | nil => rfl
  | cons field fields ih => exact congrArg (field.1 :: ·) ih

theorem propertiesIn_nodup {fields : Fields Document} (sorted : SortedFields fields) :
    (Fields.names (propertiesIn fields)).Nodup := by
  unfold propertiesIn
  split
  · rename_i properties found
    rw [names_valueFields]
    exact (sorted.get? found).1.nodup
  · exact List.nodup_nil

mutual

theorem Document.node_namesOnce : ∀ document : Document, document.Sorted → document.node.NamesOnce
  | .object fields, sorted => Node.namesOnce_iff.mpr ⟨propertiesIn_nodup sorted.2, childrenIn_namesOnce fields sorted.2⟩
  | .null, _ | .bool _, _ | .number _, _ | .text _, _ | .list _, _ => Node.ofType_namesOnce _

theorem childrenIn_namesOnce :
    ∀ fields : List (String × Document), SortedFields fields → ∀ child ∈ childrenIn fields, child.NamesOnce
  | [], _ => fun _ none => absurd none List.not_mem_nil
  | (name, value) :: fields, sorted => by
    rw [childrenIn]
    split
    · exact value.nodes_namesOnce sorted.1
    · exact childrenIn_namesOnce fields sorted.2

theorem Document.nodes_namesOnce : ∀ document : Document, document.Sorted → ∀ node ∈ document.nodes, node.NamesOnce
  | .list items, sorted => nodesOfItems_namesOnce items sorted
  | .null, _ | .bool _, _ | .number _, _ | .text _, _ | .object _, _ => fun _ none => absurd none List.not_mem_nil

theorem nodesOfItems_namesOnce : ∀ items : List Document, SortedItems items → ∀ node ∈ nodesOfItems items, node.NamesOnce
  | [], _ => fun _ none => absurd none List.not_mem_nil
  | item :: items, sorted => fun node member => by
    rcases List.mem_cons.mp member with rfl | later
    · exact item.node_namesOnce sorted.1
    · exact nodesOfItems_namesOnce items sorted.2 node later

end

theorem Document.ofText_sorted {room : Nat} {text : String} {document : Document}
    (read : Document.ofText room text = .ok document) : document.Sorted := by
  simp only [Document.ofText] at read
  split at read
  · cases read
  · rename_i value readRoot
    split at read
    · cases read
    · cases read
      exact Draft.document_sorted _ readRoot

end Json

/-- A tree that is read from a text has each property of a widget once. -/
theorem Node.ofText_namesOnce {text : String} {root : Node} (read : Node.ofText text = .ok root) : root.NamesOnce := by
  unfold Node.ofText at read
  cases readDocument : Json.Document.ofText Json.depthLimit text with
  | error cause =>
    rw [readDocument] at read
    cases read
  | ok document =>
    rw [readDocument] at read
    cases read
    exact document.node_namesOnce (Json.Document.ofText_sorted readDocument)

end WidgetSource
