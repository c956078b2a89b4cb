import WidgetSource.Analysis.Diagnosis
import WidgetSource.Proofs.Digits
import WidgetSource.Proofs.Literals
import WidgetSource.Proofs.Occurrences
import Mathlib.Data.List.Basic

namespace WidgetSource

namespace TreePath

def stepMark : List Char :=
  ".children[".toList

def readStep? (text : List Char) : Option (Nat × List Char) :=
  match Text.afterPrefix? stepMark text with
  | none => none
  | some rest =>
    match rest.takeWhile isDigit, rest.dropWhile isDigit with
    | digit :: digits, ']' :: after => some (natOfDigits (digit :: digits), after)
    | _, _ => none

theorem readStep?_length {text after : List Char} {index : Nat} (read : readStep? text = some (index, after)) :
    after.length < text.length := by
  unfold readStep? at read
  split at read
  · cases read
  · rename_i rest found
    split at read
    · rename_i digit digits more _ shape
      cases read
      unfold Text.afterPrefix? at found
      split at found
      · cases found
        have shorter := (List.dropWhile_suffix isDigit (l := text.drop stepMark.length)).length_le
        rw [shape, List.length_cons, List.length_drop] at shorter
        omega
      · cases found
    · cases read

def readSteps? (text : List Char) : Option TreePath :=
  match text with
  | [] => some []
  | c :: cs =>
    match _ : readStep? (c :: cs) with
    | none => none
    | some (index, after) => (readSteps? after).map (index :: ·)
termination_by text.length
decreasing_by exact readStep?_length ‹_›

def read? (text : String) : Option TreePath :=
  (Text.afterPrefix? "root".toList text.toList).bind readSteps?

def stepChars (index : Nat) : List Char :=
  stepMark ++ natDigits index ++ [']']

theorem step_toList (text : String) (index : Nat) :
    (text ++ ".children[" ++ intText index ++ "]").toList = text.toList ++ stepChars index := by
  have bracket : "]".toList = [']'] := rfl
  rw [String.toList_append, String.toList_append, String.toList_append, intText_toList, bracket, List.append_assoc,
    List.append_assoc, ← List.append_assoc ".children[".toList]
  rfl

theorem print_toList (path : TreePath) : path.print.toList = "root".toList ++ path.flatMap stepChars := by
  have rest (text : String) : (path.foldl (fun (text : String) (index : Nat) =>
      text ++ ".children[" ++ intText index ++ "]") text).toList = text.toList ++ path.flatMap stepChars := by
    induction path generalizing text with
    | nil => rw [List.foldl_nil, List.flatMap_nil, List.append_nil]
    | cons index path ih => rw [List.foldl_cons, ih, step_toList, List.append_assoc, List.flatMap_cons]
  rw [print, rest]

theorem readStep?_append (index : Nat) (rest : List Char) :
    readStep? (stepChars index ++ rest) = some (index, rest) := by
  have allDigits : ∀ c ∈ natDigits index, isDigit c = true := fun _ => Dart.natDigits_isDigit
  obtain ⟨digit, digits, shape⟩ := List.exists_cons_of_ne_nil (l := natDigits index) Nat.toDigits_ne_nil
  -- The bracket is no digit, so the number ends there whatever comes after it.
  have front : (natDigits index ++ ']' :: rest).takeWhile isDigit = digit :: digits := by
    rw [List.takeWhile_append_of_pos allDigits, shape, List.takeWhile_cons_of_neg (by decide), List.append_nil]
  have back : (natDigits index ++ ']' :: rest).dropWhile isDigit = ']' :: rest := by
    rw [List.dropWhile_append_of_pos allDigits, List.dropWhile_cons_of_neg (by decide)]
  have marked : stepChars index ++ rest = stepMark ++ (natDigits index ++ ']' :: rest) := by
    simp [stepChars]
  unfold readStep?
  rw [marked, Text.afterPrefix?_append]
  dsimp only
  rw [front, back]
  show some (natOfDigits (digit :: digits), rest) = some (index, rest)
  rw [← shape, natOfDigits_natDigits]

theorem readSteps?_steps (path : TreePath) : readSteps? (path.flatMap stepChars) = some path := by
  induction path with
  | nil => rw [List.flatMap_nil, readSteps?]
  | cons index path ih =>
    have step := readStep?_append index (path.flatMap stepChars)
    rw [List.flatMap_cons]
    cases text : stepChars index ++ path.flatMap stepChars with
    | nil => simp [stepChars] at text
    | cons c cs =>
      rw [text] at step
      rw [readSteps?]
      split
      · rename_i failed
        rw [failed] at step
        cases step
      · rename_i found after read
        rw [read] at step
        cases step
        rw [ih, Option.map_some]

theorem read?_print (path : TreePath) : read? path.print = some path := by
  rw [read?, print_toList, Text.afterPrefix?_append, Option.bind_some, readSteps?_steps]

theorem print_injective {path other : TreePath} (same : path.print = other.print) : path = other := by
  have read := read?_print path
  rw [same, read?_print] at read
  exact (Option.some.inj read).symm

end TreePath

namespace Json.Document

def childItems : Document → List Document
  | .object fields =>
    match Fields.get? "children" fields with
    | some (.list items) => items
    | _ => []
  | _ => []

/-- The document to which a way leads. -/
def at? : TreePath → Document → Option Document
  | [], document => some document
  | index :: path, document => document.childItems[index]?.bind (at? path)

def atText? (text : String) (document : Document) : Option Document :=
  (TreePath.read? text).bind fun path => document.at? path

theorem childItems_sizeOf {item document : Document} (member : item ∈ document.childItems) :
    sizeOf item < sizeOf document := by
  cases document with
  | object fields =>
    simp only [childItems] at member
    split at member
    · rename_i items found
      have inField := List.sizeOf_lt_of_mem (Fields.mem_of_get? found)
      have inList := List.sizeOf_lt_of_mem member
      simp only [Prod.mk.sizeOf_spec, Document.list.sizeOf_spec, Document.object.sizeOf_spec] at inField ⊢
      omega
    · cases member
  | null | bool | number | text | list => cases member

end Json.Document

mutual

/-- The documents of the widgets that a document describes with their places, each before those below it. -/
def Json.Document.places : Json.Document → List (TreePath × Json.Document)
  | .object fields => ([], .object fields) :: placesIn fields
  | document => [([], document)]

def placesIn : List (String × Json.Document) → List (TreePath × Json.Document)
  | [] => []
  | (name, value) :: fields => if name = "children" then value.placesBelow else placesIn fields

def Json.Document.placesBelow : Json.Document → List (TreePath × Json.Document)
  | .list items => placesOfItems 0 items
  | _ => []

def placesOfItems (index : Nat) : List Json.Document → List (TreePath × Json.Document)
  | [] => []
  | item :: items => item.places.map (Prod.map (index :: ·) id) ++ placesOfItems (index + 1) items

end

mutual

def Node.places : Node → List (TreePath × Node)
  | ⟨id, type, properties, children⟩ => ([], ⟨id, type, properties, children⟩) :: placesOfNodes 0 children

def placesOfNodes (index : Nat) : List Node → List (TreePath × Node)
  | [] => []
  | node :: nodes => node.places.map (Prod.map (index :: ·) id) ++ placesOfNodes (index + 1) nodes

end

theorem Node.places_eq (node : Node) : node.places = ([], node) :: placesOfNodes 0 node.children := by
  obtain ⟨id, type, properties, children⟩ := node
  rw [places]

namespace Json.Document

variable {document item : Document} {path : TreePath}

theorem places_eq (document : Document) : document.places = ([], document) :: placesOfItems 0 document.childItems := by
  have inside (fields : List (String × Document)) :
      placesIn fields = placesOfItems 0 (childItems (.object fields)) := by
    induction fields with
    | nil => rfl
    | cons field fields ih =>
      obtain ⟨name, value⟩ := field
      by_cases here : name = "children"
      · cases value <;> simp [placesIn, here, placesBelow, childItems, Fields.get?, placesOfItems]
      · rw [placesIn, if_neg here, ih, childItems, childItems, Fields.get?, if_neg here]
  cases document with
  | object fields => rw [places, inside]
  | null | bool | number | text | list => rfl

theorem induct {P : Document → Prop} (step : ∀ document, (∀ item ∈ document.childItems, P item) → P document)
    (document : Document) : P document := by
  apply step
  intro item member
  have : sizeOf item < sizeOf document := childItems_sizeOf member
  exact induct step item
termination_by sizeOf document

theorem mem_placesOfItems {items : List Document} {index : Nat} :
    (path, document) ∈ placesOfItems index items ↔
      ∃ offset rest item, path = (index + offset) :: rest ∧ items[offset]? = some item ∧
        (rest, document) ∈ item.places := by
  induction items generalizing index with
  | nil => simp [placesOfItems]
  | cons first items ih =>
    rw [placesOfItems, List.mem_append, ih]
    constructor
    · rintro (here | ⟨offset, rest, item, rfl, found, inside⟩)
      · obtain ⟨⟨rest, document⟩, inside, same⟩ := List.mem_map.mp here
        cases same
        exact ⟨0, rest, first, rfl, rfl, inside⟩
      · exact ⟨offset + 1, rest, item, by rw [Nat.add_right_comm, Nat.add_assoc], found, inside⟩
    · rintro ⟨offset, rest, item, rfl, found, inside⟩
      cases offset with
      | zero =>
        cases found
        exact .inl (List.mem_map.mpr ⟨(rest, document), inside, rfl⟩)
      | succ offset =>
        exact .inr ⟨offset, rest, item, by rw [Nat.add_right_comm, Nat.add_assoc], found, inside⟩

theorem mem_places : ∀ {document item : Document} {path : TreePath},
    (path, item) ∈ document.places ↔ document.at? path = some item := by
  intro document
  induction document using induct with
  | step document ih =>
    intro item path
    rw [places_eq, List.mem_cons, mem_placesOfItems]
    cases path with
    | nil => simp [at?, eq_comm]
    | cons index path =>
      rw [at?, Option.bind_eq_some_iff]
      constructor
      · rintro (same | ⟨offset, rest, child, same, found, inside⟩)
        · cases same
        · cases same
          rw [Nat.zero_add]
          exact ⟨child, found, (ih child (List.mem_of_getElem? found)).mp inside⟩
      · rintro ⟨child, found, inside⟩
        refine .inr ⟨index, path, child, by rw [Nat.zero_add], found, ?_⟩
        exact (ih child (List.mem_of_getElem? found)).mpr inside

theorem placesOfItems_ascending {items : List Document} (index : Nat)
    (each : ∀ item ∈ items, item.places.Pairwise fun first second => first.1 < second.1) :
    (placesOfItems index items).Pairwise fun first second => first.1 < second.1 := by
  induction items generalizing index with
  | nil => exact .nil
  | cons item items ih =>
    obtain ⟨here, later⟩ := List.forall_mem_cons.mp each
    rw [placesOfItems, List.pairwise_append]
    refine ⟨?_, ih (index + 1) later, ?_⟩
    · rw [List.pairwise_map]
      exact here.imp fun before => List.cons_lt_cons_iff.mpr (.inr ⟨rfl, before⟩)
    · rintro ⟨path, document⟩ member ⟨other, another⟩ behind
      obtain ⟨⟨rest, _⟩, _, same⟩ := List.mem_map.mp member
      cases same
      obtain ⟨offset, rest, child, rfl, _⟩ := mem_placesOfItems.mp behind
      exact List.cons_lt_cons_iff.mpr (.inl (by omega))

theorem places_ascending (document : Document) :
    document.places.Pairwise fun first second => first.1 < second.1 := by
  induction document using induct with
  | step document ih =>
    rw [places_eq, List.pairwise_cons]
    refine ⟨?_, placesOfItems_ascending 0 ih⟩
    rintro ⟨path, item⟩ member
    obtain ⟨offset, rest, child, rfl, _⟩ := mem_placesOfItems.mp member
    exact List.nil_lt_cons _ _

theorem childrenIn_eq (fields : List (String × Document)) :
    Json.childrenIn fields = (childItems (.object fields)).map node := by
  have items (items : List Document) : Json.nodesOfItems items = items.map node := by
    induction items with
    | nil => rfl
    | cons item items ih => rw [Json.nodesOfItems, ih, List.map_cons]
  induction fields with
  | nil => rfl
  | cons field fields ih =>
    obtain ⟨name, value⟩ := field
    by_cases here : name = "children"
    · cases value <;> simp [Json.childrenIn, here, nodes, childItems, Fields.get?, items]
    · rw [Json.childrenIn, if_neg here, ih, childItems, childItems, Fields.get?, if_neg here]

theorem node_children (document : Document) : document.node.children = document.childItems.map node := by
  cases document with
  | object fields => exact childrenIn_eq fields
  | null | bool | number | text | list => rfl

/-- The widgets of the tree stand at the places of the documents that describe them. -/
theorem node_places (document : Document) : document.node.places = document.places.map (Prod.map id node) := by
  induction document using induct with
  | step document ih =>
    have items (index : Nat) {items : List Document}
        (each : ∀ item ∈ items, item.node.places = item.places.map (Prod.map id node)) :
        placesOfNodes index (items.map node) = (placesOfItems index items).map (Prod.map id node) := by
      induction items generalizing index with
      | nil => rfl
      | cons item items rest =>
        obtain ⟨here, later⟩ := List.forall_mem_cons.mp each
        rw [List.map_cons, placesOfNodes, placesOfItems, List.map_append, rest (index + 1) later, here, List.map_map,
          List.map_map]
        rfl
    rw [Node.places_eq, node_children, items 0 ih, places_eq]
    rfl

theorem mem_node_places {node : Node} :
    (path, node) ∈ document.node.places ↔ ∃ item, document.at? path = some item ∧ item.node = node := by
  rw [node_places, List.mem_map]
  constructor
  · rintro ⟨⟨path, item⟩, inside, same⟩
    cases same
    exact ⟨item, mem_places.mp inside, rfl⟩
  · rintro ⟨item, found, rfl⟩
    exact ⟨(path, item), mem_places.mpr found, rfl⟩

end Json.Document

end WidgetSource
