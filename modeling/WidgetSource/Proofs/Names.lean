import WidgetSource.Proofs.Phrases
import WidgetSource.Proofs.Slots

namespace WidgetSource

open Dart (isIdentifier isWord)

namespace Dart

def IsQualifiedName (name : String) : Prop :=
  ∃ parts : List String, parts ≠ [] ∧ (∀ part ∈ parts, isIdentifier part = true) ∧ name = ".".intercalate parts

theorem isIdentifier_iff {name : String} :
    isIdentifier name = true ↔
      ∃ c rest, name.toList = c :: rest ∧ beginsIdentifier c = true ∧ ∀ d ∈ rest, continuesIdentifier d = true := by
  unfold isIdentifier
  cases name.toList <;> simp

theorem isIdentifier_chars {name : String} (identifier : isIdentifier name = true) :
    name.toList ≠ [] ∧ ∀ c ∈ name.toList, continuesIdentifier c = true := by
  obtain ⟨c, rest, chars, first, later⟩ := isIdentifier_iff.mp identifier
  rw [chars]
  exact ⟨List.cons_ne_nil c rest, List.forall_mem_cons.mpr ⟨by simp [continuesIdentifier, first], later⟩⟩

theorem no_dot_of_isIdentifier {name : String} (identifier : isIdentifier name = true) : '.' ∉ name.toList := by
  intro member
  have wrong := (isIdentifier_chars identifier).2 '.' member
  revert wrong
  decide

theorem isWord_of_isIdentifier {name : String} (identifier : isIdentifier name = true) : isWord name.toList = true := by
  obtain ⟨nonempty, chars⟩ := isIdentifier_chars identifier
  exact isWord_iff.mpr ⟨nonempty, fun c member => by simp [isNameChar, chars c member]⟩

theorem IsQualifiedName.isWord {name : String} (qualified : IsQualifiedName name) : isWord name.toList = true := by
  obtain ⟨parts, nonempty, identifiers, rfl⟩ := qualified
  obtain ⟨first, parts, rfl⟩ := List.exists_cons_of_ne_nil nonempty
  rw [List.forall_mem_cons] at identifiers
  obtain ⟨identifier, identifiers⟩ := identifiers
  induction parts generalizing first with
  | nil => simpa using isWord_of_isIdentifier identifier
  | cons next parts ih =>
    have rest := isWord_iff.mp (ih next (List.cons_ne_nil _ _) (identifiers next List.mem_cons_self)
      fun part member => identifiers part (List.mem_cons_of_mem _ member))
    have start := isWord_iff.mp (isWord_of_isIdentifier identifier)
    have dot : isNameChar '.' = true := by decide
    rw [String.intercalate_cons_cons, String.toList_append, String.toList_append, isWord_iff]
    refine ⟨by simp [start.1], List.forall_mem_append.mpr ⟨List.forall_mem_append.mpr ⟨start.2, ?_⟩, rest.2⟩⟩
    simpa using dot

end Dart

namespace Node

/-- The type of a widget is a name, and so are all its properties. -/
structure Named (node : Node) : Prop where
  type : Dart.IsQualifiedName (Text.trim node.type)
  properties : ∀ entry ∈ node.properties, isIdentifier entry.1 = true

/-- A widget of a tree, or one that is described in the properties of a widget within. -/
inductive Within (root : Node) : Node → Prop
  | root : Within root root
  | child {node child : Node} : Within root node → child ∈ node.children → Within root child
  | embedded {node widget : Node} : Within root node → widget ∈ node.embedded → Within root widget
  | header {node bar : Node} : Within root node → node.headerBar? = some bar → Within root bar

theorem Within.trans {root node inner : Node} (outer : Within root node) (inside : Within node inner) :
    Within root inner := by
  induction inside with
  | root => exact outer
  | child _ member ih => exact .child ih member
  | embedded _ member ih => exact .embedded ih member
  | header _ found ih => exact .header ih found

theorem Within.of_inside {node item : Node}
    (inside : item ∈ node.children ∨ item ∈ node.embedded ∨ node.headerBar? = some item) : Within node item := by
  rcases inside with child | embedded | header
  · exact .child .root child
  · exact .embedded .root embedded
  · exact .header .root header

theorem inside_of_form (write : Dart.Expr → String) {table : Mapping.Table} {node item : Node} {arg : Argument Node}
    (member : arg ∈ (node.form write table).allArgs) (inside : item ∈ arg.items) :
    item ∈ node.children ∨ item ∈ node.embedded ∨ node.headerBar? = some item := by
  rcases Argument.mem_items_iff.mp inside with tree | property
  · exact .inl ((node.form_children_perm write table).mem_iff.mp
      (List.mem_append_left _ (List.mem_flatMap.mpr ⟨arg, member, tree⟩)))
  · exact .inr (node.form_described write table (List.mem_flatMap.mpr ⟨arg, member, property⟩))

end Node

end WidgetSource
