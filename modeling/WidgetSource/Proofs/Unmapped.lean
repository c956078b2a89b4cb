import WidgetSource.Generation
import WidgetSource.Proofs.Constness

namespace WidgetSource

open Dart (Expr)

variable (options other : Options)

theorem Form.ofKind_write (write another : Expr → String) (node : Node) (kind : Kind) :
    ofKind write .empty node kind = ofKind another .empty node kind := by
  cases kind <;> rfl

theorem Node.formAt_empty (level otherLevel : Nat) (node : Node) :
    node.formAt options .empty level = node.formAt other .empty otherLevel := by
  simp only [formAt, form]
  rw [Form.ofKind_write]

theorem Slot.map_congr {α β : Type} {f g : α → β} {place : Slot α} (same : ∀ item ∈ place.toList, f item = g item) :
    place.map f = place.map g := by
  cases place with
  | one item => exact congrArg Slot.one (same item List.mem_cons_self)
  | column items => exact congrArg Slot.column (List.map_congr_left same)
  | list items => exact congrArg Slot.list (List.map_congr_left same)

theorem Argument.map_congr {α β : Type} {f g : α → β} {arg : Argument α} (same : ∀ item ∈ arg.items, f item = g item) :
    arg.map f = arg.map g := by
  cases arg with
  | value => rfl
  | slot name embedded place => exact congrArg (Argument.slot name embedded) (Slot.map_congr same)

theorem Node.render_empty_eq (wanted : options.useConstConstructors = other.useConstConstructors)
    (keys : options.includeKeys = other.includeKeys) (depth level otherLevel : Nat) (node : Node) :
    node.render options .empty depth level = node.render other .empty depth otherLevel := by
  have forms := node.formAt_empty options other level otherLevel
  have items (arg : Argument Node) (member : arg ∈ (node.formAt options .empty level).allArgs) :
      (arg.map fun item => item.render options .empty (depth + 1) (level + arg.inset)) =
        arg.map fun item => item.render other .empty (depth + 1) (otherLevel + arg.inset) := by
    refine Argument.map_congr fun item inside => ?_
    have : item.weight < node.weight := node.form_lighter _ .empty arg member item inside
    exact Node.render_empty_eq wanted keys (depth + 1) _ _ item
  have args : renderArgs options .empty depth level (node.formAt options .empty level).args =
      renderArgs other .empty depth otherLevel (node.formAt options .empty level).args :=
    List.map_congr_left fun arg member => items arg (List.mem_append_left _ member)
  have shadowed : renderArgs options .empty depth level (node.formAt options .empty level).shadowed =
      renderArgs other .empty depth otherLevel (node.formAt options .empty level).shadowed :=
    List.map_congr_left fun arg member => items arg (List.mem_append_right _ member)
  rw [render_eq, render_eq, ← forms]
  dsimp only
  rw [args, shadowed]
  simp only [assemble, wanted, keys]
termination_by node.weight

theorem Form.ofKind_imports_eq (write : Expr → String) (table : Mapping.Table) (node : Node) (kind : Kind) :
    (ofKind write table node kind).imports =
      if kind = .text ∧ isTranslated node = true then [translationImport] else [] := by
  cases kind with
  | text => simp only [ofKind, text, true_and]
  | image =>
    show (image node).imports = []
    unfold image
    split <;> rfl
  | listView =>
    show (listView node).imports = []
    unfold listView
    split <;> rfl
  | _ => rfl

theorem Form.ofKind_imports (write : Expr → String) (node : Node) (kind : Kind) :
    ∀ address ∈ (ofKind write .empty node kind).imports, address = translationImport := by
  intro address member
  rw [ofKind_imports_eq] at member
  split at member
  · exact List.mem_singleton.mp member
  · cases member

theorem Node.mem_render_imports {table : Mapping.Table} {depth level : Nat} {node : Node} {address : String} :
    address ∈ (node.render options table depth level).imports ↔
      address ∈ node.entryImports table ++ (node.formAt options table level).imports ∨
        ∃ arg ∈ (node.formAt options table level).allArgs, ∃ item ∈ arg.items,
          address ∈ (item.render options table (depth + 1) (level + arg.inset)).imports := by
  rw [render_eq]
  dsimp only [assemble]
  rw [renderArgs_append, List.mem_append, ← Form.allArgs, renderArgs, List.flatMap_map, List.mem_flatMap]
  simp only [Argument.imports, Argument.map_items, List.flatMap_map, List.mem_flatMap]

theorem Node.render_imports (depth level : Nat) (node : Node) :
    ∀ address ∈ (node.render options .empty depth level).imports, address = Form.translationImport := by
  intro address member
  rcases (mem_render_imports options).mp member with own | ⟨arg, given, item, found, asked⟩
  · rcases List.mem_append.mp own with noEntry | own
    · cases noEntry
    · rw [formAt, form_imports] at own
      exact Form.ofKind_imports _ node node.kind address own
  · have : item.weight < node.weight := node.form_lighter _ .empty arg given item found
    exact Node.render_imports (depth + 1) (level + arg.inset) item address asked
termination_by node.weight

theorem mem_insertName {name address : String} {names : List String} :
    address ∈ insertName name names ↔ address = name ∨ address ∈ names := by
  induction names with
  | nil => simp [insertName]
  | cons first names ih =>
    simp only [insertName]
    split
    · simp
    · split
      · rename_i same
        simp [same]
      · simp only [List.mem_cons, ih]
        tauto

theorem mem_sortedNames {address : String} {names : List String} : address ∈ sortedNames names ↔ address ∈ names := by
  induction names with
  | nil => rfl
  | cons name names ih => rw [sortedNames, List.foldr_cons, ← sortedNames, mem_insertName, ih, List.mem_cons]

theorem Node.allImports (root : Node) :
    ∀ address ∈ (root.renderRoot options .empty).allImports,
      address = Mapping.materialImport ∨ address = Form.translationImport := by
  intro address member
  rcases List.mem_cons.mp (mem_sortedNames.mp member) with material | asked
  · exact .inl material
  · exact .inr (root.render_imports options 0 options.rootLevel address asked)

end WidgetSource
