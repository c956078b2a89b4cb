import WidgetSource.Proofs.Exchanges

namespace WidgetSource

open Dart (Expr)

variable {options : Options} {table : Mapping.Table} {depth another level : Nat}

namespace Node

def columnOf (children : List Node) : Node :=
  ⟨none, "Column", [], children⟩

def gathered (node : Node) : Node :=
  { node with children := [columnOf node.children] }

/-- Several children stand in one place, which is the child of a widget or the body of a scaffold. -/
structure SharesPlace (node : Node) : Prop where
  several : 2 ≤ node.children.length
  place : node.kind.cardinality = .single ∨
    node.kind = .scaffold ∧ (node.children.filter Form.isAppBar).length ≠ 1

inductive Gathers : Node → Node → Prop
  | mk {node : Node} : node.SharesPlace → Gathers node node.gathered

variable {items : List Node}

theorem columnOf_kind (items : List Node) : (columnOf items).kind = .column := by
  show Kind.ofType "Column" = .column
  rfl

theorem columnOf_canBeConst (items : List Node) :
    (columnOf items).canBeConst table = items.all (·.canBeConst table) := by
  have free : (columnOf items).blocksConst table = false := by
    unfold blocksConst
    rw [columnOf_kind]
  have alone : (columnOf items).allowsConst table = true := by
    rw [allowsConst, isLocallyConst, free, columnOf_kind]
    rfl
  rw [canBeConst_eq, alone, Bool.true_and]
  rfl

theorem columnOf_args (nonempty : items ≠ []) (write : Expr → String) :
    ((columnOf items).form write table).args = [.slot "children" false (.list items)] := by
  obtain ⟨first, rest, rfl⟩ := List.exists_cons_of_ne_nil nonempty
  rw [form_args, columnOf_kind]
  rfl

theorem columnOf_expr (nonempty : items ≠ []) (depth level : Nat) :
    ((columnOf items).render options table depth level).expr =
      .call (options.useConstConstructors && items.all (·.canBeConst table)) "Column" none
        [(.named "children", .list (items.map fun item =>
          (item.render options table (depth + 1) (level + 2)).expr))] := by
  have key : (columnOf items).keyEntry options.includeKeys = [] := by
    unfold keyEntry
    cases options.includeKeys <;> rfl
  rw [render_expr, render_eligible, isConstEligible, columnOf_canBeConst, key, formAt, form_target, form_positional,
    columnOf_args nonempty, columnOf_kind]
  simp only [renderArgs, List.map_cons, List.map_nil, Argument.map, Slot.map, Argument.entry, Slot.expr, List.map_map]
  rfl

theorem columnOf_imports (nonempty : items ≠ []) (plain : (columnOf items).entryImports table = [])
    (depth level : Nat) : ((columnOf items).render options table depth level).imports =
      items.flatMap fun item => (item.render options table (depth + 1) (level + 2)).imports := by
  have shadowed (write : Expr → String) : ((columnOf items).form write table).shadowed = [] := by
    rw [form_shadowed, columnOf_kind]
    rfl
  have imports (write : Expr → String) : ((columnOf items).form write table).imports = [] := by
    rw [form_imports, columnOf_kind]
    rfl
  rw [render_eq]
  dsimp only [assemble, formAt]
  rw [plain, imports, shadowed, columnOf_args nonempty]
  simp [renderArgs, Argument.imports, Argument.map, Slot.map, Argument.items, Slot.toList, List.flatMap_map,
    Argument.inset, Slot.inset]

theorem column_constant (items : List Node) (depth level : Nat) : (options.useConstConstructors &&
      (items.map fun item => item.render options table depth level).all (·.eligible)) =
    (options.useConstConstructors && items.all (·.canBeConst table)) := by
  cases wanted : options.useConstConstructors with
  | false => rfl
  | true =>
    rw [Bool.true_and, Bool.true_and, List.all_map]
    apply congrArg (List.all items)
    funext item
    show (item.render options table depth level).eligible = item.canBeConst table
    rw [render_eligible, isConstEligible, wanted, Bool.true_and]

/-- The widgets in a shared column stand three levels below its owner, and so do those in a column that is the child. -/
theorem columnOf_alike (nonempty : items ≠ []) (plain : (columnOf items).entryImports table = []) (name : String) :
    Argument.Alike options table depth another level (.slot name false (.column items))
      (.slot name false (.one (columnOf items))) := by
  have inside (item : Node) : (item.render options table (depth + 1) (level + 3)).Agrees
      (item.render options table (another + 2) (level + 3)) :=
    (Interchangeable.refl item).agrees _ _ _
  constructor
  · have exprs : (items.map fun item => (item.render options table (depth + 1) (level + 3)).expr) =
        items.map fun item => (item.render options table (another + 2) (level + 3)).expr :=
      List.map_congr_left fun item _ => (inside item).expr
    simp only [Argument.map, Slot.map, Argument.inset, Slot.inset, Argument.entry, Slot.expr, columnOf_expr nonempty,
      column_constant, List.map_map, Function.comp_def, exprs]
  · have imports : (items.flatMap fun item => (item.render options table (depth + 1) (level + 3)).imports) =
        items.flatMap fun item => (item.render options table (another + 2) (level + 3)).imports :=
      List.flatMap_congr fun item _ => (inside item).imports
    simp only [Argument.map, Slot.map, Argument.inset, Slot.inset, Argument.imports, Argument.items, Slot.toList,
      List.flatMap_map, List.flatMap_singleton, columnOf_imports nonempty plain, imports]

end Node

namespace Form

variable {node : Node}

theorem isLeaf_gathered (several : 2 ≤ node.children.length) : node.isLeaf = false ∧ node.gathered.isLeaf = false := by
  refine ⟨?_, rfl⟩
  rw [Node.isLeaf, List.isEmpty_eq_false_iff, ← List.length_pos_iff]
  omega

variable (plain : ∀ items, (Node.columnOf items).entryImports table = [])

section

variable (several : 2 ≤ node.children.length)
include plain several

theorem childSlot_alike (name : String) : ArgsAlike options table depth another level
    (Node.childSlot name node.children) (Node.childSlot name node.gathered.children) := by
  unfold Node.gathered
  generalize node.children = children at several
  match children, several with
  | first :: second :: rest, _ => exact .cons (Node.columnOf_alike (List.cons_ne_nil _ _) (plain _) name) .nil

theorem child_alike : ArgsAlike options table depth another level (child node) (child node.gathered) :=
  childSlot_alike plain several "child"

theorem requiredChild_alike :
    ArgsAlike options table depth another level (requiredChild node) (requiredChild node.gathered) := by
  obtain ⟨leaf, gathered⟩ := isLeaf_gathered several
  rw [requiredChild, requiredChild, leaf, gathered]
  exact child_alike plain several

theorem materialButton_agrees (variant : String) : Form.Agrees options table depth another level
    (materialButton variant node) (materialButton variant node.gathered) := by
  obtain ⟨leaf, gathered⟩ := isLeaf_gathered several
  unfold materialButton
  dsimp only
  rw [leaf, gathered]
  exact .ofArgs (.after _ (child_alike plain several))

theorem scaffold_agrees (headless : (node.children.filter isAppBar).length ≠ 1) :
    Form.Agrees options table depth another level (scaffold node) (scaffold node.gathered) := by
  have header : splitHeader node.children = (none, node.children) := by
    unfold splitHeader
    split
    · rename_i header only
      rw [only] at headless
      exact absurd rfl headless
    · rfl
  have gathered : splitHeader node.gathered.children = (none, node.gathered.children) := by
    have column : isAppBar (Node.columnOf node.children) = false := by
      rw [isAppBar, Node.columnOf_kind]
      rfl
    simp [splitHeader, Node.gathered, column]
  unfold scaffold
  rw [header, gathered]
  exact .ofArgs ((((ArgsAlike.after _ (childSlot_alike plain several "body")).before _).before _).before _)

end

include plain

theorem gathered_agrees (write : Expr → String) (shares : node.SharesPlace) :
    Form.Agrees options table depth another level (ofKind write table node node.kind)
      (ofKind write table node.gathered node.gathered.kind) := by
  show Form.Agrees options table depth another level (ofKind write table node node.kind)
    (ofKind write table node.gathered node.kind)
  obtain ⟨several, single | ⟨isScaffold, headless⟩⟩ := shares
  · cases kind : node.kind with
    | container | center | sizedBox | card => exact .ofArgs (.after _ (child_alike plain several))
    | padding => exact .ofArgs (.after [_] (child_alike plain several))
    | align => exact .ofArgs (.after (_ :: _) (child_alike plain several))
    | expanded | flexible | positioned => exact .ofArgs (.after _ (requiredChild_alike plain several))
    | button | elevatedButton | textButton | outlinedButton => exact materialButton_agrees plain several _
    | _ =>
      rw [kind] at single
      cases single
  · rw [isScaffold]
    exact scaffold_agrees plain several headless

end Form

namespace Node

theorem Gathers.interchangeable {node other : Node} (plain : ∀ items, (columnOf items).entryImports table = [])
    (gathers : node.Gathers other) : node.Interchangeable options table other := by
  obtain ⟨shares⟩ := gathers
  have constant : node.canBeConst table = node.gathered.canBeConst table := by
    obtain ⟨id, type, properties, children⟩ := node
    apply canBeConst_of_children
    rw [List.all_cons, columnOf_canBeConst, List.all_nil, Bool.and_true]
  refine ⟨rfl, constant, fun depth another level => ?_⟩
  apply agrees_of_form
  · rfl
  · rfl
  · rw [isConstEligible, isConstEligible, constant]
  · exact .ofKind (Form.gathered_agrees plain _ shares)

theorem Gathers.count_eq {node other : Node} (gathers : node.Gathers other) : other.count = node.count + 1 := by
  obtain ⟨_⟩ := gathers
  obtain ⟨id, type, properties, children⟩ := node
  simp only [gathered, columnOf, count, countAll]
  omega

end Node

/-- Children that share a place are written as if the column that holds them were in the tree. There it counts as one
more widget. -/
theorem generate_gathered (options : Options) (table : Mapping.Table) {root other : Node}
    (exchanged : root.Exchanged Node.Gathers other)
    (plain : ∀ entry, table.lookup? "Column" = some entry → entry.imports = []) (valid : options.fault? = none) :
    ∃ generation another, generate options table root = .ok generation ∧
      generate options table other = .ok another ∧
      generation.code = another.code ∧ generation.lineCount = another.lineCount ∧
      generation.imports = another.imports ∧ another.widgetCount = generation.widgetCount + 1 := by
  have bare (items : List Node) : (Node.columnOf items).entryImports table = [] := by
    show ((table.lookup? "Column").map (·.imports)).getD [] = []
    cases found : table.lookup? "Column" with
    | none => rfl
    | some entry => exact plain entry found
  obtain ⟨code, lines, imports⟩ := exchanged.source_eq options fun gathers => gathers.interchangeable bare
  refine ⟨.ofRendering options (root.renderRoot options table), .ofRendering options (other.renderRoot options table),
    by rw [generate, valid], by rw [generate, valid], code, lines, imports, ?_⟩
  rw [Node.widgetCount_eq, Node.widgetCount_eq]
  exact exchanged.count_eq Node.Gathers.count_eq

def twoBars : Node :=
  ⟨none, "center", [], [⟨some "s", "scaffold", [], [.ofType "app_bar", .ofType "AppBar"]⟩]⟩

def twoBarsInColumn : Node :=
  ⟨none, "center", [], [⟨some "s", "scaffold", [], [⟨none, "Column", [], [.ofType "app_bar", .ofType "AppBar"]⟩]⟩]⟩

theorem twoBars_gathered : twoBars.Exchanged Node.Gathers twoBarsInColumn ∧
    (∀ entry, Mapping.Table.stock.lookup? "Column" = some entry → entry.imports = []) ∧ ({} : Options).fault? = none ∧
    ∃ generation another, generate {} .stock twoBars = .ok generation ∧
      generate {} .stock twoBarsInColumn = .ok another ∧
      generation.code = another.code ∧ generation.lineCount = another.lineCount ∧
      generation.imports = another.imports ∧ another.widgetCount = generation.widgetCount + 1 := by
  have shares : Node.SharesPlace ⟨some "s", "scaffold", [], [.ofType "app_bar", .ofType "AppBar"]⟩ :=
    ⟨(Nat.le_refl _), .inr (by decide)⟩
  have exchanged : twoBars.Exchanged Node.Gathers twoBarsInColumn :=
    @Node.Exchanged.inside Node.Gathers none "center" [] [] [] _ _ (.here (.mk shares))
  have plain : ∀ entry, Mapping.Table.stock.lookup? "Column" = some entry → entry.imports = [] := by decide
  have valid : ({} : Options).fault? = none := by decide
  exact ⟨exchanged, plain, valid, generate_gathered {} .stock exchanged plain valid⟩

end WidgetSource
