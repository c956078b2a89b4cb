import WidgetSource.Proofs.Counterparts

/-!
# Trees without the children that get lost

Some widgets take no children. What is below them counts for the figures, and it can keep a widget above it from being a
constant. Apart from that the source is the one of the tree without it.
-/
namespace WidgetSource

variable {options : Options} {table : Mapping.Table}

namespace Node

mutual

/-- The tree in which no widget has children that it does not take. Widgets in properties stay as they are. -/
def pruned (table : Mapping.Table) : Node → Node
  | ⟨id, type, properties, children⟩ =>
    ⟨id, type, properties, if dropsChildren table type then [] else prunedAll table children⟩

def prunedAll (table : Mapping.Table) : List Node → List Node
  | [] => []
  | node :: nodes => node.pruned table :: prunedAll table nodes

end

mutual

/-- The subtrees that a tree loses by this, each as a whole. -/
def removed (table : Mapping.Table) : Node → List Node
  | ⟨_, type, _, children⟩ => if dropsChildren table type then children else removedAll table children

def removedAll (table : Mapping.Table) : List Node → List Node
  | [] => []
  | node :: nodes => node.removed table ++ removedAll table nodes

end

theorem prunedAll_eq (nodes : List Node) : prunedAll table nodes = nodes.map (pruned table) := by
  induction nodes with
  | nil => rfl
  | cons node nodes ih => rw [prunedAll, ih, List.map_cons]

theorem removedAll_eq (nodes : List Node) : removedAll table nodes = nodes.flatMap (removed table) := by
  induction nodes with
  | nil => rfl
  | cons node nodes ih => rw [removedAll, ih, List.flatMap_cons]

theorem pruned_eq (node : Node) : node.pruned table = ⟨node.id, node.type, node.properties,
    if dropsChildren table node.type then [] else node.children.map (pruned table)⟩ := by
  obtain ⟨id, type, properties, children⟩ := node
  rw [pruned, prunedAll_eq]

theorem removed_eq (node : Node) : node.removed table =
    if dropsChildren table node.type then node.children else node.children.flatMap (removed table) := by
  obtain ⟨id, type, properties, children⟩ := node
  rw [removed, removedAll_eq]

def LosesConstants (options : Options) (table : Mapping.Table) (node : Node) : Prop :=
  options.useConstConstructors = true → ∀ lost ∈ node.removed table, lost.isConstEligible true table = true

theorem LosesConstants.child {node child : Node} (spared : node.LosesConstants options table)
    (kept : dropsChildren table node.type = false) (member : child ∈ node.children) :
    child.LosesConstants options table := by
  intro wanted lost found
  refine spared wanted lost ?_
  rw [removed_eq, kept]
  exact List.mem_flatMap.mpr ⟨child, member, found⟩

theorem pruned_twin {node : Node} (spared : node.LosesConstants options table) :
    node.Twin table (Beside (pruned table) (LosesConstants options table)) (node.pruned table) where
  type := by rw [pruned_eq]
  property name := by
    rw [pruned_eq]
    exact Option.rel_refl (.refl Beside.refl) _
  style name := by
    rw [pruned_eq]
    exact Option.rel_refl .refl _
  children kept := by
    rw [pruned_eq, kept]
    apply List.forall₂_map_right_iff.mpr
    exact List.forall₂_same.mpr fun child member => .changed (spared.child kept member)

theorem pruned_isConstEligible {node : Node} (spared : node.LosesConstants options table) :
    (node.pruned table).isConstEligible options.useConstConstructors table =
      node.isConstEligible options.useConstConstructors table := by
  cases wanted : options.useConstConstructors with
  | false => rw [isConstEligible, isConstEligible, Bool.false_and, Bool.false_and]
  | true =>
    have alone : (node.pruned table).allowsConst table = node.allowsConst table := by
      have locally : node.isLocallyConst table = (node.pruned table).isLocallyConst table := by
        refine (pruned_twin spared).isLocallyConst_eq ?_
        rw [pruned_eq, hasDynamicProperty, hasDynamicProperty]
      rw [allowsConst, allowsConst, ← locally, pruned_eq, embedded, embedded]
    have children : (∀ child ∈ (node.pruned table).children, child.isConstEligible true table = true) ↔
        ∀ child ∈ node.children, child.isConstEligible true table = true := by
      rw [pruned_eq]
      cases drops : dropsChildren table node.type with
      | true =>
        -- The children are what is lost.
        refine ⟨fun _ child member => spared wanted child ?_, fun _ _ none => absurd none List.not_mem_nil⟩
        rwa [removed_eq, drops]
      | false =>
        simp only [Bool.false_eq_true, if_false, List.forall_mem_map]
        refine forall₂_congr fun child member => ?_
        have : child.weight < node.weight := child_weight member
        have same := pruned_isConstEligible (spared.child drops member)
        rw [wanted] at same
        rw [same]
    rw [Bool.eq_iff_iff, isConstEligible_iff, isConstEligible_iff, alone, children]
termination_by node.weight

theorem pruned_counterparts (options : Options) (table : Mapping.Table) :
    Counterparts options table (Beside (pruned table) (LosesConstants options table)) := by
  apply Counterparts.of_change
  · intro node
    rw [pruned_eq]
  · intro node
    rw [pruned_eq]
  · intro node spared
    exact pruned_isConstEligible spared
  · intro node spared
    exact pruned_twin spared
  · intro write entry node
    rw [pruned_eq]

end Node

theorem Node.walk_figures (useConst : Bool) (root : Node) :
    (Statistics.recordAll {} (root.walk useConst table 0).visits).totalWidgets = root.count ∧
      (Statistics.recordAll {} (root.walk useConst table 0).visits).maxDepth = root.depth := by
  have number : (root.walk useConst table 0).visits.length = root.count := by
    rw [← tree_length, ← walk_nodes useConst table 0, List.length_map]
  rw [Statistics.recordAll_eq, number]
  dsimp only
  rw [walk_depths, Nat.zero_add, Nat.zero_add, Nat.zero_max]
  exact ⟨rfl, rfl⟩

/-- The figures count the widgets that get lost. Apart from them the source is the one of the pruned tree, if constants
are not wanted or if all that gets lost could be constant. -/
theorem generate_pruned (options : Options) (table : Mapping.Table) (root : Node) (valid : options.fault? = none) :
    ∃ generation pruned, generate options table root = .ok generation ∧
      generate options table (root.pruned table) = .ok pruned ∧
      generation.widgetCount = root.count ∧ generation.maxDepth = root.depth ∧
      ((options.useConstConstructors = true →
          ∀ lost ∈ root.removed table, lost.isConstEligible true table = true) →
        generation.code = pruned.code ∧ generation.lineCount = pruned.lineCount ∧
          generation.imports = pruned.imports) := by
  refine ⟨.ofRendering options (root.renderRoot options table),
    .ofRendering options ((root.pruned table).renderRoot options table), by rw [generate, valid],
    by rw [generate, valid], ?_, ?_, fun spared => (Node.pruned_counterparts options table).source_eq (.changed spared)⟩
  · rw [Generation.ofRendering, Node.recordAll_renderRoot]
    exact (root.walk_figures options.useConstConstructors).1
  · rw [Generation.ofRendering, Node.recordAll_renderRoot]
    exact (root.walk_figures options.useConstConstructors).2

def crowdedText : Node :=
  ⟨none, "column", [], [⟨none, "text", [], [.ofType "center"]⟩, .ofType "icon"]⟩

theorem crowdedText_pruned : ({} : Options).fault? = none ∧
    ∃ generation pruned, generate {} .stock crowdedText = .ok generation ∧
      generate {} .stock ⟨none, "column", [], [.ofType "text", .ofType "icon"]⟩ = .ok pruned ∧
      generation.widgetCount = 4 ∧ generation.maxDepth = 2 ∧ generation.code = pruned.code ∧
      generation.lineCount = pruned.lineCount ∧ generation.imports = pruned.imports := by
  have valid : ({} : Options).fault? = none := by decide
  have column : dropsChildren .stock "column" = false := by decide
  have text : dropsChildren .stock "text" = true := by decide
  have removed : crowdedText.removed .stock = [.ofType "center"] := by
    simp only [crowdedText, Node.removed, Node.removedAll, column, text]
    simp [Node.removed_eq, Node.ofType]
  have constant : (Node.ofType "center").isConstEligible true .stock = true :=
    (Node.isConstEligible_iff .stock).mpr ⟨rfl, by decide, fun _ none => absurd none List.not_mem_nil⟩
  obtain ⟨generation, pruned, written, lighter, count, depth, same⟩ :=
    generate_pruned {} .stock crowdedText valid
  refine ⟨valid, generation, pruned, written, lighter, count, depth, same fun _ => ?_⟩
  rw [removed]
  exact List.forall_mem_singleton.mpr constant

end WidgetSource
