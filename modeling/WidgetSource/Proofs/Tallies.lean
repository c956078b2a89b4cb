import WidgetSource.Proofs.Census
import WidgetSource.Proofs.Trees

namespace WidgetSource

namespace Counts

/-- Each name that was counted stands once, in ascending order, with how often it was counted, and no other name does. -/
structure Tallies (counts : Counts) (number : String → Nat) : Prop where
  ascending : Fields.Ascending counts
  get?_eq : ∀ name, Fields.get? name counts = if number name = 0 then none else some (number name)

variable {counts : Counts} {number : String → Nat}

theorem bump_eq_insertSorted (name : String) (ascending : Fields.Ascending counts) :
    counts.bump name = Fields.insertSorted name ((Fields.get? name counts).getD 0 + 1) counts := by
  induction counts with
  | nil => rfl
  | cons entry rest ih =>
    obtain ⟨first, k⟩ := entry
    obtain ⟨above, later⟩ := List.pairwise_cons.mp ascending
    rw [bump, Fields.insertSorted]
    by_cases before : name < first
    · have missing : Fields.get? name ((first, k) :: rest) = none := by
        apply Fields.get?_eq_none
        intro member
        rcases List.mem_cons.mp member with same | member
        · exact absurd before (same ▸ String.lt_irrefl name)
        · exact absurd (String.lt_trans before (above name member)) (String.lt_irrefl name)
      rw [if_pos before, if_pos before, missing]
      rfl
    · by_cases same : first = name
      · rw [if_neg before, if_neg before, if_pos same, if_pos same, Fields.get?, if_pos same, Option.getD_some]
      · rw [if_neg before, if_neg before, if_neg same, if_neg same, Fields.get?, if_neg same, ih later]

theorem Tallies.nil : Tallies [] fun _ => 0 :=
  ⟨.nil, fun _ => rfl⟩

theorem Tallies.bump (tallies : counts.Tallies number) (name : String) :
    (counts.bump name).Tallies fun other => number other + if name = other then 1 else 0 := by
  rw [bump_eq_insertSorted name tallies.ascending]
  refine ⟨Fields.insertSorted_ascending tallies.ascending, fun other => ?_⟩
  rw [Fields.get?_insertSorted, tallies.get?_eq, tallies.get?_eq]
  by_cases same : name = other
  · by_cases none : number other = 0 <;> simp [same, none]
  · simp [same]

theorem Tallies.bumps (tallies : counts.Tallies number) (names : List String) :
    (names.foldl (fun counts name => counts.bump name) counts).Tallies fun other => number other + names.count other := by
  induction names generalizing counts number with
  | nil => exact tallies
  | cons name names ih =>
    have same : (fun other => number other + (name :: names).count other) =
        fun other => (number other + if name = other then 1 else 0) + names.count other := by
      funext other
      rw [List.count_cons]
      simp only [beq_iff_eq]
      omega
    rw [same]
    exact ih (tallies.bump name)

theorem tallies_count (names : List String) :
    Tallies (names.foldl (fun counts name => counts.bump name) []) fun name => names.count name := by
  have tallies := Tallies.nil.bumps names
  simpa only [Nat.zero_add] using tallies

end Counts

theorem Statistics.recordAll_eq (stats : Statistics) (visits : List Visit) : stats.recordAll visits =
    { totalWidgets := stats.totalWidgets + visits.length
      maxDepth := (visits.map (·.depth)).foldl max stats.maxDepth
      widgetTypeCounts := (visits.map (·.node.type)).foldl (fun counts name => counts.bump name) stats.widgetTypeCounts
      propertyUsageCounts := (visits.flatMap fun visit => Fields.names visit.node.properties).foldl
        (fun counts name => counts.bump name) stats.propertyUsageCounts
      constEligibleCount := stats.constEligibleCount + visits.countP (·.eligible)
      hasNavigation := stats.hasNavigation || visits.any fun visit => navigates visit.node.normalizedType
      hasForms := stats.hasForms || visits.any fun visit => takesInput visit.node.normalizedType
      hasAnimations := stats.hasAnimations || visits.any fun visit => moves visit.node.normalizedType } := by
  induction visits generalizing stats with
  | nil => simp [recordAll]
  | cons visit visits ih =>
    rw [recordAll, List.foldl_cons, ← recordAll, ih]
    simp only [record, List.length_cons, List.map_cons, List.foldl_cons, List.flatMap_cons, List.foldl_append,
      List.countP_cons, List.any_cons, Bool.or_assoc, Fields.names, List.foldl_map]
    congr 1 <;> omega

variable (useConst : Bool) (table : Mapping.Table)

theorem Statistics.ofTrees_eq_recordAll (roots : List Node) :
    ofTrees useConst table roots = recordAll {} (walkAll useConst table 0 roots).visits := by
  rw [walkAll_visits, recordAll, List.foldl_flatMap]
  rfl

mutual

theorem Node.walk_nodes (depth : Nat) :
    ∀ node : Node, (node.walk useConst table depth).visits.map (·.node) = node.tree
  | ⟨id, type, properties, children⟩ => by
    rw [Node.walk, Node.tree, List.map_append, walkAll_nodes (depth + 1) children]
    rfl

theorem walkAll_nodes (depth : Nat) :
    ∀ nodes : List Node, (walkAll useConst table depth nodes).visits.map (·.node) = treeAll nodes
  | [] => rfl
  | node :: nodes => by
    rw [walkAll, treeAll, List.map_append, Node.walk_nodes depth node, walkAll_nodes depth nodes]

end

mutual

theorem Node.walk_marks (depth : Nat) : ∀ node : Node, ∀ visit ∈ (node.walk useConst table depth).visits,
    visit.eligible = visit.node.isConstEligible useConst table
  | ⟨id, type, properties, children⟩ => by
    rw [Node.walk_visits, ← walkAll_visits]
    intro visit member
    rcases List.mem_append.mp member with below | here
    · exact walkAll_marks (depth + 1) children visit below
    · rw [List.mem_singleton.mp here]

theorem walkAll_marks (depth : Nat) : ∀ nodes : List Node, ∀ visit ∈ (walkAll useConst table depth nodes).visits,
    visit.eligible = visit.node.isConstEligible useConst table
  | [] => fun _ none => absurd none List.not_mem_nil
  | node :: nodes => by
    rw [walkAll]
    intro visit member
    rcases List.mem_append.mp member with first | later
    · exact Node.walk_marks depth node visit first
    · exact walkAll_marks depth nodes visit later

end

mutual

theorem Node.walk_depths (depth bound : Nat) : ∀ node : Node,
    ((node.walk useConst table depth).visits.map (·.depth)).foldl max bound = max bound (depth + node.depth)
  | ⟨id, type, properties, children⟩ => by
    rw [Node.walk, List.map_append, List.foldl_append, Node.depth]
    exact walkAll_depths depth bound children

theorem walkAll_depths (depth bound : Nat) : ∀ nodes : List Node,
    max (((walkAll useConst table (depth + 1) nodes).visits.map (·.depth)).foldl max bound) depth =
      max bound (depth + Node.depthBelow nodes)
  | [] => rfl
  | node :: nodes => by
    rw [walkAll, List.map_append, List.foldl_append, Node.walk_depths (depth + 1) bound node,
      walkAll_depths depth _ nodes, Node.depthBelow]
    omega

end

theorem walkAll_depths_roots (bound : Nat) (roots : List Node) :
    ((walkAll useConst table 0 roots).visits.map (·.depth)).foldl max bound = (roots.map Node.depth).foldl max bound := by
  induction roots generalizing bound with
  | nil => rfl
  | cons root roots ih =>
    rw [walkAll, List.map_append, List.foldl_append, Node.walk_depths, Nat.zero_add, ih, List.map_cons, List.foldl_cons]

theorem count_types {type : String} {nodes : List Node} :
    (nodes.map (·.type)).count type = nodes.countP fun node => node.type = type := by
  rw [List.count_eq_countP, List.countP_map]
  apply List.countP_congr
  simp

/-- If no widget has two properties of one name, a name comes as often as there are widgets with such a property. -/
theorem count_propertyNames {name : String} {nodes : List Node}
    (once : ∀ node ∈ nodes, (Fields.names node.properties).Nodup) :
    (nodes.flatMap fun node => Fields.names node.properties).count name =
      nodes.countP fun node => name ∈ Fields.names node.properties := by
  induction nodes with
  | nil => rfl
  | cons node nodes ih =>
    rw [List.flatMap_cons, List.count_append, (once node List.mem_cons_self).count,
      ih fun other member => once other (List.mem_cons_of_mem node member), List.countP_cons, Nat.add_comm]
    simp only [decide_eq_true_eq]

structure Statistics.IsCensus (useConst : Bool) (table : Mapping.Table) (roots : List Node) (stats : Statistics) :
    Prop where
  totalWidgets : stats.totalWidgets = (roots.map Node.count).sum
  maxDepth : stats.maxDepth = (roots.map Node.depth).max?.getD 0
  widgetTypeCounts : stats.widgetTypeCounts.Tallies fun type => (treeAll roots).countP fun node => node.type = type
  propertyUsageCounts : stats.propertyUsageCounts.Tallies fun name =>
    (treeAll roots).countP fun node => name ∈ Fields.names node.properties
  constEligibleCount : stats.constEligibleCount =
    (treeAll roots).countP fun node => node.isConstEligible useConst table
  hasNavigation : stats.hasNavigation = true ↔ ∃ node ∈ treeAll roots, navigates node.normalizedType = true
  hasForms : stats.hasForms = true ↔ ∃ node ∈ treeAll roots, takesInput node.normalizedType = true
  hasAnimations : stats.hasAnimations = true ↔ ∃ node ∈ treeAll roots, moves node.normalizedType = true

/-- The figures of trees are exact, given that each widget has each property once, as reading (`Node.ofText_namesOnce`)
and building keep it. -/
theorem ofTrees_isCensus (roots : List Node) (once : ∀ root ∈ roots, root.NamesOnce) :
    (Statistics.ofTrees useConst table roots).IsCensus useConst table roots := by
  have nodes := walkAll_nodes useConst table 0 roots
  have marks := walkAll_marks useConst table 0 roots
  have depths := walkAll_depths_roots useConst table 0 roots
  have each : ∀ node ∈ treeAll roots, (Fields.names node.properties).Nodup := by
    intro node member
    rw [treeAll_eq] at member
    obtain ⟨root, given, inside⟩ := List.mem_flatMap.mp member
    exact once root given node inside
  rw [Statistics.ofTrees_eq_recordAll]
  generalize (walkAll useConst table 0 roots).visits = visits at nodes marks depths ⊢
  have length : visits.length = (roots.map Node.count).sum := by
    rw [← treeAll_length_eq_sum, ← nodes, List.length_map]
  have types : visits.map (·.node.type) = (treeAll roots).map (·.type) := by
    rw [← nodes, List.map_map]
    rfl
  have names : (visits.flatMap fun visit => Fields.names visit.node.properties) =
      (treeAll roots).flatMap fun node => Fields.names node.properties := by
    rw [← nodes, List.flatMap_map]
  have eligible : visits.countP (·.eligible) = (treeAll roots).countP (·.isConstEligible useConst table) := by
    rw [← nodes, List.countP_map]
    refine List.countP_congr fun visit member => ?_
    rw [marks visit member]
    rfl
  have any (rule : Node → Bool) :
      (false || visits.any fun visit => rule visit.node) = true ↔ ∃ node ∈ treeAll roots, rule node = true := by
    rw [Bool.false_or, ← nodes, ← List.any_eq_true, List.any_map]
    rfl
  rw [Statistics.recordAll_eq, length, depths, types, names, eligible]
  exact {
    totalWidgets := Nat.zero_add _
    maxDepth := List.foldl_max.trans (Nat.zero_max _)
    widgetTypeCounts := by simpa only [count_types] using Counts.tallies_count ((treeAll roots).map (·.type))
    propertyUsageCounts := by
      simpa only [count_propertyNames each] using
        Counts.tallies_count ((treeAll roots).flatMap fun node => Fields.names node.properties)
    constEligibleCount := Nat.zero_add _
    hasNavigation := any fun node => navigates node.normalizedType
    hasForms := any fun node => takesInput node.normalizedType
    hasAnimations := any fun node => moves node.normalizedType }

def formAndFade : List Node :=
  let title : Value := .map [("type", .text "Icon")]
  [⟨none, "Form", [("onChanged", .null)], [
    .ofType "ink_well",
    ⟨none, "card", [("title", title), ("onChanged", .null)], [.ofType "card"]⟩]⟩,
    .ofType "AnimatedOpacity"]

theorem formAndFade_isCensus : (∀ root ∈ formAndFade, root.NamesOnce) ∧
    (Statistics.ofTrees true .empty formAndFade).IsCensus true .empty formAndFade :=
  have once : ∀ root ∈ formAndFade, root.NamesOnce := by
    unfold Node.NamesOnce
    decide
  ⟨once, ofTrees_isCensus true .empty formAndFade once⟩

end WidgetSource
