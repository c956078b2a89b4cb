import WidgetSource.Generation
import WidgetSource.Proofs.Constness

namespace WidgetSource

open Argument (treeItems)

variable (options : Options) (table : Mapping.Table)

theorem Counts.bump_comm (first second : String) (counts : Counts) :
    (counts.bump first).bump second = (counts.bump second).bump first := by
  induction counts with
  | nil => grind [bump]
  | cons entry rest ih => grind [bump]

def Counts.bumpAll {α : Type} (fields : Fields α) (counts : Counts) : Counts :=
  fields.foldl (fun counts (name, _) => counts.bump name) counts

theorem Counts.bumpAll_comm {α : Type} (first second : Fields α) (counts : Counts) :
    bumpAll second (bumpAll first counts) = bumpAll first (bumpAll second counts) := by
  simp only [bumpAll, ← List.foldl_append]
  exact List.perm_append_comm.foldl_eq' (fun one _ other _ counts => bump_comm one.1 other.1 counts) counts

theorem Statistics.record_comm (stats : Statistics) (first second : Visit) :
    (stats.record first).record second = (stats.record second).record first := by
  have types := Counts.bump_comm first.node.type second.node.type stats.widgetTypeCounts
  have properties := Counts.bumpAll_comm first.node.properties second.node.properties stats.propertyUsageCounts
  simp only [Counts.bumpAll] at properties
  simp only [record, types, properties, Nat.max_right_comm, Bool.or_right_comm, Nat.add_right_comm]

theorem Statistics.recordAll_perm (stats : Statistics) {visits others : List Visit} (same : visits.Perm others) :
    stats.recordAll visits = stats.recordAll others :=
  same.foldl_eq' (fun one _ other _ stats => stats.record_comm one other) stats

theorem walkAll_visits (useConst : Bool) (depth : Nat) (nodes : List Node) :
    (walkAll useConst table depth nodes).visits = nodes.flatMap fun node => (node.walk useConst table depth).visits := by
  induction nodes with
  | nil => rfl
  | cons node nodes ih => rw [walkAll, List.flatMap_cons, ← ih]

theorem Node.walk_visits (useConst : Bool) (depth : Nat) (node : Node) :
    (node.walk useConst table depth).visits =
      (node.children.flatMap fun child => (child.walk useConst table (depth + 1)).visits) ++
        [⟨node, depth, node.isConstEligible useConst table⟩] := by
  have mark := node.walk_eligible table useConst depth
  obtain ⟨id, type, properties, children⟩ := node
  rw [Node.walk] at mark ⊢
  rw [← walkAll_visits, ← mark]

theorem Argument.map_visits (f : Node → Rendering) (argument : Argument Node) :
    (argument.map f).visits = argument.treeItems.flatMap fun item => (f item).visits := by
  cases argument with
  | value => rfl
  | slot name embedded place =>
    cases embedded with
    | true => rfl
    | false => cases place <;> simp [map, visits, treeItems, Slot.map, Slot.toList, List.flatMap_map]

/-- Writing a widget meets the widgets of the tree that a walk meets. Those in properties are not met, those that are
dropped are. -/
theorem Node.render_visits_perm (depth level : Nat) (node : Node) :
    (node.render options table depth level).visits.Perm
      (node.walk options.useConstConstructors table depth).visits := by
  have mark := node.render_eligible options table depth level
  have children := node.form_children_perm (fun expr => expr.render options.layout (level + 1)) table
  have slots : ((renderArgs options table depth level (node.formAt options table level).allArgs).flatMap
      (·.visits)).Perm (((node.formAt options table level).allArgs.flatMap treeItems).flatMap fun item =>
        (item.walk options.useConstConstructors table (depth + 1)).visits) := by
    rw [renderArgs, List.flatMap_map, List.flatMap_assoc]
    refine List.Perm.flatMap_left _ fun arg member => ?_
    rw [Argument.map_visits]
    refine List.Perm.flatMap_left _ fun item inside => ?_
    have : item.weight < node.weight :=
      node.form_lighter _ table arg member item (Argument.mem_items_iff.mpr (.inl inside))
    exact Node.render_visits_perm (depth + 1) (level + arg.inset) item
  rw [render_eq] at mark ⊢
  rw [walk_visits, ← mark]
  refine List.Perm.append_right _ ?_
  rw [renderArgs_append, walkAll_visits]
  refine (slots.append_right _).trans ?_
  rw [← List.flatMap_append]
  exact children.flatMap_right _
termination_by node.weight

/-- The figures that come with a source are those of a walk through the tree. -/
theorem generate_statistics_eq_census (root : Node) (valid : options.fault? = none)
    (wanted : options.includeStatistics = true) :
    ∃ generation, generate options table root = .ok generation ∧
      generation.statistics = some (Statistics.ofTrees options.useConstConstructors table [root]) := by
  refine ⟨.ofRendering options (root.renderRoot options table), by rw [generate, valid], ?_⟩
  have visits := Node.render_visits_perm options table 0 options.rootLevel root
  simp only [Generation.ofRendering, wanted, if_true]
  exact congrArg some (Statistics.recordAll_perm {} visits)

def mixedScreen : Node :=
  let title : Value := .map [("type", .text "text"), ("properties", .map [("text", .text "Title")])]
  ⟨none, "scaffold", [], [
    ⟨none, "column", [], [⟨none, "text", [], [.ofType "icon"]⟩, .ofType "center"]⟩,
    ⟨none, "appbar", [("title", title)], []⟩]⟩

theorem mixedScreen_census : ({} : Options).fault? = none ∧ ({} : Options).includeStatistics = true ∧
    ∃ generation, generate {} .empty mixedScreen = .ok generation ∧
      generation.statistics = some (Statistics.ofTrees true .empty [mixedScreen]) :=
  have valid : ({} : Options).fault? = none := by decide
  ⟨valid, rfl, generate_statistics_eq_census {} .empty mixedScreen valid rfl⟩

end WidgetSource
