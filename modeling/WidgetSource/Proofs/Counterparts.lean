import WidgetSource.Generation
import WidgetSource.Proofs.Tallies
import WidgetSource.Proofs.Twins

/-!
# Counterparts

A relation between widgets that is kept by the step from a widget to the widgets in its form. Trees that are related in
this way are written as the same text, and trees that are alike widget by widget have the same figures.
-/
namespace WidgetSource

open Dart (Expr Label)

section

variable {α β γ δ : Type} {R : α → β → Prop} {S : γ → δ → Prop} {f : α → γ} {g : β → δ}

theorem List.forall₂_map {items : List α} {others : List β} (related : List.Forall₂ R items others)
    (step : ∀ item ∈ items, ∀ other, R item other → S (f item) (g other)) :
    List.Forall₂ S (items.map f) (others.map g) := by
  rw [List.forall₂_map_left_iff, List.forall₂_map_right_iff]
  exact List.forall₂_imp_mem related step

theorem Argument.Rel.map {arg : Argument α} {other : Argument β}
    (related : Argument.Rel (fun item other => S (f item) (g other)) arg other) :
    Argument.Rel S (arg.map f) (other.map g) := by
  cases related with
  | value label expr => exact .value label expr
  | slot name embedded related =>
    refine .slot name embedded ?_
    cases related with
    | one related => exact .one related
    | column related => exact .column (List.forall₂_map related fun _ _ _ step => step)
    | list related => exact .list (List.forall₂_map related fun _ _ _ step => step)

theorem Argument.Rel.inset_eq {arg : Argument α} {other : Argument β} (related : Argument.Rel R arg other) :
    arg.inset = other.inset := by
  cases related with
  | value => rfl
  | slot _ _ related => cases related <;> rfl

end

structure Rendering.Agrees (rendering other : Rendering) : Prop where
  expr : rendering.expr = other.expr
  eligible : rendering.eligible = other.eligible
  imports : rendering.imports = other.imports

open Rendering (Agrees)

theorem Rendering.exprs_eq {items others : List Rendering} (agree : List.Forall₂ Agrees items others) :
    items.map (·.expr) = others.map (·.expr) :=
  List.map_eq_of_forall₂ agree fun _ _ _ same => same.expr

theorem Argument.Rel.entry_eq (useConst : Bool) {arg other : Argument Rendering} (agree : Argument.Rel Agrees arg other) :
    arg.entry useConst = other.entry useConst := by
  cases agree with
  | value => rfl
  | slot name embedded agree =>
    refine congrArg (Prod.mk (Label.named name)) ?_
    cases agree with
    | one agree => exact agree.expr
    | column agree =>
      have eligible := List.all_eq_of_forall₂ agree fun _ _ _ same => same.eligible
      rw [Slot.expr, Slot.expr, Rendering.exprs_eq agree, eligible]
    | list agree => rw [Slot.expr, Slot.expr, Rendering.exprs_eq agree]

theorem Argument.Rel.imports_eq {arg other : Argument Rendering} (agree : Argument.Rel Agrees arg other) :
    arg.imports = other.imports := by
  cases agree with
  | value => rfl
  | slot name embedded agree =>
    refine congrArg List.flatten ?_
    cases agree with
    | one agree => exact congrArg (· :: []) agree.imports
    | column agree | list agree => exact List.map_eq_of_forall₂ agree fun _ _ _ same => same.imports

structure Argument.Agrees (useConst : Bool) (arg other : Argument Rendering) : Prop where
  entry : arg.entry useConst = other.entry useConst
  imports : arg.imports = other.imports

theorem Argument.Rel.agrees (useConst : Bool) {arg other : Argument Rendering}
    (agree : Argument.Rel Rendering.Agrees arg other) : arg.Agrees useConst other :=
  ⟨agree.entry_eq useConst, agree.imports_eq⟩

variable {options : Options} {table : Mapping.Table} {R : Node → Node → Prop} {node other : Node}

/-- Arguments that are written alike on a level, though the widgets in them may stand at two depths. -/
def Argument.Alike (options : Options) (table : Mapping.Table) (depth another level : Nat) (arg other : Argument Node) :
    Prop :=
  Argument.Agrees options.useConstConstructors
    (arg.map fun item => item.render options table (depth + 1) (level + arg.inset))
    (other.map fun item => item.render options table (another + 1) (level + other.inset))

def ArgsAlike (options : Options) (table : Mapping.Table) (depth another level : Nat) :
    List (Argument Node) → List (Argument Node) → Prop :=
  List.Forall₂ (Argument.Alike options table depth another level)

theorem Argument.Rel.alike {depth another level : Nat} {arg other : Argument Node}
    (related : Argument.Rel (fun item counterpart => ∀ level, (item.render options table (depth + 1) level).Agrees
      (counterpart.render options table (another + 1) level)) arg other) :
    Argument.Alike options table depth another level arg other := by
  unfold Argument.Alike
  rw [← related.inset_eq]
  apply Argument.Rel.agrees
  apply Argument.Rel.map
  exact related.imp_mem fun item _ counterpart agrees => agrees _

structure Form.Agrees (options : Options) (table : Mapping.Table) (depth another level : Nat) (form other : Form) :
    Prop where
  target : form.target = other.target
  positional : form.positional = other.positional
  imports : form.imports = other.imports
  args : ArgsAlike options table depth another level form.args other.args
  shadowed : ArgsAlike options table depth another level form.shadowed other.shadowed

theorem Form.Rel.agrees {depth another level : Nat} {form other : Form}
    (related : Form.Rel (fun item counterpart => ∀ level, (item.render options table (depth + 1) level).Agrees
      (counterpart.render options table (another + 1) level)) form other) :
    Form.Agrees options table depth another level form other :=
  ⟨related.target, related.positional, related.imports, List.Forall₂.imp (fun _ _ step => step.alike) related.args,
    List.Forall₂.imp (fun _ _ step => step.alike) related.shadowed⟩

theorem Node.agrees_of_form {depth another level : Nat} (id : node.id = other.id)
    (needed : node.entryImports table = other.entryImports table)
    (eligible : node.isConstEligible options.useConstConstructors table =
      other.isConstEligible options.useConstConstructors table)
    (form : Form.Agrees options table depth another level (node.formAt options table level)
      (other.formAt options table level)) :
    (node.render options table depth level).Agrees (other.render options table another level) := by
  have inside {args others : List (Argument Node)}
      (alike : ArgsAlike options table depth another level args others) :
      List.Forall₂ (Argument.Agrees options.useConstConstructors) (renderArgs options table depth level args)
        (renderArgs options table another level others) :=
    List.forall₂_map alike fun _ _ _ step => step
  have constant : (node.render options table depth level).eligible =
      (other.render options table another level).eligible := by
    rw [Node.render_eligible, Node.render_eligible, eligible]
  refine ⟨?_, constant, ?_⟩
  · have key : node.keyEntry options.includeKeys = other.keyEntry options.includeKeys := by
      unfold Node.keyEntry
      rw [id]
    have entries := List.map_eq_of_forall₂ (inside form.args) fun _ _ _ agree => agree.entry
    rw [Node.render_expr, Node.render_expr, constant, form.target, form.positional, key, entries]
  · have imports : ((renderArgs options table depth level (node.formAt options table level).args ++
        renderArgs options table depth level (node.formAt options table level).shadowed).flatMap (·.imports)) =
        (renderArgs options table another level (other.formAt options table level).args ++
          renderArgs options table another level (other.formAt options table level).shadowed).flatMap (·.imports) := by
      rw [List.flatMap_def, List.flatMap_def]
      exact congrArg List.flatten (List.map_eq_of_forall₂ (List.rel_append (inside form.args) (inside form.shadowed))
        fun _ _ _ agree => agree.imports)
    rw [Node.render_eq, Node.render_eq]
    dsimp only [Node.assemble]
    rw [imports, form.imports, needed]

/-- Related widgets are written alike, at any two depths, if each is alone, and if the widgets in their forms are
related again. -/
theorem Node.render_agrees_at (id : ∀ {node other}, R node other → node.id = other.id)
    (needed : ∀ {node other}, R node other → node.entryImports table = other.entryImports table)
    (eligible : ∀ {node other}, R node other → node.isConstEligible options.useConstConstructors table =
      other.isConstEligible options.useConstConstructors table)
    (form : ∀ {node other}, R node other → ∀ write, Form.Rel R (node.form write table) (other.form write table))
    (depth another level : Nat) {node other : Node} (related : R node other) :
    (node.render options table depth level).Agrees (other.render options table another level) := by
  apply Node.agrees_of_form (id related) (needed related) (eligible related)
  apply Form.Rel.agrees
  have forms : Form.Rel R (node.formAt options table level) (other.formAt options table level) :=
    form related _
  refine forms.imp_mem fun arg member item found counterpart pair level => ?_
  have : item.weight < node.weight := node.form_lighter _ table arg member item found
  exact Node.render_agrees_at id needed eligible form (depth + 1) (another + 1) level pair
termination_by node.weight

theorem Node.render_agrees (id : ∀ {node other}, R node other → node.id = other.id)
    (needed : ∀ {node other}, R node other → node.entryImports table = other.entryImports table)
    (eligible : ∀ {node other}, R node other → node.isConstEligible options.useConstConstructors table =
      other.isConstEligible options.useConstConstructors table)
    (form : ∀ {node other}, R node other → ∀ write, Form.Rel R (node.form write table) (other.form write table))
    (depth level : Nat) {node other : Node} (related : R node other) :
    (node.render options table depth level).Agrees (other.render options table depth level) :=
  Node.render_agrees_at id needed eligible form depth depth level related

theorem Rendering.Agrees.source_eq (options : Options) {rendering other : Rendering} (agrees : rendering.Agrees other) :
    (Generation.ofRendering options rendering).code = (Generation.ofRendering options other).code ∧
      (Generation.ofRendering options rendering).lineCount = (Generation.ofRendering options other).lineCount ∧
      (Generation.ofRendering options rendering).imports = (Generation.ofRendering options other).imports := by
  have imports : rendering.allImports = other.allImports :=
    congrArg (fun found => sortedNames (Mapping.materialImport :: found)) agrees.imports
  simp only [Generation.ofRendering, imports, agrees.expr, and_self]

/-- A relation between widgets that are written alike as far as they alone are concerned, and that holds again between
the widgets in their forms. -/
structure Counterparts (options : Options) (table : Mapping.Table) (R : Node → Node → Prop) : Prop where
  id : ∀ {node other}, R node other → node.id = other.id
  type : ∀ {node other}, R node other → node.type = other.type
  eligible : ∀ {node other}, R node other → node.isConstEligible options.useConstConstructors table =
    other.isConstEligible options.useConstConstructors table
  form : ∀ {node other}, R node other → ∀ write, Form.Rel R (node.form write table) (other.form write table)

theorem Counterparts.source_eq (counterparts : Counterparts options table R) (related : R node other) :
    let generation := Generation.ofRendering options (node.renderRoot options table)
    let another := Generation.ofRendering options (other.renderRoot options table)
    generation.code = another.code ∧ generation.lineCount = another.lineCount ∧
      generation.imports = another.imports := by
  have needed {node other : Node} (related : R node other) :
      node.entryImports table = other.entryImports table := by
    rw [Node.entryImports, Node.entryImports, counterparts.type related]
  have agrees := Node.render_agrees counterparts.id needed counterparts.eligible counterparts.form 0
    options.rootLevel related
  exact agrees.source_eq options

/-- A widget beside itself, as in a property, or beside what a change makes of its tree. -/
def Beside (change : Node → Node) (allowed : Node → Prop) (node other : Node) : Prop :=
  other = node ∨ other = change node ∧ allowed node

section

variable {change : Node → Node} {allowed : Node → Prop}

theorem Beside.refl (node : Node) : Beside change allowed node node :=
  .inl rfl

theorem Beside.changed (fine : allowed node) : Beside change allowed node (change node) :=
  .inr ⟨rfl, fine⟩

theorem Beside.eq_of_kept {α : Type} {f : Node → α} (kept : ∀ node, f (change node) = f node)
    (related : Beside change allowed node other) : f node = f other := by
  rcases related with rfl | ⟨rfl, _⟩
  · rfl
  · exact (kept node).symm

theorem Counterparts.of_change (id : ∀ node, (change node).id = node.id) (type : ∀ node, (change node).type = node.type)
    (eligible : ∀ node, allowed node → (change node).isConstEligible options.useConstConstructors table =
      node.isConstEligible options.useConstConstructors table)
    (twin : ∀ node, allowed node → node.Twin table (Beside change allowed) (change node))
    (pieces : ∀ write entry node, Form.piecesOf write entry (change node).properties =
      Form.piecesOf write entry node.properties) : Counterparts options table (Beside change allowed) where
  id := Beside.eq_of_kept id
  type := Beside.eq_of_kept type
  eligible {node _} related := by
    rcases related with rfl | ⟨rfl, fine⟩
    · rfl
    · exact (eligible node fine).symm
  form {node _} related write := by
    rcases related with rfl | ⟨rfl, fine⟩
    · exact .refl Beside.refl _
    · apply (twin node fine).form_rel fun _ _ step => congrArg Kind.ofType (step.eq_of_kept type)
      intro isGeneric
      exact Form.mapped_rel (twin node fine) Beside.refl write isGeneric (pieces write _ node).symm

end

structure Visit.Rel (R : Node → Node → Prop) (visit other : Visit) : Prop where
  node : R visit.node other.node
  depth : visit.depth = other.depth
  eligible : visit.eligible = other.eligible

theorem Node.walk_rel {useConst : Bool}
    (children : ∀ {node other}, R node other → List.Forall₂ R node.children other.children)
    (eligible : ∀ {node other}, R node other →
      node.isConstEligible useConst table = other.isConstEligible useConst table)
    (depth : Nat) {node other : Node} (related : R node other) :
    List.Forall₂ (Visit.Rel R) (node.walk useConst table depth).visits (other.walk useConst table depth).visits := by
  rw [walk_visits, walk_visits]
  refine List.rel_append ?_ (.cons ⟨related, rfl, eligible related⟩ .nil)
  rw [List.flatMap_def, List.flatMap_def]
  refine List.rel_flatten (List.forall₂_map (children related) fun child member another step => ?_)
  have : child.weight < node.weight := Node.child_weight member
  exact Node.walk_rel children eligible (depth + 1) step
termination_by node.weight

namespace Statistics

variable {visit another : Visit} {visits others : List Visit}

theorem recordAll_rel {S : Statistics → Statistics → Prop} {R : Visit → Visit → Prop} {stats old : Statistics}
    (step : ∀ {stats old visit another}, S stats old → R visit another → S (stats.record visit) (old.record another))
    (same : S stats old) (related : List.Forall₂ R visits others) : S (stats.recordAll visits) (old.recordAll others) := by
  induction related generalizing stats old with
  | nil => exact same
  | cons first _ ih => exact ih (step same first)

def withoutProperties (stats : Statistics) : Statistics :=
  { stats with propertyUsageCounts := [] }

theorem record_withoutProperties {stats old : Statistics} (same : stats.withoutProperties = old.withoutProperties)
    (related : Visit.Rel (fun node other => node.type = other.type) visit another) :
    (stats.record visit).withoutProperties = (old.record another).withoutProperties := by
  obtain ⟨type, depth, eligible⟩ := related
  simp only [withoutProperties, mk.injEq] at same
  obtain ⟨total, deepest, types, _, constants, navigation, forms, animations⟩ := same
  simp only [record, withoutProperties, Node.normalizedType, type, depth, eligible, total, deepest, types, constants,
    navigation, forms, animations]

theorem recordAll_withoutProperties {stats old : Statistics} (same : stats.withoutProperties = old.withoutProperties)
    (related : List.Forall₂ (Visit.Rel fun node other => node.type = other.type) visits others) :
    (stats.recordAll visits).withoutProperties = (old.recordAll others).withoutProperties :=
  recordAll_rel (S := fun stats old => stats.withoutProperties = old.withoutProperties) record_withoutProperties
    same related

theorem record_eq (stats : Statistics) (related : Visit.Rel (fun node other => node.type = other.type ∧
      (Fields.names node.properties).Perm (Fields.names other.properties)) visit another) :
    stats.record visit = stats.record another := by
  obtain ⟨⟨type, names⟩, depth, eligible⟩ := related
  have counted (properties : Fields Value) : stats.propertyUsageCounts.bumpAll properties =
      (Fields.names properties).foldl (fun counts name => counts.bump name) stats.propertyUsageCounts := by
    rw [Counts.bumpAll, Fields.names, List.foldl_map]
  have properties : stats.propertyUsageCounts.bumpAll visit.node.properties =
      stats.propertyUsageCounts.bumpAll another.node.properties := by
    rw [counted, counted]
    exact names.foldl_eq' (fun first _ second _ counts => Counts.bump_comm first second counts) _
  simp only [Counts.bumpAll] at properties
  simp only [record, Node.normalizedType, type, depth, eligible, properties]

theorem recordAll_eq_of_rel (stats : Statistics) (related : List.Forall₂ (Visit.Rel fun node other =>
      node.type = other.type ∧ (Fields.names node.properties).Perm (Fields.names other.properties)) visits others) :
    stats.recordAll visits = stats.recordAll others :=
  recordAll_rel (S := Eq) (fun same step => same ▸ record_eq _ step) rfl related

end Statistics

theorem Node.recordAll_renderRoot (options : Options) (table : Mapping.Table) (root : Node) :
    Statistics.recordAll {} (root.renderRoot options table).visits =
      Statistics.recordAll {} (root.walk options.useConstConstructors table 0).visits :=
  Statistics.recordAll_perm {} (root.render_visits_perm options table 0 options.rootLevel)

end WidgetSource
