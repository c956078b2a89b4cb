import WidgetSource.Proofs.Counterparts

/-!
# Types in other spellings

Only the normalized type of a widget is read, except where a widget of no known kind is written under its own type, and
where the figures name the types. A tree of other spellings of the same types has the same source, and the same figures
but for these names.
-/
namespace WidgetSource

variable {options : Options} {table : Mapping.Table}

/-- Two spellings of one type. Where they differ, the type has a form of its own or an entry in the table. -/
structure Spellings (table : Mapping.Table) (type other : String) : Prop where
  normalized : normalizeType type = normalizeType other
  known : type = other ∨ Kind.ofType type ≠ .generic ∨ table.contains type = true

namespace Spellings

theorem refl (type : String) : Spellings table type type :=
  ⟨rfl, .inl rfl⟩

variable {type other : String} (same : Spellings table type other)
include same

theorem kind_eq : Kind.ofType type = Kind.ofType other := by
  rw [Kind.ofType, Kind.ofType, same.normalized]

theorem lookup?_eq : table.lookup? type = table.lookup? other := by
  rw [Mapping.Table.lookup?, Mapping.Table.lookup?, same.normalized]

theorem takesChildren_eq : takesChildren table type = takesChildren table other := by
  rw [takesChildren, takesChildren, same.lookup?_eq]

theorem dropsChildren_eq : dropsChildren table type = dropsChildren table other := by
  delta dropsChildren
  rw [same.kind_eq, same.takesChildren_eq]

/-- Without an entry the type itself would be written, which only its first spelling is then. -/
theorem genericTarget_eq (isGeneric : Kind.ofType type = .generic) :
    genericTarget table type = genericTarget table other := by
  rcases same.known with rfl | named | mapped
  · rfl
  · exact absurd isGeneric named
  · obtain ⟨entry, found⟩ := Option.isSome_iff_exists.mp mapped
    rw [genericTarget, genericTarget, ← same.lookup?_eq, found]
    rfl

end Spellings

namespace Node

def retyped (type : String) (node : Node) : Node :=
  { node with type }

section

variable {node : Node} {type : String} (same : Spellings table node.type type)
include same

theorem retyped_kind : (node.retyped type).kind = node.kind :=
  same.kind_eq.symm

theorem retyped_mapped (write : Dart.Expr → String) (isGeneric : node.kind = .generic) :
    Form.mapped write table (node.retyped type) = Form.mapped write table node := by
  simp only [Form.mapped, retyped, ← same.lookup?_eq, ← same.genericTarget_eq isGeneric, ← same.takesChildren_eq]

theorem retyped_form (write : Dart.Expr → String) : (node.retyped type).form write table = node.form write table := by
  have written : Form.ofKind write table (node.retyped type) node.kind = Form.ofKind write table node node.kind := by
    cases kind : node.kind with
    | generic => exact retyped_mapped same write kind
    | _ => rfl
  have dropped : dropsChildren table (node.retyped type).type = dropsChildren table node.type :=
    same.dropsChildren_eq.symm
  simp only [form, retyped_kind same, written, dropped]
  rfl

theorem retyped_blocksConst : (node.retyped type).blocksConst table = node.blocksConst table := by
  unfold blocksConst
  rw [retyped_kind same]
  cases kind : node.kind with
  | generic =>
    dsimp only [retyped]
    rw [same.genericTarget_eq kind]
  | _ => rfl

theorem retyped_isLocallyConst : (node.retyped type).isLocallyConst table = node.isLocallyConst table := by
  rw [isLocallyConst, isLocallyConst, retyped_kind same, retyped_blocksConst same]
  rfl

end

inductive Respelled (table : Mapping.Table) : Node → Node → Prop
  | mk {id type other properties children below} : Spellings table type other →
      List.Forall₂ (Respelled table) children below →
      Respelled table ⟨id, type, properties, children⟩ ⟨id, other, properties, below⟩

theorem Respelled.refl (node : Node) : node.Respelled table node := by
  obtain ⟨id, type, properties, children⟩ := node
  refine .mk (.refl type) (List.forall₂_same.mpr fun child member => ?_)
  have := weight_le_weightAll member
  exact Respelled.refl child
termination_by node.weight
decreasing_by
  simp only [weight]
  omega

variable {node other : Node}

section

variable (same : node.Respelled table other)
include same

theorem Respelled.id_eq : node.id = other.id := by
  cases same
  rfl

theorem Respelled.spellings : Spellings table node.type other.type := by
  cases same with
  | mk spellings _ => exact spellings

theorem Respelled.properties_eq : node.properties = other.properties := by
  cases same
  rfl

theorem Respelled.children : List.Forall₂ (Respelled table) node.children other.children := by
  cases same with
  | mk _ children => exact children

theorem Respelled.twin : (node.retyped other.type).Twin table (Respelled table) other where
  type := rfl
  property name := by
    rw [property?, property?, ← same.properties_eq]
    exact Option.rel_refl (.refl Respelled.refl) _
  style name := by
    rw [← same.properties_eq]
    exact Option.rel_refl .refl _
  children _ := same.children

theorem Respelled.form_rel (write : Dart.Expr → String) :
    Form.Rel (Respelled table) (node.form write table) (other.form write table) := by
  rw [← retyped_form same.spellings write]
  refine same.twin.form_rel (fun _ _ step => step.spellings.kind_eq) write fun isGeneric => ?_
  refine Form.mapped_rel same.twin Respelled.refl write isGeneric ?_
  rw [← same.properties_eq]
  rfl

theorem Respelled.entryImports_eq : node.entryImports table = other.entryImports table := by
  rw [entryImports, entryImports, same.spellings.lookup?_eq]

theorem Respelled.isLocallyConst_eq : node.isLocallyConst table = other.isLocallyConst table := by
  rw [← retyped_isLocallyConst same.spellings]
  refine same.twin.isLocallyConst_eq ?_
  rw [hasDynamicProperty, hasDynamicProperty, ← same.properties_eq]
  rfl

end

theorem Respelled.canBeConst_eq {node other : Node} (same : node.Respelled table other) :
    node.canBeConst table = other.canBeConst table := by
  have children : node.children.all (·.canBeConst table) = other.children.all (·.canBeConst table) :=
    List.all_eq_of_forall₂ same.children fun child member another step =>
      have : child.weight < node.weight := child_weight member
      canBeConst_eq step
  rw [Node.canBeConst_eq, Node.canBeConst_eq, allowsConst, allowsConst, same.isLocallyConst_eq, children, embedded,
    embedded, same.properties_eq]
termination_by node.weight

theorem Respelled.isConstEligible_eq (useConst : Bool) (same : node.Respelled table other) :
    node.isConstEligible useConst table = other.isConstEligible useConst table := by
  rw [isConstEligible, isConstEligible, same.canBeConst_eq]

end Node

namespace Statistics

def withoutTypes (stats : Statistics) : Statistics :=
  { stats with widgetTypeCounts := [] }

theorem record_withoutTypes {stats old : Statistics} {visit another : Visit}
    (same : stats.withoutTypes = old.withoutTypes) (related : Visit.Rel (Node.Respelled table) visit another) :
    (stats.record visit).withoutTypes = (old.record another).withoutTypes := by
  obtain ⟨node, depth, eligible⟩ := related
  simp only [withoutTypes, mk.injEq] at same
  obtain ⟨total, deepest, _, properties, constants, navigation, forms, animations⟩ := same
  simp only [record, withoutTypes, Node.normalizedType, node.spellings.normalized, node.properties_eq, depth, eligible,
    total, deepest, properties, constants, navigation, forms, animations]

theorem recordAll_withoutTypes {stats old : Statistics} {visits others : List Visit}
    (same : stats.withoutTypes = old.withoutTypes)
    (related : List.Forall₂ (Visit.Rel (Node.Respelled table)) visits others) :
    (stats.recordAll visits).withoutTypes = (old.recordAll others).withoutTypes :=
  recordAll_rel (S := fun stats old => stats.withoutTypes = old.withoutTypes) record_withoutTypes same related

end Statistics

/-- The spelling of a type makes no difference to the source and to the figures, but for the counts by type, if the type
has a form of its own or an entry. -/
theorem generate_respelled (options : Options) (table : Mapping.Table) {root other : Node}
    (same : root.Respelled table other) (valid : options.fault? = none) :
    ∃ generation another, generate options table root = .ok generation ∧
      generate options table other = .ok another ∧
      generation.code = another.code ∧ generation.lineCount = another.lineCount ∧
      generation.imports = another.imports ∧ generation.widgetCount = another.widgetCount ∧
      generation.maxDepth = another.maxDepth ∧
      generation.statistics.map Statistics.withoutTypes = another.statistics.map Statistics.withoutTypes := by
  have eligible {node other : Node} (same : node.Respelled table other) :=
    same.isConstEligible_eq options.useConstConstructors
  have agrees := Node.render_agrees Node.Respelled.id_eq Node.Respelled.entryImports_eq eligible
    Node.Respelled.form_rel 0 options.rootLevel same
  obtain ⟨code, lines, imports⟩ := agrees.source_eq options
  have figures : (Statistics.recordAll {} (root.renderRoot options table).visits).withoutTypes =
      (Statistics.recordAll {} (other.renderRoot options table).visits).withoutTypes := by
    rw [Node.recordAll_renderRoot, Node.recordAll_renderRoot]
    exact Statistics.recordAll_withoutTypes rfl (root.walk_rel Node.Respelled.children eligible 0 same)
  have count := congrArg Statistics.totalWidgets figures
  have depth := congrArg Statistics.maxDepth figures
  refine ⟨.ofRendering options (root.renderRoot options table), .ofRendering options (other.renderRoot options table),
    by rw [generate, valid], by rw [generate, valid], code, lines, imports, count, depth, ?_⟩
  simp only [Generation.ofRendering]
  split
  · exact congrArg some figures
  · rfl

def badgeTable : Mapping.Table :=
  .put (((Mapping.Entry.ofTarget "user_badge" "Badge").withChildren true).withImport "package:badges/badges.dart")
    .empty

def snakeList : Node :=
  ⟨none, "list_view", [("shrinkWrap", .bool true)], [⟨none, "user_badge", [("label", .text "Hi")], [.ofType "text"]⟩]⟩

def camelList : Node :=
  ⟨none, "ListView", [("shrinkWrap", .bool true)], [⟨none, "UserBadge", [("label", .text "Hi")], [.ofType "text"]⟩]⟩

theorem snakeList_respelled : snakeList.Respelled badgeTable camelList := by
  have list : Spellings badgeTable "list_view" "ListView" := ⟨by decide, .inr (.inl (by decide))⟩
  have badge : Spellings badgeTable "user_badge" "UserBadge" := ⟨by decide, .inr (.inr (by decide))⟩
  exact .mk list (.cons (.mk badge (.cons (.refl _) .nil)) .nil)

theorem snakeList_generated : snakeList.Respelled badgeTable camelList ∧ ({} : Options).fault? = none ∧
    ∃ generation another, generate {} badgeTable snakeList = .ok generation ∧
      generate {} badgeTable camelList = .ok another ∧
      generation.code = another.code ∧ generation.lineCount = another.lineCount ∧
      generation.imports = another.imports ∧ generation.widgetCount = another.widgetCount ∧
      generation.maxDepth = another.maxDepth ∧
      generation.statistics.map Statistics.withoutTypes = another.statistics.map Statistics.withoutTypes :=
  have valid : ({} : Options).fault? = none := by decide
  ⟨snakeList_respelled, valid, generate_respelled {} badgeTable snakeList_respelled valid⟩

end WidgetSource
