import WidgetSource.Proofs.Counterparts

namespace WidgetSource

variable {table : Mapping.Table}

theorem List.flatMap_filter_of_nil {α β : Type} {f : α → List β} {p : α → Bool} (items : List α)
    (nil : ∀ item, p item = false → f item = []) : (items.filter p).flatMap f = items.flatMap f := by
  induction items with
  | nil => rfl
  | cons item items ih =>
    cases kept : p item with
    | true => rw [List.filter_cons_of_pos kept, List.flatMap_cons, List.flatMap_cons, ih]
    | false => rw [List.filter_cons_of_neg (by simp [kept]), List.flatMap_cons, nil item kept, List.nil_append, ih]

theorem Option.bind_filter_of_none {α β : Type} {f : α → Option β} {p : α → Bool} (option : Option α)
    (none : ∀ item, p item = false → f item = none) : (option.filter p).bind f = option.bind f := by
  cases option with
  | none => rfl
  | some item =>
    cases kept : p item with
    | true => rw [Option.filter_some_pos kept]
    | false => rw [Option.filter_some_neg (by simp [kept]), Option.bind_some, none item kept, Option.bind_none]

theorem Fields.get?_filter {α : Type} {fields : Fields α} (once : (names fields).Nodup) (p : α → Bool) (name : String) :
    get? name (fields.filter fun field => p field.2) = (get? name fields).filter p := by
  induction fields with
  | nil => rfl
  | cons field fields ih =>
    obtain ⟨first, a⟩ := field
    obtain ⟨apart, once⟩ := List.nodup_cons.mp once
    have missing : get? first fields = none := get?_eq_none apart
    rw [List.filter_cons]
    dsimp only
    by_cases here : first = name
    · subst here
      cases kept : p a <;> simp [get?, Option.filter_some, kept, ih once, missing]
    · cases kept : p a <;> simp [get?, here, ih once]

theorem Value.isNull_or_isTruthy (value : Value) : (!value.isNull && value.isTruthy) = value.isTruthy := by
  cases value with
  | text s => simp [isNull, isTruthy, Bool.and_left_comm, bne]
  | null | bool | number | list | map => rfl

theorem Value.field?_of_isNull {value : Value} (null : value.isNull = true) (name : String) :
    value.field? name = none := by
  cases value with
  | map => cases null
  | null | bool | number | text | list => rfl

theorem Value.widgets_of_isNull {value : Value} (null : value.isNull = true) : value.widgets = [] := by
  cases value with
  | list | map => cases null
  | null | bool | number | text => rfl

namespace Node

mutual

def cleared : Node → Node
  | ⟨id, type, properties, children⟩ =>
    ⟨id, type, properties.filter fun property => !property.2.isNull, clearedAll children⟩

def clearedAll : List Node → List Node
  | [] => []
  | node :: nodes => node.cleared :: clearedAll nodes

end

theorem clearedAll_eq (nodes : List Node) : clearedAll nodes = nodes.map cleared := by
  induction nodes with
  | nil => rfl
  | cons node nodes ih => rw [clearedAll, ih, List.map_cons]

theorem cleared_eq (node : Node) : node.cleared = ⟨node.id, node.type,
    node.properties.filter fun property => !property.2.isNull, node.children.map cleared⟩ := by
  obtain ⟨id, type, properties, children⟩ := node
  rw [cleared, clearedAll_eq]

theorem cleared_property? {node : Node} (once : node.NamesOnce) (name : String) :
    node.cleared.property? name = node.property? name := by
  have here := (namesOnce_iff.mp once).1
  rw [property?, property?, cleared_eq, Fields.get?_filter here fun value => !value.isNull, Option.filter_filter]
  simp only [Bool.and_self]

theorem cleared_styleField {node : Node} (once : node.NamesOnce) (name : String) :
    Dart.styleField node.cleared.properties name = Dart.styleField node.properties name := by
  have here := (namesOnce_iff.mp once).1
  have field (name : String) : Fields.get? name node.cleared.properties =
      (Fields.get? name node.properties).filter fun value => !value.isNull := by
    rw [cleared_eq, Fields.get?_filter here fun value => !value.isNull]
  -- A cleared style has no fields, so that its loss changes nothing for them.
  have nested : ((Fields.get? "style" node.properties).filter fun value => !value.isNull).bind (·.field? name) =
      (Fields.get? "style" node.properties).bind (·.field? name) :=
    Option.bind_filter_of_none _ fun value null => Value.field?_of_isNull (by simpa using null) name
  rw [Dart.styleField, Dart.styleField, field, field, nested, Option.filter_filter]
  simp only [Value.isNull_or_isTruthy]

theorem cleared_hasDynamicProperty (node : Node) : node.cleared.hasDynamicProperty = node.hasDynamicProperty := by
  rw [hasDynamicProperty, hasDynamicProperty, cleared_eq, List.any_filter]
  simp only [← Bool.and_assoc, Bool.and_self]

theorem cleared_embedded (node : Node) : node.cleared.embedded = node.embedded := by
  rw [embedded, embedded, cleared_eq]
  refine List.flatMap_filter_of_nil _ fun (name, value) null => ?_
  dsimp only
  rw [Value.widgets_of_isNull (by simpa using null), ite_self]

theorem cleared_piecesOf (write : Dart.Expr → String) (entry : Option Mapping.Entry) (node : Node) :
    Form.piecesOf write entry node.cleared.properties = Form.piecesOf write entry node.properties := by
  rw [Form.piecesOf, Form.piecesOf, cleared_eq, List.filterMap_filter]
  refine List.filterMap_congr fun (name, value) _ => ?_
  dsimp only
  split
  · rfl
  · next null => rw [Form.pieceOf?, if_pos (by simpa using null)]

variable {node : Node}

theorem cleared_children (once : node.NamesOnce) :
    List.Forall₂ (Beside cleared NamesOnce) node.children node.cleared.children := by
  rw [cleared_eq, List.forall₂_map_right_iff, List.forall₂_same]
  intro child member
  exact .changed ((namesOnce_iff.mp once).2 child member)

theorem cleared_twin (once : node.NamesOnce) : node.Twin table (Beside cleared NamesOnce) node.cleared where
  type := by rw [cleared_eq]
  property name := by
    rw [cleared_property? once]
    exact Option.rel_refl (.refl Beside.refl) _
  style name := by
    rw [cleared_styleField once]
    exact Option.rel_refl .refl _
  children _ := cleared_children once

theorem besideCleared_children {node other : Node} (related : Beside cleared NamesOnce node other) :
    List.Forall₂ (Beside cleared NamesOnce) node.children other.children := by
  rcases related with rfl | ⟨rfl, once⟩
  · exact List.forall₂_same.mpr fun child _ => .refl child
  · exact cleared_children once

theorem cleared_canBeConst {node : Node} (once : node.NamesOnce) :
    node.cleared.canBeConst table = node.canBeConst table := by
  have locally : node.isLocallyConst table = node.cleared.isLocallyConst table :=
    (cleared_twin once).isLocallyConst_eq (cleared_hasDynamicProperty node).symm
  have children : node.cleared.children.all (·.canBeConst table) = node.children.all (·.canBeConst table) := by
    rw [cleared_eq, List.all_map, Bool.eq_iff_iff, List.all_eq_true, List.all_eq_true]
    apply forall₂_congr
    intro child member
    have : child.weight < node.weight := child_weight member
    rw [Function.comp_apply, cleared_canBeConst ((namesOnce_iff.mp once).2 child member)]
  rw [canBeConst_eq, canBeConst_eq, children, allowsConst, allowsConst, ← locally, cleared_embedded]
termination_by node.weight

theorem cleared_counterparts (options : Options) (table : Mapping.Table) :
    Counterparts options table (Beside cleared NamesOnce) := by
  apply Counterparts.of_change
  · intro node
    rw [cleared_eq]
  · intro node
    rw [cleared_eq]
  · intro node once
    rw [isConstEligible, isConstEligible, cleared_canBeConst once]
  · intro node once
    exact cleared_twin once
  · exact cleared_piecesOf

end Node

/-- A property that is null, or the word for it, is as good as none: without these properties the source is the same, and
so are all figures but the numbers of properties. -/
theorem generate_cleared (options : Options) (table : Mapping.Table) {root : Node} (once : root.NamesOnce)
    (valid : options.fault? = none) :
    ∃ generation cleared, generate options table root = .ok generation ∧
      generate options table root.cleared = .ok cleared ∧
      generation.code = cleared.code ∧ generation.lineCount = cleared.lineCount ∧
      generation.imports = cleared.imports ∧ generation.widgetCount = cleared.widgetCount ∧
      generation.maxDepth = cleared.maxDepth ∧
      generation.statistics.map Statistics.withoutProperties =
        cleared.statistics.map Statistics.withoutProperties := by
  have counterparts := Node.cleared_counterparts options table
  have ⟨code, lines, imports⟩ := counterparts.source_eq (.changed once)
  have visits := root.walk_rel Node.besideCleared_children counterparts.eligible 0 (.changed once)
  have figures : (Statistics.recordAll {} (root.renderRoot options table).visits).withoutProperties =
      (Statistics.recordAll {} (root.cleared.renderRoot options table).visits).withoutProperties := by
    rw [Node.recordAll_renderRoot, Node.recordAll_renderRoot]
    apply Statistics.recordAll_withoutProperties rfl
    exact visits.imp fun _ _ step => ⟨counterparts.type step.node, step.depth, step.eligible⟩
  have count := congrArg Statistics.totalWidgets figures
  have depth := congrArg Statistics.maxDepth figures
  refine ⟨.ofRendering options (root.renderRoot options table),
    .ofRendering options (root.cleared.renderRoot options table), by rw [generate, valid], by rw [generate, valid],
    code, lines, imports, count, depth, ?_⟩
  simp only [Generation.ofRendering]
  split
  · exact congrArg some figures
  · rfl

def clearedBadge : Node :=
  ⟨none, "Badge", [("onTap", .text "null"), ("size", .number .zero)], [
    ⟨none, "text", [("text", .text "Hi"), ("color", .null), ("style", .map [("color", .text "red")])], []⟩]⟩

theorem clearedBadge_generated : clearedBadge.NamesOnce ∧ ({} : Options).fault? = none ∧
    ∃ generation cleared, generate {} .stock clearedBadge = .ok generation ∧
      generate {} .stock ⟨none, "Badge", [("size", .number .zero)], [
        ⟨none, "text", [("text", .text "Hi"), ("style", .map [("color", .text "red")])], []⟩]⟩ = .ok cleared ∧
      generation.code = cleared.code ∧ generation.lineCount = cleared.lineCount ∧
      generation.imports = cleared.imports ∧ generation.widgetCount = cleared.widgetCount ∧
      generation.maxDepth = cleared.maxDepth ∧
      generation.statistics.map Statistics.withoutProperties =
        cleared.statistics.map Statistics.withoutProperties :=
  have once : clearedBadge.NamesOnce := by
    unfold Node.NamesOnce
    decide
  have valid : ({} : Options).fault? = none := by decide
  ⟨once, valid, generate_cleared {} .stock once valid⟩

end WidgetSource
