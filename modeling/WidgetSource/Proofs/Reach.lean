import WidgetSource.Proofs.Constness

namespace WidgetSource

open Relation (ReflTransGen)

variable {table : Mapping.Table} {node inner : Node}

namespace Node

/-- One step into a widget: to a child, to the widget that a property describes, or to one of a list of widgets. -/
inductive Holds (node : Node) : Node → Prop
  | child {inner : Node} : inner ∈ node.children → Holds node inner
  | property {name : String} {value : Value} {inner : Node} : (name, value) ∈ node.properties →
      isValueName name = false → value.widget? = some inner → Holds node inner
  | listed {name : String} {items : List Value} {item : Value} {inner : Node} : (name, .list items) ∈ node.properties →
      isValueName name = false → item ∈ items → item.widget? = some inner → Holds node inner

theorem mem_widgets_iff {value : Value} :
    inner ∈ value.widgets ↔
      value.widget? = some inner ∨ ∃ items, value = .list items ∧ ∃ item ∈ items, item.widget? = some inner := by
  cases value with
  | list items => simp [Value.widgets, Value.widget?, Value.field?]
  | _ => simp [Value.widgets]

theorem holds_iff : node.Holds inner ↔ inner ∈ node.children ∨ inner ∈ node.embedded := by
  constructor
  · intro step
    cases step with
    | child member => exact .inl member
    | property given widgetName found =>
      exact .inr (Node.embedded_of_property given widgetName (mem_widgets_iff.mpr (.inl found)))
    | listed given widgetName member found =>
      exact .inr (Node.embedded_of_property given widgetName (mem_widgets_iff.mpr (.inr ⟨_, rfl, _, member, found⟩)))
  · rintro (member | member)
    · exact .child member
    · obtain ⟨⟨name, value⟩, given, inside⟩ := List.mem_flatMap.mp member
      cases valueName : isValueName name with
      | true => simp [valueName] at inside
      | false =>
        simp only [valueName, Bool.false_eq_true, if_false] at inside
        rcases mem_widgets_iff.mp inside with found | ⟨items, rfl, item, listed, found⟩
        · exact .property given valueName found
        · exact .listed given valueName listed found

theorem Holds.weight (step : node.Holds inner) : inner.weight < node.weight :=
  (holds_iff.mp step).elim child_weight embedded_weight

/-- Nothing in a widget itself waits for the run time: neither its constructor, nor what it is written as, nor a property
that is set. -/
structure IsStill (table : Mapping.Table) (node : Node) : Prop where
  hasConst : node.kind.hasConstConstructor = true
  unblocked : node.blocksConst table = false
  static : ∀ name value, (name, value) ∈ node.properties → isDynamicName name = true → value.isNull = true

theorem isLocallyConst_iff : node.isLocallyConst table = true ↔ node.IsStill table := by
  have static : node.hasDynamicProperty = false ↔
      ∀ name value, (name, value) ∈ node.properties → isDynamicName name = true → value.isNull = true := by
    simp only [hasDynamicProperty, List.any_eq_false, Bool.and_eq_true, not_and, Bool.not_eq_true', Prod.forall]
    refine forall_congr' fun name => forall_congr' fun value => forall_congr' fun _ => ?_
    cases value.isNull <;> cases isDynamicName name <;> decide
  simp only [isLocallyConst, Bool.and_eq_true, Bool.not_eq_true', static]
  constructor
  · rintro ⟨⟨hasConst, unblocked⟩, static⟩
    exact ⟨hasConst, unblocked, static⟩
  · intro still
    exact ⟨⟨still.hasConst, still.unblocked⟩, still.static⟩

theorem canBeConst_iff_holds : node.canBeConst table = true ↔
    node.IsStill table ∧ ∀ inner, node.Holds inner → inner.canBeConst table = true := by
  rw [canBeConst_eq, allowsConst]
  simp only [Bool.and_eq_true, List.all_eq_true, isLocallyConst_iff, holds_iff, or_imp, forall_and]
  tauto

theorem canBeConst_of_reach (reach : ReflTransGen Holds node inner) (canBeConst : node.canBeConst table = true) :
    inner.canBeConst table = true := by
  induction reach with
  | refl => exact canBeConst
  | tail _ step ih => exact (canBeConst_iff_holds.mp ih).2 _ step

theorem canBeConst_of_all_still (node : Node) (still : ∀ inner, ReflTransGen Holds node inner → inner.IsStill table) :
    node.canBeConst table = true := by
  refine canBeConst_iff_holds.mpr ⟨still node .refl, fun inner step => ?_⟩
  have : inner.weight < node.weight := step.weight
  exact canBeConst_of_all_still inner fun deeper reach => still deeper (.head step reach)
termination_by node.weight

end Node

/-- A widget is eligible for a constant exactly if all widgets within its reach are still. One that is not keeps every
widget on the way to it from being constant, and without constants none is eligible. -/
theorem isConstEligible_iff_reach (table : Mapping.Table) (node : Node) :
    (node.isConstEligible true table = true ↔ ∀ inner, ReflTransGen Node.Holds node inner → inner.IsStill table) ∧
    (∀ between inner, ReflTransGen Node.Holds node between → ReflTransGen Node.Holds between inner →
      ¬ inner.IsStill table →
        node.isConstEligible true table = false ∧ between.isConstEligible true table = false) ∧
    node.isConstEligible false table = false := by
  have all_still (node : Node) : node.isConstEligible true table = true ↔
      ∀ inner, ReflTransGen Node.Holds node inner → inner.IsStill table := by
    rw [Node.isConstEligible, Bool.true_and]
    exact ⟨fun canBeConst inner reach => (Node.canBeConst_iff_holds.mp (Node.canBeConst_of_reach reach canBeConst)).1,
      Node.canBeConst_of_all_still node⟩
  have kept {outer inner : Node} (reach : ReflTransGen Node.Holds outer inner) (moves : ¬ inner.IsStill table) :
      outer.isConstEligible true table = false := by
    rw [← Bool.not_eq_true, all_still outer]
    exact fun all => moves (all inner reach)
  exact ⟨all_still node, fun between inner first second moves =>
    ⟨kept (first.trans second) moves, kept second moves⟩, rfl⟩

end WidgetSource
