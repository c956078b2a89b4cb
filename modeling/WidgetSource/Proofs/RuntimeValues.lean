import WidgetSource.Proofs.Constness
import WidgetSource.Proofs.Forms
import WidgetSource.Proofs.RuntimeFree

namespace WidgetSource

open Dart (Expr Phrase RuntimeFree EntryAllowed)

variable (options : Options) {runtime : Prop} {node item : Node}

theorem Node.eligible_inside {table : Mapping.Table} {useConst : Bool}
    (inside : item ∈ node.children ∨ item ∈ node.embedded ∨ node.headerBar? = some item)
    (eligible : node.isConstEligible useConst table = true) : item.isConstEligible useConst table = true := by
  obtain ⟨wanted, allowed, children⟩ := (Node.isConstEligible_iff table).mp eligible
  rcases inside with child | embedded | header
  · exact children item child
  · exact Node.embedded_eligible table wanted allowed embedded
  · have isConst := (Bool.and_eq_true_iff.mp allowed).1
    rw [Node.not_const_of_headerBar header] at isConst
    cases isConst

theorem Node.form_phrased (write : Expr → String) (needed : node.isLocallyConst .empty = false → runtime)
    (named : node.kind = .generic → node.Named) : (node.form write .empty).Phrased runtime := by
  have phrased := Form.ofKind_phrased needed write named
  refine ⟨?_, ?_, ?_, ?_⟩
  · rw [form_target]
    exact phrased.target
  · rw [form_target]
    exact phrased.mild
  · rw [form_positional]
    exact phrased.positional
  · rw [form_allArgs]
    exact phrased.args

theorem Node.keyEntry_phrased (includeKeys : Bool) (node : Node) :
    ∀ entry ∈ node.keyEntry includeKeys, EntryAllowed runtime entry ∧ entry.2.Phrased runtime := by
  unfold keyEntry
  split
  · rename_i id _
    have call : Phrase runtime False ("Key(" ++ Dart.textLiteral id ++ ")").toList :=
      .plainCall "Key" [(none, Dart.textLiteral id)] (by simp [Dart.callChars, Dart.labelled]) (by decide)
        (.positional (Dart.textLiteral_phrase id) .nil)
    have constant : Phrase runtime False ("const Key(" ++ Dart.textLiteral id ++ ")").toList :=
      call.constantText (by simp)
    intro entry member
    cases List.mem_singleton.mp member
    exact ⟨⟨by decide, Dart.allowed_of_static (.inr (by decide))⟩, .text constant⟩
  · exact fun entry none => absurd none List.not_mem_nil

theorem Slot.expr_phrased (useConst : Bool) {place : Slot Node} {render : Node → Rendering}
    (phrased : ∀ item ∈ place.toList, (render item).expr.Phrased runtime) :
    ((place.map render).expr useConst).Phrased runtime := by
  have items (nodes : List Node) (each : ∀ item ∈ nodes, (render item).expr.Phrased runtime) :
      (Expr.list ((nodes.map render).map (·.expr))).Phrased runtime := by
    rw [List.map_map]
    exact .list (List.forall_mem_map.mpr each)
  cases place with
  | one item => exact phrased item List.mem_cons_self
  | list nodes => exact items nodes phrased
  | column nodes =>
    refine .call (by decide) (.inr (Dart.isMildCall_of_no_dot (by decide))) (fun _ none => by cases none) ?_ ?_
    · exact List.forall_mem_singleton.mpr ⟨by decide, Dart.allowed_of_static (.inr (by decide))⟩
    · exact List.forall_mem_singleton.mpr (items nodes phrased)

theorem Argument.entry_phrased (useConst : Bool) {arg : Argument Node} {render : Node → Rendering}
    (allowed : ArgumentPhrased runtime arg) (phrased : ∀ item ∈ arg.items, (render item).expr.Phrased runtime) :
    EntryAllowed runtime ((arg.map render).entry useConst) ∧ ((arg.map render).entry useConst).2.Phrased runtime := by
  cases arg with
  | value label expr => exact allowed
  | slot name embedded place =>
    exact ⟨⟨allowed.1, Dart.allowed_of_static allowed.2⟩, Slot.expr_phrased useConst phrased⟩

/-- What is written for a widget is a phrase. Only one that cannot be constant may wait for the run time. -/
theorem Node.render_phrased (depth level : Nat) (node : Node)
    (named : ∀ widget, Within node widget → widget.kind = .generic → widget.Named)
    (needed : node.isConstEligible options.useConstConstructors .empty = false → runtime) :
    (node.render options .empty depth level).expr.Phrased runtime := by
  have alone (noConst : node.isLocallyConst .empty = false) : runtime := by
    refine needed ?_
    rw [isConstEligible, canBeConst_eq, allowsConst, noConst, Bool.false_and, Bool.false_and, Bool.and_false]
  have form : (node.formAt options .empty level).Phrased runtime := Node.form_phrased _ alone (named node .root)
  have below (arg : Argument Node) (member : arg ∈ (node.formAt options .empty level).args) (item : Node)
      (inside : item ∈ arg.items) :
      (item.render options .empty (depth + 1) (level + arg.inset)).expr.Phrased runtime := by
    -- What is inside is lighter, and a constant if the widget itself is one.
    have place := Node.inside_of_form _ (List.mem_append_left _ member) inside
    have : item.weight < node.weight := node.form_lighter _ .empty arg (List.mem_append_left _ member) item inside
    refine Node.render_phrased (depth + 1) (level + arg.inset) item
      (fun widget within => named widget ((Within.of_inside place).trans within)) fun noConst => needed ?_
    rw [← Bool.not_eq_true] at noConst ⊢
    exact fun eligible => noConst (Node.eligible_inside place eligible)
  rw [render_expr]
  have entries : ∀ entry ∈ node.keyEntry options.includeKeys ++
      (renderArgs options .empty depth level (node.formAt options .empty level).args).map
        (·.entry options.useConstConstructors), EntryAllowed runtime entry ∧ entry.2.Phrased runtime := by
    refine List.forall_mem_append.mpr ⟨Node.keyEntry_phrased options.includeKeys node, ?_⟩
    rw [renderArgs, List.map_map]
    exact List.forall_mem_map.mpr fun arg member => Argument.entry_phrased options.useConstConstructors
      (form.args arg (List.mem_append_left _ member)) (below arg member)
  exact .call form.target form.mild form.positional (fun entry member => (entries entry member).1)
    fun entry member => (entries entry member).2
termination_by node.weight

/-- The code of a constant widget in a tree of names has no value of the run time in it, however deep inside. -/
theorem constant_runtimeFree (depth level : Nat) {root : Node}
    (named : ∀ widget, Node.Within root widget → widget.kind = .generic → widget.Named) (within : Node.Within root node)
    (constant : (node.render options .empty depth level).eligible = true) :
    RuntimeFree ((node.render options .empty depth level).expr.render options.layout level) := by
  rw [Node.render_eligible] at constant
  have phrased : (node.render options .empty depth level).expr.Phrased False := by
    refine Node.render_phrased options depth level node (fun widget inside => named widget (within.trans inside)) ?_
    rw [constant]
    exact fun wrong => by cases wrong
  obtain ⟨pieces, spelled, calm⟩ := (phrased.render options.layout level).calm
  exact spelled.runtimeFree calm

def badge : Node :=
  ⟨none, "Badge", [("label", .text "() => {}")], []⟩

def quietButton : Node :=
  ⟨none, "elevatedbutton", [], [badge]⟩

theorem quietButton_within {widget : Node} (within : Node.Within quietButton widget) :
    widget = quietButton ∨ widget = badge := by
  induction within with
  | root => exact .inl rfl
  | child _ member ih =>
    rcases ih with rfl | rfl
    · exact .inr (List.mem_singleton.mp member)
    · cases member
  | embedded _ member ih => rcases ih with rfl | rfl <;> cases member
  | header _ found ih => rcases ih with rfl | rfl <;> cases found

theorem quietButton_runtimeFree :
    (∀ widget, Node.Within quietButton widget → widget.kind = .generic → widget.Named) ∧
      Node.Within quietButton quietButton ∧ (quietButton.render {} .empty 0 0).eligible = true ∧
      RuntimeFree ((quietButton.render {} .empty 0 0).expr.render ({} : Options).layout 0) := by
  have named : ∀ widget, Node.Within quietButton widget → widget.kind = .generic → widget.Named := by
    intro widget within isGeneric
    rcases quietButton_within within with rfl | rfl
    · cases isGeneric
    · exact ⟨⟨["Badge"], by decide, by decide, by decide⟩, by decide⟩
  have child : badge.isConstEligible true .empty = true :=
    (Node.isConstEligible_iff .empty).mpr ⟨rfl, by decide, fun _ none => absurd none List.not_mem_nil⟩
  have constant : (quietButton.render {} .empty 0 0).eligible = true := by
    rw [Node.render_eligible, Node.isConstEligible_iff]
    exact ⟨rfl, by decide, List.forall_mem_singleton.mpr child⟩
  exact ⟨named, .root, constant, constant_runtimeFree {} 0 0 named .root constant⟩

end WidgetSource
