import WidgetSource.Proofs.Slots
import WidgetSource.Rendering

namespace WidgetSource

open Argument (treeItems propertyItems)
open Dart (Expr)

variable (options : Options) (table : Mapping.Table)

theorem Node.isConstEligible_iff {useConst : Bool} {node : Node} :
    node.isConstEligible useConst table = true ↔
      useConst = true ∧ node.allowsConst table = true ∧
        ∀ child ∈ node.children, child.isConstEligible useConst table = true := by
  cases useConst with
  | false => simp [isConstEligible]
  | true => simp [isConstEligible, canBeConst_eq table node]

theorem Node.embedded_eligible {useConst : Bool} {node widget : Node} (constWanted : useConst = true)
    (allowed : node.allowsConst table = true) (member : widget ∈ node.embedded) :
    widget.isConstEligible useConst table = true := by
  simp only [allowsConst, Bool.and_eq_true, List.all_eq_true] at allowed
  simp [isConstEligible, constWanted, allowed.2 widget member]

mutual

theorem Node.walk_eligible (useConst : Bool) (depth : Nat) :
    ∀ node : Node, (node.walk useConst table depth).eligible = node.isConstEligible useConst table
  | ⟨id, type, properties, children⟩ => by
    have below := walkAll_eligible useConst (depth + 1) children
    rw [Bool.eq_iff_iff, Node.isConstEligible_iff]
    simp only [Node.walk, below, Bool.and_eq_true, List.all_eq_true, and_assoc]

theorem walkAll_eligible (useConst : Bool) (depth : Nat) :
    ∀ nodes : List Node, (walkAll useConst table depth nodes).eligible = nodes.all (·.isConstEligible useConst table)
  | [] => rfl
  | node :: nodes => by
    rw [walkAll, List.all_cons, Node.walk_eligible useConst depth node, walkAll_eligible useConst depth nodes]

end

theorem Node.assemble_eligible_iff {depth : Nat} {form : Form} {args shadowed : List (Argument Rendering)}
    {node : Node} :
    (node.assemble options table depth form args shadowed).eligible = true ↔
      options.useConstConstructors = true ∧ (∀ arg ∈ args ++ shadowed, arg.eligible = true) ∧
        (∀ child ∈ form.dropped, child.isConstEligible options.useConstConstructors table = true) ∧
        node.allowsConst table = true := by
  simp only [assemble, walkAll_eligible, Bool.and_eq_true, List.all_eq_true, and_assoc]

theorem Argument.map_items {α β : Type} (f : α → β) (argument : Argument α) :
    (argument.map f).items = argument.items.map f := by
  cases argument with
  | value => rfl
  | slot name embedded place => cases place <;> rfl

theorem Node.renderArgs_append (depth level : Nat) (args more : List (Argument Node)) :
    renderArgs options table depth level args ++ renderArgs options table depth level more =
      renderArgs options table depth level (args ++ more) :=
  List.map_append.symm

theorem Node.renderArgs_eligible_iff {depth level : Nat} {args : List (Argument Node)}
    (known : ∀ arg ∈ args, ∀ item ∈ arg.items, ∀ depth level,
      (item.render options table depth level).eligible = item.isConstEligible options.useConstConstructors table) :
    (∀ arg ∈ renderArgs options table depth level args, arg.eligible = true) ↔
      ∀ item ∈ args.flatMap treeItems ++ args.flatMap propertyItems,
        item.isConstEligible options.useConstConstructors table = true := by
  have each (arg : Argument Node) (member : arg ∈ args) :
      (arg.map fun item => item.render options table (depth + 1) (level + arg.inset)).eligible = true ↔
        ∀ item ∈ arg.items, item.isConstEligible options.useConstConstructors table = true := by
    simp only [Argument.eligible, Argument.map_items, List.all_map, List.all_eq_true, Function.comp_apply]
    exact forall₂_congr fun item inside => by rw [known arg member item inside]
  simp only [renderArgs, List.forall_mem_map, List.mem_append, List.mem_flatMap]
  constructor
  · intro all item place
    rcases place with ⟨arg, member, inside⟩ | ⟨arg, member, inside⟩
    · exact (each arg member).mp (all arg member) item (Argument.mem_items_iff.mpr (.inl inside))
    · exact (each arg member).mp (all arg member) item (Argument.mem_items_iff.mpr (.inr inside))
  · intro all arg member
    refine (each arg member).mpr fun item inside => all item ?_
    rcases Argument.mem_items_iff.mp inside with tree | property
    · exact .inl ⟨arg, member, tree⟩
    · exact .inr ⟨arg, member, property⟩

theorem Node.render_eligible (depth level : Nat) (node : Node) :
    (node.render options table depth level).eligible = node.isConstEligible options.useConstConstructors table := by
  have known : ∀ arg ∈ (node.formAt options table level).allArgs, ∀ item ∈ arg.items, ∀ depth level,
      (item.render options table depth level).eligible = item.isConstEligible options.useConstConstructors table :=
    fun arg member item inside depth level =>
      have : item.weight < node.weight := node.form_lighter _ table arg member item inside
      Node.render_eligible depth level item
  have children := node.form_children_perm (fun expr => expr.render options.layout (level + 1)) table
  rw [render_eq, Bool.eq_iff_iff, assemble_eligible_iff, isConstEligible_iff, renderArgs_append]
  change _ ∧ (∀ arg ∈ renderArgs options table depth level (node.formAt options table level).allArgs, _) ∧ _ ↔ _
  rw [renderArgs_eligible_iff options table known]
  constructor
  · rintro ⟨wanted, slots, dropped, allowed⟩
    refine ⟨wanted, allowed, fun child member => ?_⟩
    rcases List.mem_append.mp (children.mem_iff.mpr member) with placed | lost
    · exact slots child (List.mem_append_left _ placed)
    · exact dropped child lost
  · rintro ⟨wanted, allowed, all⟩
    refine ⟨wanted, fun item member => ?_, fun child member => ?_, allowed⟩
    · rcases List.mem_append.mp member with tree | property
      · exact all item (children.mem_iff.mp (List.mem_append_left _ tree))
      · have isConst := (Bool.and_eq_true_iff.mp allowed).1
        exact embedded_eligible table wanted allowed (node.form_embedded _ isConst property)
    · exact all child (children.mem_iff.mp (List.mem_append_right _ member))
termination_by node.weight

def Node.argumentTexts (depth level : Nat) (node : Node) : List String :=
  Expr.renderNamed options.layout (level + 1) (node.keyEntry options.includeKeys ++
    (renderArgs options table depth level (node.formAt options table level).args).map
      (·.entry options.useConstConstructors))

/-- The laid-out constructor call of a widget, without a mark in front. -/
def Node.constructorCall (depth level : Nat) (node : Node) : String :=
  let form := node.formAt options table level
  options.layout.call form.target (Expr.renderPositional options.layout (level + 1) form.positional)
    (node.argumentTexts options table depth level) level

def columnCall (depth level : Nat) (children : List Node) : String :=
  let items := children.map fun child => (child.render options table depth (level + 2)).expr
  options.layout.call "Column" none
    ["children: " ++ options.layout.list none (Expr.renderItems options.layout (level + 2) items) (level + 1)] level

def constPrefix (constant : Bool) : String :=
  if constant then "const " else ""

theorem Node.render_expr (depth level : Nat) (node : Node) :
    (node.render options table depth level).expr =
      .call (node.render options table depth level).eligible (node.formAt options table level).target
        (node.formAt options table level).positional (node.keyEntry options.includeKeys ++
          (renderArgs options table depth level (node.formAt options table level).args).map
            (·.entry options.useConstConstructors)) := by
  rw [render_eq]
  rfl

theorem Node.render_text (depth level : Nat) (node : Node) :
    (node.render options table depth level).expr.render options.layout level =
      constPrefix (node.render options table depth level).eligible ++ node.constructorCall options table depth level := by
  rw [render_eq]
  rfl

theorem Slot.column_text (depth level : Nat) (children : List Node) :
    (((Slot.column children).map fun child => child.render options table depth (level + 2)).expr
        options.useConstConstructors).render options.layout level =
      constPrefix (options.useConstConstructors &&
        children.all (·.isConstEligible options.useConstConstructors table)) ++
        columnCall options table depth level children := by
  have flags : (children.map fun child => child.render options table depth (level + 2)).all (·.eligible) =
      children.all (·.isConstEligible options.useConstConstructors table) := by
    rw [List.all_map]
    congr 1
    funext child
    exact child.render_eligible options table depth (level + 2)
  simp only [Slot.map, Slot.expr, flags, List.map_map]
  rfl

/-- A widget is written as a constant exactly if it is eligible, and a column that several children share exactly if
constants are wanted and all of the children are eligible. -/
theorem render_constant_iff_eligible (depth level : Nat) (node : Node) :
    let wanted := options.useConstConstructors
    let rendering := node.render options table depth level
    rendering.eligible = node.isConstEligible wanted table ∧
      rendering.expr.render options.layout level =
        constPrefix (node.isConstEligible wanted table) ++ node.constructorCall options table depth level ∧
      ∀ name embedded children,
        Argument.slot name embedded (.column children) ∈ (node.formAt options table level).args →
          name ++ ": " ++ (constPrefix (wanted && children.all (·.isConstEligible wanted table)) ++
            columnCall options table (depth + 1) (level + 1) children) ∈
            node.argumentTexts options table depth level := by
  refine ⟨node.render_eligible options table depth level, ?_, fun name embedded children member => ?_⟩
  · rw [Node.render_text, Node.render_eligible]
  · rw [← Slot.column_text, Node.argumentTexts, Dart.Expr.renderNamed_eq_map]
    refine List.mem_map.mpr
      ⟨_, List.mem_append_right _ (List.mem_map.mpr ⟨_, List.mem_map.mpr ⟨_, member, rfl⟩, rfl⟩), ?_⟩
    rfl

end WidgetSource
