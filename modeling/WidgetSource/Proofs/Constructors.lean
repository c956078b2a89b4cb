import WidgetSource.Generation
import WidgetSource.Proofs.Constness
import WidgetSource.Proofs.TypeNames

namespace WidgetSource

open Dart (Expr)

variable (options : Options) (table : Mapping.Table) {node : Node}

def IsConstName (name : String) : Prop :=
  (Kind.ofType name).hasConstConstructor = true

/-- No entry for a type without a form of its own names a constructor that cannot be constant. -/
def Mapping.Table.IsConstSafe : Prop :=
  ∀ type entry, table.lookup? type = some entry → Kind.ofType type = .generic → IsConstName entry.target

variable {table}

theorem genericTarget_isConstName (safe : table.IsConstSafe) (isGeneric : node.kind = .generic) :
    IsConstName (genericTarget table node.type) := by
  rw [IsConstName, genericTarget, Kind.ofType_trim]
  cases found : table.lookup? node.type with
  | none =>
    rw [Option.map_none, Option.getD_none]
    rw [Node.kind] at isGeneric
    rw [isGeneric]
    rfl
  | some entry => exact safe node.type entry found isGeneric

def constNames : List String :=
  ["Scaffold", "Padding", "Center", "SizedBox", "Align", "Expanded", "Flexible", "Positioned", "Card", "Column", "Row",
    "Stack", "Wrap", "Text", "Icon", "Divider", "ListTile", "ElevatedButton", "TextButton", "OutlinedButton",
    "IconButton", "TextField"]

theorem isConstName_of_mem {name : String} (known : name ∈ constNames) : IsConstName name := by
  have all : ∀ name ∈ constNames, (Kind.ofType name).hasConstConstructor = true := by decide +kernel
  exact all name known

namespace Form

theorem buttonVariant_isConstName (node : Node) : IsConstName (buttonVariant node) := by
  unfold buttonVariant
  split <;> exact isConstName_of_mem (by decide)

theorem ofKind_target (write : Expr → String) (safe : table.IsConstSafe)
    (hasConst : node.kind.hasConstConstructor = true) : IsConstName (ofKind write table node node.kind).target := by
  cases kind : node.kind with
  | generic => exact genericTarget_isConstName safe kind
  | container | appBar | listView | gridView | image | checkbox | «switch» | radio | slider =>
    rw [kind] at hasConst
    cases hasConst
  | button => exact buttonVariant_isConstName node
  | elevatedButton | textButton | outlinedButton | scaffold | padding | center | sizedBox | align | expanded | flexible
  | positioned | card | column | row | stack | wrap | text | icon | divider | listTile | iconButton | textField =>
    exact isConstName_of_mem (List.contains_iff_mem.mp rfl)

theorem ofKind_positional (write : Expr → String) :
    ∀ value ∈ (ofKind write table node node.kind).positional, value.Unmarked := by
  have text {s : String} : ∀ value ∈ some (Expr.text s), value.Unmarked := by
    rintro _ ⟨⟩
    exact Expr.text_unmarked s
  have none : ∀ value ∈ (none : Option Expr), value.Unmarked := fun _ member => by cases member
  cases node.kind with
  | text | icon => exact text
  | image =>
    change ∀ value ∈ (image node).positional, value.Unmarked
    unfold image
    split
    · exact none
    · exact text
  | listView =>
    change ∀ value ∈ (listView node).positional, value.Unmarked
    unfold listView
    split <;> exact none
  | generic =>
    intro value member
    obtain ⟨s, _, rfl⟩ := Option.map_eq_some_iff.mp member
    exact Expr.text_unmarked s
  | _ => exact none

end Form

theorem Slot.expr_marked {useConst : Bool} {place : Slot Node} {render : Node → Rendering} {name : String}
    (below : ∀ item ∈ place.toList, (render item).expr.HasCall true name → IsConstName name)
    (marked : ((place.map render).expr useConst).HasCall true name) : IsConstName name := by
  have items {nodes : List Node}
      (each : ∀ item ∈ nodes, (render item).expr.HasCall true name → IsConstName name)
      (inside : (Expr.list ((nodes.map render).map (·.expr))).HasCall true name) : IsConstName name := by
    rw [List.map_map] at inside
    cases inside with
    | item member inside =>
      obtain ⟨item, place, rfl⟩ := List.mem_map.mp member
      exact each item place inside
  cases place with
  | one item => exact below item List.mem_cons_self marked
  | list nodes => exact items below marked
  | column nodes =>
    rcases Expr.hasCall_call_iff.mp marked with ⟨_, rfl⟩ | ⟨_, wrong, _⟩ | ⟨entry, member, inside⟩
    · exact isConstName_of_mem (by decide)
    · cases wrong
    · rw [List.mem_singleton.mp member] at inside
      exact items below inside

theorem Argument.entry_marked {useConst : Bool} {arg : Argument Node} {render : Node → Rendering} {name : String}
    (unmarked : ∀ label expr, arg = .value label expr → expr.Unmarked)
    (below : ∀ item ∈ arg.items, (render item).expr.HasCall true name → IsConstName name)
    (marked : ((arg.map render).entry useConst).2.HasCall true name) : IsConstName name := by
  cases arg with
  | value label expr => exact absurd marked (unmarked label expr rfl name)
  | slot label embedded place => exact Slot.expr_marked below marked

variable (table)

theorem Node.keyEntry_unmarked (includeKeys : Bool) (node : Node) :
    ∀ entry ∈ node.keyEntry includeKeys, entry.2.Unmarked := by
  unfold keyEntry
  split
  · exact List.forall_mem_singleton.mpr (Expr.text_unmarked _)
  · exact fun entry none => absurd none List.not_mem_nil

theorem Node.render_marked (safe : table.IsConstSafe) {name : String} (depth level : Nat) (node : Node)
    (marked : (node.render options table depth level).expr.HasCall true name) : IsConstName name := by
  have below (arg : Argument Node) (member : arg ∈ (node.formAt options table level).args) (item : Node)
      (inside : item ∈ arg.items) :
      (item.render options table (depth + 1) (level + arg.inset)).expr.HasCall true name → IsConstName name :=
    have : item.weight < node.weight := node.form_lighter _ table arg (List.mem_append_left _ member) item inside
    Node.render_marked safe (depth + 1) (level + arg.inset) item
  rw [render_expr] at marked
  -- The call of the widget itself, or one in an argument.
  rcases Expr.hasCall_call_iff.mp marked with ⟨eligible, rfl⟩ | ⟨value, positional, inside⟩ | ⟨entry, member, inside⟩
  · rw [render_eligible] at eligible
    obtain ⟨_, allowed, _⟩ := (isConstEligible_iff table).mp eligible
    have hasConst : node.kind.hasConstConstructor = true := by
      simp only [allowsConst, isLocallyConst, Bool.and_eq_true] at allowed
      exact allowed.1.1.1
    rw [formAt, form_target]
    exact Form.ofKind_target _ safe hasConst
  · rw [formAt, form_positional] at positional
    exact absurd inside (Form.ofKind_positional _ value positional name)
  · rcases List.mem_append.mp member with key | argument
    · exact absurd inside (keyEntry_unmarked options.includeKeys node entry key name)
    · obtain ⟨rendered, written, rfl⟩ := List.mem_map.mp argument
      obtain ⟨arg, given, rfl⟩ := List.mem_map.mp written
      refine Argument.entry_marked (fun label expr same => ?_) (below arg given) inside
      subst same
      exact node.form_unmarked _ table (List.mem_append_left _ given)
termination_by node.weight

section

variable {type : String} (isGeneric : Kind.ofType type = .generic) (noDot : '.' ∉ (genericTarget table type).toList)

include isGeneric noDot

theorem bareWidget_allowsConst : Node.allowsConst table ⟨none, type, [], []⟩ = true := by
  generalize same : (⟨none, type, [], []⟩ : Node) = root
  have kind : root.kind = .generic := by
    rw [← same]
    exact isGeneric
  have blocks : root.blocksConst table = false := by
    rw [Node.blocksConst_of_generic kind, ← same]
    simpa using noDot
  rw [Node.allowsConst, Node.isLocallyConst, kind, blocks, ← same]
  rfl

theorem bareWidget_eligible (wanted : options.useConstConstructors = true) :
    (Node.renderRoot options table ⟨none, type, [], []⟩).eligible = true := by
  rw [Node.renderRoot, Node.render_eligible, Node.isConstEligible_iff]
  exact ⟨wanted, bareWidget_allowsConst table isGeneric noDot, fun _ none => absurd none List.not_mem_nil⟩

theorem bareWidget_marked (wanted : options.useConstConstructors = true) :
    (Node.renderRoot options table ⟨none, type, [], []⟩).expr.HasCall true (genericTarget table type) := by
  have eligible := bareWidget_eligible options table isGeneric noDot wanted
  generalize same : (⟨none, type, [], []⟩ : Node) = root at eligible ⊢
  have kind : root.kind = .generic := by
    rw [← same]
    exact isGeneric
  have target (write : Expr → String) : (root.form write table).target = genericTarget table type := by
    rw [Node.form_target, kind, ← same]
    rfl
  rw [Node.renderRoot, Node.render_expr, ← Node.renderRoot, eligible, Node.formAt, target]
  exact .here

end

/-- A call that cannot be constant is marked as one under exactly those tables that name such a constructor for a type
without a form of its own. -/
theorem marked_calls_isConstName_iff :
    (∀ options : Options, options.fault? = none → ∀ (root : Node) name,
      (root.renderRoot options table).expr.HasCall true name → IsConstName name) ↔ table.IsConstSafe := by
  constructor
  · intro sound type entry found isGeneric
    have target : genericTarget table type = Text.trim entry.target := by
      rw [genericTarget, found, Option.map_some, Option.getD_some]
    -- A widget of the type and nothing else would be marked.
    by_contra noConst
    rw [IsConstName, ← Kind.ofType_trim, ← target] at noConst
    have noDot : '.' ∉ (genericTarget table type).toList := by
      intro dotted
      rw [Kind.ofType_of_dot dotted] at noConst
      exact noConst rfl
    exact noConst (sound {} (by decide) _ _ (bareWidget_marked {} table isGeneric noDot rfl))
  · intro safe options _ root name marked
    exact Node.render_marked options table safe 0 options.rootLevel root marked

def boxEntry : Mapping.Entry :=
  .ofTarget "mybox" "Container"

def box : Node :=
  ⟨none, "mybox", [], []⟩

def exprOptions : Options :=
  { includeImports := false, includeComments := false, wrapInClass := false, includeStatistics := false }

theorem exprOptions_code (rendering : Rendering) :
    (Generation.ofRendering exprOptions rendering).code =
      rendering.expr.render exprOptions.layout exprOptions.rootLevel := by
  simp [Generation.ofRendering, Source.text, Source.lines, Source.widgetLines, exprOptions]

theorem container_marked :
    ∃ table generation, Mapping.Table.empty.insert boxEntry = .ok table ∧
      (box.renderRoot exprOptions table).expr.HasCall true "Container" ∧ ¬ IsConstName "Container" ∧
      generate exprOptions table box = .ok generation ∧ generation.code = "const Container()" := by
  have isGeneric : Kind.ofType "mybox" = .generic := by decide
  have target : genericTarget (Mapping.Table.empty.put boxEntry) "mybox" = "Container" := by decide
  have noDot : '.' ∉ (genericTarget (Mapping.Table.empty.put boxEntry) "mybox").toList := by decide
  have marked := bareWidget_marked exprOptions (Mapping.Table.empty.put boxEntry) isGeneric noDot rfl
  have eligible := bareWidget_eligible exprOptions (Mapping.Table.empty.put boxEntry) isGeneric noDot rfl
  rw [target] at marked
  refine ⟨Mapping.Table.empty.put boxEntry, _, rfl, marked, by rw [IsConstName]; decide, rfl, ?_⟩
  rw [Node.renderRoot] at eligible
  rw [exprOptions_code, Node.renderRoot, box, Node.render_text, eligible]
  decide +kernel

end WidgetSource
