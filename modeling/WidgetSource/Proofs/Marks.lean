import WidgetSource.Proofs.Congruence
import WidgetSource.Proofs.Constructors
import WidgetSource.Proofs.Layouts

/-!
# Sources without constants

Without constants a tree is written as with them, but for the marks: the two renderings differ in nothing else, and in
the source nothing but marks goes away.
-/
namespace WidgetSource

open Dart (Expr Label Layout)

namespace Dart

def constMark : List Char := "const ".toList

/-- The second text is what is left of the first when some of its marks are deleted. -/
inductive Thinned : List Char → List Char → Prop
  | nil : Thinned [] []
  | keep {cs ds : List Char} (c : Char) : Thinned cs ds → Thinned (c :: cs) (c :: ds)
  | delete {cs ds : List Char} : Thinned cs ds → Thinned (constMark ++ cs) ds

namespace Thinned

theorem refl (cs : List Char) : Thinned cs cs := by
  induction cs with
  | nil => exact .nil
  | cons c cs ih => exact .keep c ih

theorem append {cs ds more others : List Char} (first : Thinned cs ds) (second : Thinned more others) :
    Thinned (cs ++ more) (ds ++ others) := by
  induction first with
  | nil => exact second
  | keep c _ ih => exact .keep c ih
  | delete _ ih =>
    rw [List.append_assoc]
    exact .delete ih

theorem count_break {cs ds : List Char} (thinned : Thinned cs ds) : cs.count '\n' = ds.count '\n' := by
  have none : constMark.count '\n' = 0 := by decide
  induction thinned with
  | nil => rfl
  | keep c _ ih => rw [List.count_cons, List.count_cons, ih]
  | delete _ ih => rw [List.count_append, none, ih, Nat.zero_add]

theorem keeps (layout : Layout) : layout.Keeps 0 Thinned where
  line _ := refl _
  append := append
  pad _ := refl _
  breaks thinned := by
    rw [← List.count_pos_iff, ← List.count_pos_iff, thinned.count_break]

end Thinned

namespace Expr

mutual

def unmark : Expr → Expr
  | .text s => .text s
  | .call _ name positional named => .call false name (unmarkPositional positional) (unmarkNamed named)
  | .list items => .list (unmarkItems items)

def unmarkPositional : Option Expr → Option Expr
  | none => none
  | some value => some value.unmark

def unmarkNamed : List (Label × Expr) → List (Label × Expr)
  | [] => []
  | (label, value) :: named => (label, value.unmark) :: unmarkNamed named

def unmarkItems : List Expr → List Expr
  | [] => []
  | item :: items => item.unmark :: unmarkItems items

end

theorem unmarkNamed_eq_map (named : List (Label × Expr)) :
    unmarkNamed named = named.map fun entry => (entry.1, entry.2.unmark) := by
  induction named with
  | nil => rfl
  | cons entry named ih => rw [unmarkNamed, ih, List.map_cons]

theorem unmarkItems_eq_map (items : List Expr) : unmarkItems items = items.map unmark := by
  induction items with
  | nil => rfl
  | cons item items ih => rw [unmarkItems, ih, List.map_cons]

/-- What holds of an expression if it holds of its parts holds of every expression. -/
theorem ofParts {P : Expr → Prop} (text : ∀ s, P (.text s))
    (call : ∀ constant name positional named, (∀ value ∈ positional, P value) → (∀ entry ∈ named, P entry.2) →
      P (.call constant name positional named))
    (list : ∀ items, (∀ item ∈ items, P item) → P (.list items)) (expr : Expr) : P expr := by
  cases expr with
  | text s => exact text s
  | call constant name positional named =>
    refine call constant name positional named (fun value _ => ofParts text call list value) fun entry member => ?_
    have : 1 + sizeOf entry.1 + sizeOf entry.2 < sizeOf named := List.sizeOf_lt_of_mem member
    exact ofParts text call list entry.2
  | list items => exact list items fun item _ => ofParts text call list item

theorem unmark_of_unmarked (expr : Expr) (unmarked : expr.Unmarked) : expr.unmark = expr := by
  induction expr using ofParts with
  | text s => rfl
  | call constant name positional named first_ih named_ih =>
    have bare : constant = false := by
      cases constant with
      | false => rfl
      | true => exact absurd .here (unmarked name)
    have first : unmarkPositional positional = positional := by
      cases positional with
      | none => rfl
      | some value => exact congrArg some (first_ih value rfl fun other inside => unmarked other (.positional inside))
    have more : unmarkNamed named = named := by
      calc
        unmarkNamed named = named.map id := by
          rw [unmarkNamed_eq_map]
          refine List.map_congr_left fun entry member => Prod.ext rfl ?_
          exact named_ih entry member fun other inside => unmarked other (.named member inside)
        _ = named := List.map_id named
    rw [unmark, first, more, bare]
  | list items ih =>
    have same : unmarkItems items = items := by
      calc
        unmarkItems items = items.map id := by
          rw [unmarkItems_eq_map]
          exact List.map_congr_left fun item member =>
            ih item member fun other inside => unmarked other (.item member inside)
        _ = items := List.map_id items
    rw [unmark, same]

theorem mark_thinned {text other : String} (thinned : Thinned text.toList other.toList) (constant : Bool) :
    Thinned ((if constant then "const " else "") ++ text).toList other.toList := by
  rw [String.toList_append]
  cases constant with
  | false => exact thinned
  | true => exact .delete thinned

theorem unmark_thinned (layout : Layout) (level : Nat) (expr : Expr) :
    Thinned (expr.render layout level).toList (expr.unmark.render layout level).toList := by
  have keeps := Thinned.keeps layout
  induction expr using ofParts generalizing level with
  | text s => exact .refl s.toList
  | call constant name positional named first_ih named_ih =>
    have first : Related Thinned (renderPositional layout (level + 1) positional).toList
        (renderPositional layout (level + 1) (unmarkPositional positional)).toList := by
      cases positional with
      | none => exact .nil
      | some value => exact .cons (first_ih value rfl (level + 1)) .nil
    have more : Related Thinned (renderNamed layout (level + 1) named)
        (renderNamed layout (level + 1) (unmarkNamed named)) := by
      rw [renderNamed_eq_map, renderNamed_eq_map, unmarkNamed_eq_map, List.map_map, Related,
        List.forall₂_map_left_iff, List.forall₂_map_right_iff, List.forall₂_same]
      intro ⟨label, value⟩ member
      have thinned := named_ih _ member (level + 1)
      cases label with
      | named label =>
        have front := Thinned.append (.refl (label ++ ": ").toList) thinned
        rw [← String.toList_append, ← String.toList_append] at front
        exact front
      | spelled label => exact thinned
    have unmarked : (call constant name positional named).unmark =
        call false name (unmarkPositional positional) (unmarkNamed named) := rfl
    rw [unmarked, render, render]
    have whole := mark_thinned (keeps.call (.refl name.toList) first more level) constant
    simpa only [Bool.false_eq_true, if_false, String.empty_append, Nat.add_zero] using whole
  | list items ih =>
    have related : Related Thinned (renderItems layout (level + 1) items)
        (renderItems layout (level + 1) (unmarkItems items)) := by
      rw [renderItems_eq_map, renderItems_eq_map, unmarkItems_eq_map, List.map_map, Related,
        List.forall₂_map_left_iff, List.forall₂_map_right_iff, List.forall₂_same]
      exact fun item member => ih item member (level + 1)
    exact keeps.list related level

end Expr

end Dart

def Options.withoutConst (options : Options) : Options :=
  { options with useConstConstructors := false }

def Visit.unmark (visit : Visit) : Visit :=
  { visit with eligible := false }

def Rendering.unmark (rendering : Rendering) : Rendering where
  expr := rendering.expr.unmark
  eligible := false
  visits := rendering.visits.map Visit.unmark
  imports := rendering.imports

theorem Slot.expr_unmark (useConst : Bool) (place : Slot Rendering) :
    (place.map Rendering.unmark).expr false = (place.expr useConst).unmark := by
  have items (renderings : List Rendering) :
      (renderings.map Rendering.unmark).map (·.expr) = Expr.unmarkItems (renderings.map (·.expr)) := by
    rw [Expr.unmarkItems_eq_map, List.map_map, List.map_map]
    rfl
  cases place with
  | one item => rfl
  | list renderings => exact congrArg Expr.list (items renderings)
  | column renderings =>
    have list := congrArg Expr.list (items renderings)
    exact congrArg (fun list => Expr.call false "Column" none [(.named "children", list)]) list

namespace Argument

variable (arg : Argument Rendering)

theorem entry_unmark (useConst : Bool) (unmarked : ∀ label expr, arg = .value label expr → expr.Unmarked) :
    (arg.map Rendering.unmark).entry false = ((arg.entry useConst).1, (arg.entry useConst).2.unmark) := by
  cases arg with
  | value label expr => exact Prod.ext rfl (Expr.unmark_of_unmarked expr (unmarked label expr rfl)).symm
  | slot name embedded place => exact Prod.ext rfl (Slot.expr_unmark useConst place)

theorem visits_unmark : (arg.map Rendering.unmark).visits = arg.visits.map Visit.unmark := by
  cases arg with
  | value => rfl
  | slot name embedded place =>
    cases embedded with
    | true => rfl
    | false => cases place <;> simp [map, visits, Slot.map, Slot.toList, Rendering.unmark, List.map_flatMap,
        List.flatMap_map]

theorem imports_unmark : (arg.map Rendering.unmark).imports = arg.imports := by
  rw [imports, Argument.map_items, List.flatMap_map]
  rfl

end Argument

mutual

theorem Node.walk_unmark (table : Mapping.Table) (useConst : Bool) (depth : Nat) : ∀ node : Node,
    (node.walk false table depth).visits = (node.walk useConst table depth).visits.map Visit.unmark
  | ⟨id, type, properties, children⟩ => by
    rw [Node.walk, Node.walk, walkAll_unmark table useConst (depth + 1) children, List.map_append]
    rfl

theorem walkAll_unmark (table : Mapping.Table) (useConst : Bool) (depth : Nat) : ∀ nodes : List Node,
    (walkAll false table depth nodes).visits = (walkAll useConst table depth nodes).visits.map Visit.unmark
  | [] => rfl
  | node :: nodes => by
    rw [walkAll, walkAll, Node.walk_unmark table useConst depth node, walkAll_unmark table useConst depth nodes,
      List.map_append]

end

variable (options : Options) (table : Mapping.Table)

theorem Node.assemble_unmark {depth : Nat} {form : Form} {args shadowed : List (Argument Rendering)} (node : Node)
    (positional : ∀ value ∈ form.positional, value.Unmarked)
    (unmarked : ∀ label expr, .value label expr ∈ args → expr.Unmarked) :
    node.assemble options.withoutConst table depth form (args.map (·.map Rendering.unmark))
        (shadowed.map (·.map Rendering.unmark)) =
      (node.assemble options table depth form args shadowed).unmark := by
  have first : Expr.unmarkPositional form.positional = form.positional := by
    cases given : form.positional with
    | none => rfl
    | some value => exact congrArg some (Expr.unmark_of_unmarked value (positional value given))
  have key : (node.keyEntry options.includeKeys).map (fun entry => (entry.1, entry.2.unmark)) =
      node.keyEntry options.includeKeys := by
    unfold keyEntry
    split <;> rfl
  have entries : (args.map (·.map Rendering.unmark)).map (·.entry false) =
      (args.map (·.entry options.useConstConstructors)).map fun entry => (entry.1, entry.2.unmark) := by
    rw [List.map_map, List.map_map]
    refine List.map_congr_left fun arg member => arg.entry_unmark _ fun label expr same => ?_
    exact unmarked label expr (same ▸ member)
  have visits : ((args ++ shadowed).map (·.map Rendering.unmark)).flatMap (·.visits) =
      ((args ++ shadowed).flatMap (·.visits)).map Visit.unmark := by
    rw [List.flatMap_map, List.map_flatMap]
    exact congrArg (List.flatMap · _) (funext Argument.visits_unmark)
  have imports : ((args ++ shadowed).map (·.map Rendering.unmark)).flatMap (·.imports) =
      (args ++ shadowed).flatMap (·.imports) := by
    rw [List.flatMap_map]
    exact congrArg (List.flatMap · _) (funext Argument.imports_unmark)
  have dropped := walkAll_unmark table options.useConstConstructors (depth + 1) form.dropped
  simp only [assemble, Rendering.unmark, Options.withoutConst, Bool.false_and, ← List.map_append, Expr.unmark,
    Expr.unmarkNamed_eq_map]
  rw [entries, visits, imports, dropped, first, List.map_append, key, List.map_append, List.map_append]
  rfl

theorem Argument.map_map {α β γ : Type} (f : α → β) (g : β → γ) (arg : Argument α) :
    (arg.map f).map g = arg.map fun item => g (f item) := by
  cases arg with
  | value => rfl
  | slot name embedded place => cases place <;> simp [map, Slot.map, Function.comp_def]

theorem Node.render_unmark (depth level : Nat) (node : Node) :
    node.render options.withoutConst table depth level = (node.render options table depth level).unmark := by
  have form : node.formAt options.withoutConst table level = node.formAt options table level := rfl
  have below (arg : Argument Node) (member : arg ∈ (node.formAt options table level).allArgs) :
      (arg.map fun item => item.render options.withoutConst table (depth + 1) (level + arg.inset)) =
        (arg.map fun item => item.render options table (depth + 1) (level + arg.inset)).map Rendering.unmark := by
    rw [Argument.map_map]
    refine Argument.map_congr fun item inside => ?_
    have : item.weight < node.weight := node.form_lighter _ table arg member item inside
    exact Node.render_unmark (depth + 1) (level + arg.inset) item
  have rendered (args : List (Argument Node)) (given : ∀ arg ∈ args, arg ∈ (node.formAt options table level).allArgs) :
      renderArgs options.withoutConst table depth level args =
        (renderArgs options table depth level args).map (·.map Rendering.unmark) := by
    rw [renderArgs, renderArgs, List.map_map]
    exact List.map_congr_left fun arg member => below arg (given arg member)
  have positional : ∀ value ∈ (node.formAt options table level).positional, value.Unmarked := by
    rw [formAt, form_positional]
    exact Form.ofKind_positional _
  rw [render_eq, render_eq, form]
  dsimp only
  rw [rendered _ fun arg member => List.mem_append_left _ member,
    rendered _ fun arg member => List.mem_append_right _ member]
  refine Node.assemble_unmark options table node positional fun label expr member => ?_
  obtain ⟨arg, given, written⟩ := List.mem_map.mp member
  cases arg with
  | slot => cases written
  | value =>
    cases written
    exact node.form_unmarked _ table (List.mem_append_left _ given)
termination_by node.weight

theorem Statistics.recordAll_unmark (stats : Statistics) (visits : List Visit) :
    recordAll { stats with constEligibleCount := 0 } (visits.map Visit.unmark) =
      { recordAll stats visits with constEligibleCount := 0 } := by
  induction visits generalizing stats with
  | nil => rfl
  | cons visit visits ih => exact ih (stats.record visit)

theorem Source.text_thinned {body other : String} (thinned : Dart.Thinned body.toList other.toList)
    (imports : List String) :
    Dart.Thinned (text options body imports).toList (text options.withoutConst other imports).toList := by
  have statement (level : Nat) : Dart.Thinned (pad options level ++ ("return " ++ body ++ ";")).toList
      (pad options level ++ ("return " ++ other ++ ";")).toList := by
    simp only [String.toList_append]
    exact .append (.refl _) (.append (.append (.refl _) thinned) (.refl _))
  have padded (level : Nat) (s : String) : Dart.Thinned (pad options level ++ s).toList
      (pad (options.withLayout options.layout) level ++ s).toList := .refl _
  have related := lines_related (R := fun s t => Dart.Thinned s.toList t.toList) (fun s => .refl s.toList) padded
    (statement bodyLevel) thinned imports
  exact (Dart.Thinned.keeps options.layout).intercalate (.refl _) related

/-- Without constants the source of a tree lacks some marks, and nothing is counted as a constant. All else is the
same. -/
theorem generate_withoutConst (root : Node) (valid : options.fault? = none) :
    ∃ generation bare, generate options table root = .ok generation ∧
      generate options.withoutConst table root = .ok bare ∧
      bare.lineCount = generation.lineCount ∧ bare.imports = generation.imports ∧
      bare.widgetCount = generation.widgetCount ∧ bare.maxDepth = generation.maxDepth ∧
      bare.statistics = generation.statistics.map (fun stats => { stats with constEligibleCount := 0 }) ∧
      Dart.Thinned generation.code.toList bare.code.toList := by
  have unmarked : root.renderRoot options.withoutConst table = (root.renderRoot options table).unmark :=
    root.render_unmark options table 0 options.rootLevel
  have figures := Statistics.recordAll_unmark {} (root.renderRoot options table).visits
  have thinned := Source.text_thinned options
    (Expr.unmark_thinned options.layout options.rootLevel (root.renderRoot options table).expr)
    (root.renderRoot options table).allImports
  refine ⟨.ofRendering options (root.renderRoot options table),
    .ofRendering options.withoutConst (root.renderRoot options table).unmark, by rw [generate, valid], ?_,
    congrArg Nat.succ thinned.count_break.symm, rfl, congrArg (·.totalWidgets) figures, congrArg (·.maxDepth) figures, ?_,
    thinned⟩
  · have otherValid : options.withoutConst.fault? = none := valid
    rw [generate, otherValid, unmarked]
  · have wanted : options.withoutConst.includeStatistics = options.includeStatistics := rfl
    simp only [Generation.ofRendering, wanted]
    split
    · exact congrArg some figures
    · rfl

def pair : Node :=
  ⟨none, "center", [], [⟨none, "text", [("text", .text "const x")], []⟩, .ofType "chip"]⟩

def chipTable : Mapping.Table :=
  Mapping.Table.empty.put (.ofTarget "chip" "Chip")

theorem pair_withoutConst : ({} : Options).fault? = none ∧
    ∃ generation bare, generate {} chipTable pair = .ok generation ∧
      generate { useConstConstructors := false } chipTable pair = .ok bare ∧
      bare.lineCount = generation.lineCount ∧ bare.imports = generation.imports ∧
      bare.widgetCount = generation.widgetCount ∧ bare.maxDepth = generation.maxDepth ∧
      bare.statistics = generation.statistics.map (fun stats => { stats with constEligibleCount := 0 }) ∧
      Dart.Thinned generation.code.toList bare.code.toList :=
  have valid : ({} : Options).fault? = none := by decide
  ⟨valid, generate_withoutConst {} chipTable pair valid⟩

end WidgetSource
