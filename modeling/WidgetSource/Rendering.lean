import WidgetSource.Analysis.Census
import WidgetSource.Form.OfKind
import WidgetSource.Options

namespace WidgetSource

open Dart (Expr Label)

structure Rendering where
  expr : Expr
  eligible : Bool
  visits : List Visit
  imports : List String

/-- The expression of several widgets together. A column of widgets that are all constant is constant too. -/
def Slot.expr (useConst : Bool) : Slot Rendering → Expr
  | .one item => item.expr
  | .column items =>
    .call (useConst && items.all (·.eligible)) "Column" none [(.named "children", .list (items.map (·.expr)))]
  | .list items => .list (items.map (·.expr))

namespace Argument

def entry (useConst : Bool) : Argument Rendering → Label × Expr
  | .value label expr => (label, expr)
  | .slot name _ place => (.named name, place.expr useConst)

/-- The widgets of the tree that were met in an argument. -/
def visits : Argument Rendering → List Visit
  | .slot _ false place => place.toList.flatMap (·.visits)
  | _ => []

def imports (argument : Argument Rendering) : List String :=
  argument.items.flatMap (·.imports)

def eligible (argument : Argument Rendering) : Bool :=
  argument.items.all (·.eligible)

end Argument

namespace Node

def keyEntry (includeKeys : Bool) (node : Node) : List (Label × Expr) :=
  match includeKeys, node.id.filter (· != "") with
  | true, some id => [(.named "key", .text ("const Key(" ++ Dart.textLiteral id ++ ")"))]
  | _, _ => []

def entryImports (table : Mapping.Table) (node : Node) : List String :=
  ((table.lookup? node.type).map (·.imports)).getD []

def assemble (options : Options) (table : Mapping.Table) (depth : Nat) (form : Form)
    (args shadowed : List (Argument Rendering)) (node : Node) : Rendering :=
  let dropped := walkAll options.useConstConstructors table (depth + 1) form.dropped
  let eligible := options.useConstConstructors && (args ++ shadowed).all (·.eligible) && dropped.eligible &&
    node.allowsConst table
  { expr := .call eligible form.target form.positional
      (node.keyEntry options.includeKeys ++ args.map (·.entry options.useConstConstructors))
    eligible
    visits := (args ++ shadowed).flatMap (·.visits) ++ dropped.visits ++ [⟨node, depth, eligible⟩]
    imports := node.entryImports table ++ form.imports ++ (args ++ shadowed).flatMap (·.imports) }

/-- The form of a widget that stands on a level. Expressions for templates are arguments, one level deeper. -/
def formAt (options : Options) (table : Mapping.Table) (level : Nat) (node : Node) : Form :=
  node.form (fun expr => expr.render options.layout (level + 1)) table

def render (options : Options) (table : Mapping.Table) (depth level : Nat) (node : Node) : Rendering :=
  let form := node.formAt options table level
  let args := form.args.attach.map fun arg => arg.1.mapMem fun item _ =>
    item.render options table (depth + 1) (level + arg.1.inset)
  let shadowed := form.shadowed.attach.map fun arg => arg.1.mapMem fun item _ =>
    item.render options table (depth + 1) (level + arg.1.inset)
  node.assemble options table depth form args shadowed
termination_by node.weight
decreasing_by
  · exact node.form_lighter _ table arg.1 (List.mem_append_left _ arg.2) item ‹_›
  · exact node.form_lighter _ table arg.1 (List.mem_append_right _ arg.2) item ‹_›

def renderArgs (options : Options) (table : Mapping.Table) (depth level : Nat) (args : List (Argument Node)) :
    List (Argument Rendering) :=
  args.map fun arg => arg.map fun item => item.render options table (depth + 1) (level + arg.inset)

theorem render_eq (options : Options) (table : Mapping.Table) (depth level : Nat) (node : Node) :
    node.render options table depth level =
      let form := node.formAt options table level
      node.assemble options table depth form (renderArgs options table depth level form.args)
        (renderArgs options table depth level form.shadowed) := by
  conv => lhs; unfold render
  simp only [Argument.mapMem_eq_map, renderArgs, List.map_subtype, List.unattach_attach]

end Node

end WidgetSource
