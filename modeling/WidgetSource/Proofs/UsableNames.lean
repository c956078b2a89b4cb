import WidgetSource.Proofs.ArgumentNames
import WidgetSource.Proofs.Histories
import WidgetSource.Proofs.Imports

namespace WidgetSource

open Dart (Expr Label)

variable {table : Mapping.Table} {entry : Option Mapping.Entry} {write : Expr → String} {name : String} {value : Value}

namespace Form

theorem argumentName?_isIdentifier {text : String} (begins : argumentName? text = some name) :
    Dart.isIdentifier name = true := by
  unfold argumentName? at begins
  split at begins
  · cases begins
  · rename_i c rest _
    split at begins
    · rename_i first _
      cases begins
      have others : (rest.takeWhile Dart.continuesIdentifier).all Dart.continuesIdentifier = true :=
        List.all_takeWhile
      simp [Dart.isIdentifier, first, others]
    · cases begins

theorem isIdentifier_of_isValueName (isValue : isValueName name = true) : Dart.isIdentifier name = true := by
  have all : ∀ name ∈ valueNames, Dart.isIdentifier name = true := by decide
  exact all name (List.contains_iff_mem.mp isValue)

theorem pieceOf?_name {arg : Argument Node} (becomes : pieceOf? write entry name value = some (.argument arg)) :
    Dart.isIdentifier arg.name = true ∨ arg.name = name ∧ value.widgets ≠ [] := by
  obtain ⟨-, ⟨place, -, found, same⟩ | ⟨template, -, same⟩ | ⟨identifier, same⟩⟩ := pieceOf?_cases becomes
  · cases same
    refine .inr ⟨rfl, fun none => ?_⟩
    rw [Node.embeddedSlot?_eq_none_iff.mpr none] at found
    cases found
  · rw [Piece.ofText] at same
    split at same <;> cases same
    rename_i begins
    exact .inl (argumentName?_isIdentifier begins)
  · cases same
    exact .inl identifier

/-- A property without widgets becomes nothing exactly if it is not set, or if it cannot be named and has no template. -/
theorem pieceOf?_eq_none_iff (bare : value.widgets = []) : pieceOf? write entry name value = none ↔
    value.isNull = true ∨ Dart.isIdentifier name = false ∧ entry.bind (·.template? name) = none := by
  have slotless : (if isValueName name then none else Node.embeddedSlot? value) = none := by
    rw [Node.embeddedSlot?_eq_none_iff.mpr bare, ite_self]
  simp only [pieceOf?, slotless]
  cases value.isNull with
  | true => simp
  | false => cases entry.bind (·.template? name) <;> simp

end Form

/-- What a call is given: its positional argument and its named ones. -/
def Dart.Expr.arguments : Expr → Option Expr × List (Label × Expr)
  | .call _ _ positional named => (positional, named)
  | .text _ | .list _ => (none, [])

theorem Dart.Expr.argumentNames_eq (expr : Expr) :
    expr.argumentNames = expr.arguments.2.map fun entry => entry.1.name := by
  cases expr <;> rfl

theorem Fields.erase_eq_append {α : Type} {a : α} {fields : Fields α} (once : (names fields).Nodup)
    (member : (name, a) ∈ fields) :
    ∃ before after, fields = before ++ (name, a) :: after ∧ erase name fields = before ++ after := by
  induction fields with
  | nil => cases member
  | cons field fields ih =>
    obtain ⟨first, b⟩ := field
    obtain ⟨apart, later⟩ := List.nodup_cons.mp once
    rcases List.mem_cons.mp member with same | member
    · cases same
      exact ⟨[], fields, rfl, by rw [erase, if_pos rfl, List.nil_append]⟩
    · obtain ⟨before, after, same, erased⟩ := ih later member
      have inside : name ∈ names fields := List.mem_map_of_mem member
      have different : first ≠ name := fun same => apart (same ▸ inside)
      exact ⟨(first, b) :: before, after, by rw [same, List.cons_append],
        by rw [erase, if_neg different, erased, List.cons_append]⟩

theorem Fields.not_mem_erase {α : Type} {a : α} {fields : Fields α} (once : (names fields).Nodup) :
    (name, a) ∉ erase name fields := by
  intro member
  have inside : name ∈ names (erase name fields) := List.mem_map_of_mem member
  rw [names_erase] at inside
  exact once.not_mem_erase inside

namespace Node

variable {node : Node}

def without (name : String) (node : Node) : Node :=
  { node with properties := Fields.erase name node.properties }

def entries (options : Options) (table : Mapping.Table) (depth level : Nat) (node : Node) : List (Label × Expr) :=
  (renderArgs options table depth level (node.formAt options table level).args).map
    (·.entry options.useConstConstructors)

theorem render_arguments (options : Options) (table : Mapping.Table) (depth level : Nat) (node : Node) :
    (node.render options table depth level).expr.arguments = ((node.formAt options table level).positional,
      node.keyEntry options.includeKeys ++ node.entries options table depth level) := by
  rw [render_expr]
  rfl

theorem render_arguments_congr {options : Options} {depth level : Nat} {other : Node} (id : node.id = other.id)
    (positional : (node.formAt options table level).positional = (other.formAt options table level).positional)
    (args : (node.formAt options table level).args = (other.formAt options table level).args) :
    (node.render options table depth level).expr.arguments =
      (other.render options table depth level).expr.arguments := by
  have key : node.keyEntry options.includeKeys = other.keyEntry options.includeKeys := by
    simp only [keyEntry, id]
  rw [render_arguments, render_arguments, entries, entries, positional, args, key]

theorem mapped_without (once : (Fields.names node.properties).Nodup) (member : (name, value) ∈ node.properties)
    (nothing : Form.pieceOf? write (table.lookup? node.type) name value = none) :
    Form.mapped write table (node.without name) = Form.mapped write table node := by
  obtain ⟨before, after, same, erased⟩ := Fields.erase_eq_append once member
  have pieces : Form.piecesOf write (table.lookup? node.type) (node.without name).properties =
      Form.piecesOf write (table.lookup? node.type) node.properties := by
    rw [without, erased, same]
    simp [Form.piecesOf, nothing]
  simp only [Form.mapped]
  rw [show (node.without name).type = node.type from rfl, show (node.without name).children = node.children from rfl,
    pieces]

theorem arguments_without (options : Options) (depth level : Nat) (isGeneric : node.kind = .generic)
    (once : (Fields.names node.properties).Nodup) (member : (name, value) ∈ node.properties)
    (nothing : Form.pieceOf? (fun expr => expr.render options.layout (level + 1)) (table.lookup? node.type) name value =
      none) :
    ((node.without name).render options table depth level).expr.arguments =
      (node.render options table depth level).expr.arguments := by
  have forms := mapped_without once member nothing
  have kind : (node.without name).kind = .generic := isGeneric
  have id : (node.without name).id = node.id := rfl
  apply render_arguments_congr id
  · rw [formAt, formAt, form_positional, form_positional, kind, isGeneric]
    exact congrArg Form.positional forms
  · rw [formAt, formAt, form_args, form_args, kind, isGeneric]
    exact congrArg Form.args forms

theorem mem_argumentNames_iff (options : Options) (depth level : Nat) (isGeneric : node.kind = .generic) :
    name ∈ (node.render options table depth level).expr.argumentNames ↔
      name ∈ node.propertyNames options table level ∨ name ∈ node.addedNames options table := by
  have first := (Form.splitRepeated_names [] ((Form.piecesOf (fun expr => expr.render options.layout (level + 1))
    (table.lookup? node.type) node.properties).filterMap Form.Piece.argument?)).2 name
  simp only [List.not_mem_nil, not_false_eq_true, and_true] at first
  rw [render_argumentNames, formAt, form_args, isGeneric, Form.ofKind, mapped_names, List.mem_append, List.mem_append,
    first, addedNames, List.mem_append]
  exact or_left_comm

theorem addedNames_isIdentifier (options : Options) (added : name ∈ node.addedNames options table) :
    Dart.isIdentifier name = true := by
  have all : ∀ name ∈ ["key", "child", "children"], Dart.isIdentifier name = true := by decide
  exact all name ((addedNames_sublist).subset added)

theorem mem_propertyNames_iff (options : Options) (level : Nat) : name ∈ node.propertyNames options table level ↔
    ∃ property ∈ node.properties, ∃ arg, Form.pieceOf? (fun expr => expr.render options.layout (level + 1))
      (table.lookup? node.type) property.1 property.2 = some (.argument arg) ∧ arg.name = name := by
  have argument_iff (piece : Form.Piece) (arg : Argument Node) : piece.argument? = some arg ↔ piece = .argument arg := by
    cases piece <;> simp [Form.Piece.argument?]
  simp only [propertyNames, Form.piecesOf, List.mem_map, List.mem_filterMap, argument_iff]
  constructor
  · rintro ⟨arg, ⟨piece, ⟨property, given, becomes⟩, rfl⟩, same⟩
    exact ⟨property, given, arg, becomes, same⟩
  · rintro ⟨property, given, arg, becomes, same⟩
    exact ⟨arg, ⟨_, ⟨property, given, becomes⟩, rfl⟩, same⟩

theorem argumentNames_sound (options : Options) (depth level : Nat) (isGeneric : node.kind = .generic)
    (member : name ∈ (node.render options table depth level).expr.argumentNames) :
    Dart.isIdentifier name = true ∨ ∃ value, (name, value) ∈ node.properties ∧ value.widgets ≠ [] := by
  rcases (mem_argumentNames_iff options depth level isGeneric).mp member with property | added
  · obtain ⟨⟨source, value⟩, given, arg, becomes, rfl⟩ := (mem_propertyNames_iff options level).mp property
    rcases Form.pieceOf?_name becomes with identifier | ⟨same, describes⟩
    · exact .inl identifier
    · exact .inr ⟨value, same ▸ given, describes⟩
  · exact .inl (addedNames_isIdentifier options added)

theorem mem_argumentNames (options : Options) (depth level : Nat) (isGeneric : node.kind = .generic)
    (member : (name, value) ∈ node.properties) (notValue : isValueName name = false) (describes : value.widgets ≠ []) :
    name ∈ (node.render options table depth level).expr.argumentNames := by
  obtain ⟨place, found⟩ := Option.ne_none_iff_exists'.mp (mt Node.embeddedSlot?_eq_none_iff.mp describes)
  exact (mem_argumentNames_iff options depth level isGeneric).mpr (.inl ((mem_propertyNames_iff options level).mpr
    ⟨_, member, .slot name true place, Form.pieceOf?_slotted _ _ notValue found, rfl⟩))

end Node

/-- The names of all arguments of a widget without a form of its own are identifiers exactly if those of its properties
with widgets are. A property that is no identifier and has no template gives no argument exactly if it has no widgets. -/
theorem argumentNames_usable_iff (options : Options) (table : Mapping.Table) (depth level : Nat) {node : Node}
    (isGeneric : node.kind = .generic) (once : (Fields.names node.properties).Nodup) :
    ((∀ name ∈ (node.render options table depth level).expr.argumentNames, Dart.isIdentifier name = true) ↔
      ∀ property ∈ node.properties, property.2.widgets ≠ [] → Dart.isIdentifier property.1 = true) ∧
    ∀ property ∈ node.properties, Dart.isIdentifier property.1 = false →
      (table.lookup? node.type).bind (·.template? property.1) = none →
      (((node.without property.1).render options table depth level).expr.arguments =
        (node.render options table depth level).expr.arguments ↔ property.2.widgets = []) := by
  refine ⟨⟨fun usable => ?_, fun usable => ?_⟩, ?_⟩
  · rintro ⟨name, value⟩ member describes
    cases isValue : isValueName name with
    | true => exact Form.isIdentifier_of_isValueName isValue
    | false => exact usable name (Node.mem_argumentNames options depth level isGeneric member isValue describes)
  · intro name member
    rcases Node.argumentNames_sound options depth level isGeneric member with identifier | ⟨value, given, describes⟩
    · exact identifier
    · exact usable (name, value) given describes
  · rintro ⟨name, value⟩ member unnamed plain
    constructor
    · intro same
      by_contra describes
      have notValue : isValueName name = false := Bool.eq_false_iff.mpr fun isValue =>
        Bool.noConfusion (unnamed.symm.trans (Form.isIdentifier_of_isValueName isValue))
      have written : name ∈ (node.render options table depth level).expr.argumentNames :=
        Node.mem_argumentNames options depth level isGeneric member notValue describes
      rw [Expr.argumentNames_eq, ← same, ← Expr.argumentNames_eq] at written
      have kind : (node.without name).kind = .generic := isGeneric
      rcases Node.argumentNames_sound options depth level kind written with identifier | ⟨other, left, _⟩
      · exact Bool.noConfusion (unnamed.symm.trans identifier)
      · exact Fields.not_mem_erase once left
    · intro bare
      exact Node.arguments_without options depth level isGeneric once member
        ((Form.pieceOf?_eq_none_iff bare).mpr (.inr ⟨unnamed, plain⟩))

def labelledTooltip : Node :=
  ⟨none, "Tooltip", [("my key", .map [("type", .text "icon")]), ("a b", .text "x"), ("wait", .bool true)], []⟩

theorem labelledTooltip_usable : labelledTooltip.kind = .generic ∧ (Fields.names labelledTooltip.properties).Nodup ∧
    ((∀ name ∈ (labelledTooltip.render exprOptions .stock 0 0).expr.argumentNames, Dart.isIdentifier name = true) ↔
      ∀ property ∈ labelledTooltip.properties, property.2.widgets ≠ [] → Dart.isIdentifier property.1 = true) ∧
    ∀ property ∈ labelledTooltip.properties, Dart.isIdentifier property.1 = false →
      (Mapping.Table.stock.lookup? labelledTooltip.type).bind (·.template? property.1) = none →
      (((labelledTooltip.without property.1).render exprOptions .stock 0 0).expr.arguments =
        (labelledTooltip.render exprOptions .stock 0 0).expr.arguments ↔ property.2.widgets = []) :=
  have isGeneric : labelledTooltip.kind = .generic := by decide
  have once : (Fields.names labelledTooltip.properties).Nodup := by decide
  ⟨isGeneric, once, argumentNames_usable_iff exprOptions .stock 0 0 isGeneric once⟩

def spacedTooltip : Node :=
  ⟨none, "Tooltip", [("my key", .map [("type", .text "icon")])], []⟩

theorem spacedTooltip_unusable :
    ¬ (∀ name ∈ (spacedTooltip.renderRoot exprOptions .empty).expr.argumentNames, Dart.isIdentifier name = true) ∧
      ∃ generation, generate exprOptions .empty spacedTooltip = .ok generation ∧
        generation.code = "const Tooltip(\n  my key: const Icon(Icons.help_outline),\n)" := by
  refine ⟨?_, _, rfl, ?_⟩
  · rw [Node.renderRoot, Node.render_argumentNames]
    decide +kernel
  · rw [exprOptions_code]
    decide +kernel

end WidgetSource
