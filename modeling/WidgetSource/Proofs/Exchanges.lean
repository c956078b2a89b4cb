import WidgetSource.Proofs.Pruning

namespace WidgetSource

open Dart (Expr)

variable {options : Options} {table : Mapping.Table} {depth another level : Nat}

namespace Node

/-- Widgets of one type that are written alike at every place, and that can both be constant or both not. -/
structure Interchangeable (options : Options) (table : Mapping.Table) (node other : Node) : Prop where
  type : node.type = other.type
  constant : node.canBeConst table = other.canBeConst table
  agrees : ∀ depth another level,
    (node.render options table depth level).Agrees (other.render options table another level)

theorem Interchangeable.refl (node : Node) : node.Interchangeable options table node where
  type := rfl
  constant := rfl
  agrees depth another level := by
    apply render_agrees_at (R := Eq)
    · rintro node _ rfl
      rfl
    · rintro node _ rfl
      rfl
    · rintro node _ rfl
      rfl
    · rintro node _ rfl write
      exact .refl (fun _ => rfl) _
    · rfl

end Node

namespace ArgsAlike

variable {args others more rest : List (Argument Node)}

theorem refl (args : List (Argument Node)) : ArgsAlike options table depth another level args args := by
  refine List.forall₂_same.mpr fun arg _ => ?_
  apply Argument.Rel.alike
  exact .refl (fun item level => (Node.Interchangeable.refl item).agrees _ _ level) arg

theorem append (first : ArgsAlike options table depth another level args others)
    (second : ArgsAlike options table depth another level more rest) :
    ArgsAlike options table depth another level (args ++ more) (others ++ rest) :=
  List.rel_append first second

theorem after (args : List (Argument Node)) (alike : ArgsAlike options table depth another level more rest) :
    ArgsAlike options table depth another level (args ++ more) (args ++ rest) :=
  (refl args).append alike

theorem before (alike : ArgsAlike options table depth another level args others) (more : List (Argument Node)) :
    ArgsAlike options table depth another level (args ++ more) (others ++ more) :=
  alike.append (refl more)

end ArgsAlike

theorem Form.Agrees.ofArgs {target : String} {args others : List (Argument Node)}
    (alike : ArgsAlike options table depth another level args others) :
    Form.Agrees options table depth another level { target, args } { target, args := others } :=
  ⟨rfl, rfl, rfl, alike, .nil⟩

theorem Form.Agrees.ofKind {node other : Node} {write : Expr → String}
    (agrees : Form.Agrees options table depth another level (ofKind write table node node.kind)
      (ofKind write table other other.kind)) :
    Form.Agrees options table depth another level (node.form write table) (other.form write table) := by
  constructor
  · rw [Node.form_target, Node.form_target]
    exact agrees.target
  · rw [Node.form_positional, Node.form_positional]
    exact agrees.positional
  · rw [Node.form_imports, Node.form_imports]
    exact agrees.imports
  · rw [Node.form_args, Node.form_args]
    exact agrees.args
  · rw [Node.form_shadowed, Node.form_shadowed]
    exact agrees.shadowed

namespace Node

/-- Trees that differ in one widget, which stands in the second tree for a related one in the first. -/
inductive Exchanged (R : Node → Node → Prop) : Node → Node → Prop
  | here {node other : Node} : R node other → Exchanged R node other
  | inside {id : Option String} {type : String} {properties : Fields Value} {before after : List Node}
      {child other : Node} : Exchanged R child other →
      Exchanged R ⟨id, type, properties, before ++ child :: after⟩ ⟨id, type, properties, before ++ other :: after⟩

section

variable {id : Option String} {type : String} {properties : Fields Value} {children below : List Node}

theorem blocksConst_of_children : (⟨id, type, properties, children⟩ : Node).blocksConst table =
    (⟨id, type, properties, below⟩ : Node).blocksConst table := by
  have same : (⟨id, type, properties, children⟩ : Node).kind = (⟨id, type, properties, below⟩ : Node).kind := rfl
  unfold blocksConst
  rw [same]
  cases (⟨id, type, properties, below⟩ : Node).kind <;> rfl

theorem canBeConst_of_children
    (same : children.all (·.canBeConst table) = below.all (·.canBeConst table)) :
    (⟨id, type, properties, children⟩ : Node).canBeConst table =
      (⟨id, type, properties, below⟩ : Node).canBeConst table := by
  have alone : (⟨id, type, properties, children⟩ : Node).allowsConst table =
      (⟨id, type, properties, below⟩ : Node).allowsConst table := by
    rw [allowsConst, allowsConst, isLocallyConst, isLocallyConst, blocksConst_of_children]
    rfl
  rw [canBeConst_eq, canBeConst_eq, alone]
  exact congrArg _ same

theorem interchangeable_of_children (related : List.Forall₂ (Interchangeable options table) children below) :
    (⟨id, type, properties, children⟩ : Node).Interchangeable options table ⟨id, type, properties, below⟩ := by
  have constant : (⟨id, type, properties, children⟩ : Node).canBeConst table =
      (⟨id, type, properties, below⟩ : Node).canBeConst table :=
    canBeConst_of_children (List.all_eq_of_forall₂ related fun _ _ _ same => same.constant)
  -- The properties are the same, and so are the widgets in them; these are interchangeable with themselves.
  have twin : (⟨id, type, properties, children⟩ : Node).Twin table (Interchangeable options table)
      ⟨id, type, properties, below⟩ := {
    type := rfl
    property := fun _ => Option.rel_refl (.refl .refl) _
    style := fun _ => Option.rel_refl .refl _
    children := fun _ => related }
  refine ⟨rfl, constant, fun depth another level => ?_⟩
  apply agrees_of_form
  · rfl
  · rfl
  · rw [isConstEligible, isConstEligible, constant]
  · have forms := twin.form_rel (fun _ _ same => congrArg Kind.ofType same.type)
      (fun expr => expr.render options.layout (level + 1)) fun isGeneric =>
        Form.mapped_rel twin .refl _ isGeneric rfl
    exact Form.Rel.agrees (forms.imp_mem fun _ _ _ _ _ same level => same.agrees (depth + 1) (another + 1) level)

end

variable {R : Node → Node → Prop} {root other : Node}

theorem Exchanged.interchangeable (each : ∀ {node other}, R node other → node.Interchangeable options table other)
    (exchanged : root.Exchanged R other) : root.Interchangeable options table other := by
  induction exchanged with
  | here related => exact each related
  | inside _ ih =>
    apply interchangeable_of_children
    exact List.rel_append (List.forall₂_same.mpr fun node _ => .refl node)
      (.cons ih (List.forall₂_same.mpr fun node _ => .refl node))

theorem countAll_append (nodes more : List Node) : countAll (nodes ++ more) = countAll nodes + countAll more := by
  induction nodes with
  | nil => exact (Nat.zero_add _).symm
  | cons node nodes ih => rw [List.cons_append, countAll, countAll, ih, Nat.add_assoc]

theorem Exchanged.count_eq {n : Nat} (each : ∀ {node other}, R node other → other.count = node.count + n)
    (exchanged : root.Exchanged R other) : other.count = root.count + n := by
  induction exchanged with
  | here related => exact each related
  | inside _ ih =>
    rw [count, count, countAll_append, countAll_append, countAll, countAll, ih]
    omega

theorem widgetCount_eq (options : Options) (table : Mapping.Table) (root : Node) :
    (Generation.ofRendering options (root.renderRoot options table)).widgetCount = root.count := by
  rw [Generation.ofRendering, recordAll_renderRoot]
  exact (root.walk_figures options.useConstConstructors).1

/-- The source of a tree does not change with a widget that is exchanged for an interchangeable one. -/
theorem Exchanged.source_eq (options : Options)
    (each : ∀ {node other}, R node other → node.Interchangeable options table other)
    (exchanged : root.Exchanged R other) :
    let generation := Generation.ofRendering options (root.renderRoot options table)
    let another := Generation.ofRendering options (other.renderRoot options table)
    generation.code = another.code ∧ generation.lineCount = another.lineCount ∧ generation.imports = another.imports :=
  ((exchanged.interchangeable each).agrees 0 0 options.rootLevel).source_eq options

end Node

end WidgetSource
