import WidgetSource.Proofs.Counterparts
import WidgetSource.Proofs.Names

namespace WidgetSource

namespace Fields

variable {α β : Type} {R : α → β → Prop}

/-- The same names, each once, in any order, with related values. -/
inductive Rearranged (R : α → β → Prop) : List (String × α) → List (String × β) → Prop
  | nil : Rearranged R [] []
  | cons {name a b fields before behind} : name ∉ names fields → R a b → Rearranged R fields (before ++ behind) →
      Rearranged R ((name, a) :: fields) (before ++ (name, b) :: behind)

variable {fields : Fields α} {others : Fields β}

theorem Rearranged.of_perm {between : Fields β} (once : (names fields).Nodup)
    (related : List.Forall₂ (fun field other => field.1 = other.1 ∧ R field.2 other.2) fields between)
    (order : between.Perm others) : Rearranged R fields others := by
  induction related generalizing others with
  | nil =>
    rw [← order.nil_eq]
    exact .nil
  | @cons field other fields between step _ ih =>
    obtain ⟨name, a⟩ := field
    obtain ⟨_, b⟩ := other
    obtain ⟨rfl, step⟩ := step
    obtain ⟨apart, once⟩ := List.nodup_cons.mp once
    obtain ⟨before, behind, rfl⟩ := List.append_of_mem (order.subset List.mem_cons_self)
    exact .cons apart step (ih once (order.trans List.perm_middle).cons_inv)

theorem Rearranged.swap {first second : String} {a c : α} {b d : β} (apart : first ≠ second) (one : R a b)
    (other : R c d) : Rearranged R [(first, a), (second, c)] [(second, d), (first, b)] :=
  of_perm (by simpa [names] using apart) (.cons ⟨rfl, one⟩ (.cons ⟨rfl, other⟩ .nil)) (.swap _ _ _)

theorem Rearranged.names_perm (same : Rearranged R fields others) : (names fields).Perm (names others) := by
  induction same with
  | nil => exact .nil
  | cons _ _ _ ih =>
    simp only [names, List.map_append, List.map_cons] at ih ⊢
    exact (ih.cons _).trans List.perm_middle.symm

theorem Rearranged.get? (same : Rearranged R fields others) (asked : String) :
    Option.Rel R (Fields.get? asked fields) (Fields.get? asked others) := by
  induction same with
  | nil => exact .none
  | @cons name a b fields before behind apart step later ih =>
    have missing : name ∉ names before := by
      intro member
      refine apart (later.names_perm.mem_iff.mpr ?_)
      simp only [names, List.map_append] at member ⊢
      exact List.mem_append_left _ member
    rw [get?_append, Fields.get?, Fields.get?]
    by_cases here : name = asked
    · rw [if_pos here, if_pos here, get?_eq_none (here ▸ missing)]
      exact .some step
    · rw [if_neg here, if_neg here, ← get?_append]
      exact ih

theorem Rearranged.all_eq {p : String × α → Bool} {q : String × β → Bool} (same : Rearranged R fields others)
    (step : ∀ name a b, (name, a) ∈ fields → R a b → p (name, a) = q (name, b)) : fields.all p = others.all q := by
  induction same with
  | nil => rfl
  | @cons name a b fields before behind _ first _ ih =>
    have rest := ih fun name a b member => step name a b (List.mem_cons_of_mem _ member)
    rw [List.all_append] at rest
    rw [List.all_cons, List.all_append, List.all_cons, step name a b List.mem_cons_self first, rest,
      Bool.and_left_comm]

end Fields

inductive Value.Reordered : Value → Value → Prop
  | null : Reordered .null .null
  | bool (b : Bool) : Reordered (.bool b) (.bool b)
  | number (x : Double) : Reordered (.number x) (.number x)
  | text (s : String) : Reordered (.text s) (.text s)
  | list {items others : List Value} : List.Forall₂ Reordered items others → Reordered (.list items) (.list others)
  | map {fields others : Fields Value} : Fields.Rearranged Reordered fields others →
      Reordered (.map fields) (.map others)

inductive Node.Reordered : Node → Node → Prop
  | mk {id type properties others children below} : Fields.Rearranged Value.Reordered properties others →
      List.Forall₂ Node.Reordered children below →
      Node.Reordered ⟨id, type, properties, children⟩ ⟨id, type, others, below⟩

theorem Value.Reordered.alike {value other : Value} (same : value.Reordered other) : value.Alike other := by
  cases same with
  | null => exact .null
  | bool b => exact .bool b
  | number x => exact .number x
  | text s => exact .text s
  | list same =>
    refine .list (List.forall₂_imp_mem same fun item member other step => ?_)
    have := weight_le_itemsWeight member
    exact alike step
  | map same =>
    refine .map fun name => Option.rel_imp_mem (same.get? name) fun field found other step => ?_
    have := fieldsWeight_le_of_get? found
    exact alike step
termination_by value.weight
decreasing_by
  all_goals
    simp only [weight]
    omega

theorem Fields.Rearranged.alike {fields others : Fields Value}
    (same : Fields.Rearranged Value.Reordered fields others) : Fields.Alike fields others :=
  fun name => Option.rel_imp_mem (same.get? name) fun _ _ _ step => step.alike

theorem propertiesIn_rearranged {fields others : Fields Value}
    (same : Fields.Rearranged Value.Reordered fields others) :
    Fields.Rearranged Value.Reordered (propertiesIn fields) (propertiesIn others) := by
  have related := same.get? "properties"
  unfold propertiesIn
  generalize Fields.get? "properties" fields = value, Fields.get? "properties" others = another at related ⊢
  cases related with
  | none => exact .nil
  | some step =>
    cases step with
    | null | bool | number | text | list => exact .nil
    | map same => exact same

theorem Value.Reordered.node {value other : Value} (same : value.Reordered other) : value.node.Reordered other.node := by
  cases same with
  | null | bool | number | text | list => exact .mk .nil .nil
  | @map fields others same =>
    have id := Option.bind_eq_of_rel (same.alike "id") Value.text?_steady
    have type := Option.bind_eq_of_rel (same.alike "type") Value.text?_steady
    have children : List.Forall₂ Node.Reordered (childrenIn fields) (childrenIn others) := by
      rw [childrenIn_eq, childrenIn_eq]
      refine Option.rel_getD (Option.rel_map (same.get? "children") fun field found other step => ?_) .nil
      have light := fieldsWeight_le_of_get? found
      cases step with
      | null | bool | number | text | map => exact .nil
      | list items =>
        rw [Value.nodes, Value.nodes, nodesOfItems_eq, nodesOfItems_eq]
        refine List.forall₂_map items fun item member other step => ?_
        have := weight_le_itemsWeight member
        exact node step
    rw [Value.node, Value.node, id, type]
    exact .mk (propertiesIn_rearranged same) children
termination_by value.weight
decreasing_by
  simp only [weight] at light ⊢
  omega

section

variable {value other : Value} (same : value.Reordered other)
include same

theorem Value.Reordered.widget? : Option.Rel Node.Reordered value.widget? other.widget? := by
  have type := same.alike.field? "type"
  unfold Value.widget?
  generalize value.field? "type" = name, other.field? "type" = another at type ⊢
  cases type with
  | none => exact .none
  | some step =>
    cases step with
    | text => exact .some same.node
    | null | bool | number | list | map => exact .none

theorem Value.Reordered.appBar? : Option.Rel Node.Reordered value.appBar? other.appBar? := by
  have widget := same.widget?
  unfold Value.appBar?
  generalize value.widget? = bar, other.widget? = another at widget ⊢
  cases widget with
  | some step => exact .some step
  | none =>
    cases same with
    | null | bool | number | text | list => exact .none
    | map same => exact .some (.mk same .nil)

theorem Value.Reordered.widgets : List.Forall₂ Node.Reordered value.widgets other.widgets := by
  have widget := same.widget?
  cases same with
  | null | bool | number | text => exact .nil
  | list same => exact List.rel_filterMap (fun _ _ step => Value.Reordered.widget? step) same
  | @map fields others same =>
    rw [Value.widgets, Value.widgets]
    · generalize (Value.map fields).widget? = found, (Value.map others).widget? = another at widget ⊢
      cases widget with
      | none => exact .nil
      | some step => exact .cons step .nil
    · exact fun _ none => by cases none
    · exact fun _ none => by cases none

theorem Value.Reordered.embeddedSlot? :
    Option.Rel (Slot.Rel Node.Reordered) (Node.embeddedSlot? value) (Node.embeddedSlot? other) := by
  have widget := same.widget?
  have widgets := same.widgets
  cases same with
  | null | bool | number | text => exact .none
  | @list items others =>
    rw [Value.widgets, Value.widgets] at widgets
    rw [Node.embeddedSlot?, Node.embeddedSlot?]
    generalize items.filterMap Value.widget? = nodes, others.filterMap Value.widget? = below at widgets ⊢
    cases widgets with
    | nil => exact .none
    | cons first later => exact .some (.list (.cons first later))
  | map => exact Option.rel_map widget fun _ _ _ step => .one step

theorem Value.Reordered.matches : value.Matches Node.Reordered other :=
  ⟨same.alike, same.widget?, same.appBar?, same.embeddedSlot?⟩

end

namespace Node

variable {table : Mapping.Table} {node other : Node}

theorem Reordered.id_eq (same : node.Reordered other) : node.id = other.id := by
  cases same
  rfl

theorem Reordered.type_eq (same : node.Reordered other) : node.type = other.type := by
  cases same
  rfl

theorem Reordered.properties (same : node.Reordered other) :
    Fields.Rearranged Value.Reordered node.properties other.properties := by
  cases same with
  | mk same _ => exact same

theorem Reordered.children (same : node.Reordered other) : List.Forall₂ Node.Reordered node.children other.children := by
  cases same with
  | mk _ same => exact same

theorem Reordered.twin (same : node.Reordered other) : node.Twin table Node.Reordered other where
  type := same.type_eq
  property name := by
    have found := Option.rel_filter (p := (!·.isNull)) (q := (!·.isNull)) (same.properties.get? name)
      fun value other step => congrArg not (Value.isNull_steady value other step.alike)
    exact Option.rel_imp_mem found fun _ _ _ step => step.matches
  style := Dart.styleField_alike same.properties.alike
  children _ := same.children

theorem Reordered.hasDynamicProperty_eq (same : node.Reordered other) :
    node.hasDynamicProperty = other.hasDynamicProperty := by
  rw [hasDynamicProperty, hasDynamicProperty, List.any_eq_not_all_not, List.any_eq_not_all_not]
  refine congrArg not (same.properties.all_eq fun name value another _ step => ?_)
  dsimp only
  rw [Value.isNull_steady value another step.alike]

theorem Reordered.canBeConst_eq (table : Mapping.Table) {node other : Node} (same : node.Reordered other) :
    node.canBeConst table = other.canBeConst table := by
  have locally : node.isLocallyConst table = other.isLocallyConst table :=
    same.twin.isLocallyConst_eq same.hasDynamicProperty_eq
  have embedded : node.embedded.all (·.canBeConst table) = other.embedded.all (·.canBeConst table) := by
    rw [Node.embedded, Node.embedded, List.all_flatMap, List.all_flatMap]
    refine same.properties.all_eq fun name value another member step => ?_
    dsimp only
    split
    · rfl
    · refine List.all_eq_of_forall₂ step.widgets fun widget inside another step => ?_
      have : widget.weight < node.weight :=
        Nat.lt_of_le_of_lt (Value.widgets_weight inside) (value_weight member)
      exact canBeConst_eq table step
  have children : node.children.all (·.canBeConst table) = other.children.all (·.canBeConst table) :=
    List.all_eq_of_forall₂ same.children fun child member another step =>
      have : child.weight < node.weight := child_weight member
      canBeConst_eq table step
  rw [Node.canBeConst_eq, Node.canBeConst_eq, allowsConst, allowsConst, locally, embedded, children]
termination_by node.weight

theorem Reordered.isConstEligible_eq (useConst : Bool) (table : Mapping.Table) (same : node.Reordered other) :
    node.isConstEligible useConst table = other.isConstEligible useConst table := by
  rw [isConstEligible, isConstEligible, same.canBeConst_eq table]

def Handwritten (node : Node) : Prop :=
  ∀ widget, Within node widget → widget.kind ≠ .generic

theorem reordered_counterparts (options : Options) (table : Mapping.Table) :
    Counterparts options table fun node other => node.Reordered other ∧ node.Handwritten where
  id related := related.1.id_eq
  type related := related.1.type_eq
  eligible related := related.1.isConstEligible_eq options.useConstConstructors table
  form {node other} related write := by
    have forms : Form.Rel Node.Reordered (node.form write table) (other.form write table) :=
      related.1.twin.form_rel (fun _ _ step => congrArg Kind.ofType step.type_eq) write
        fun isGeneric => absurd isGeneric (related.2 node .root)
    refine forms.imp_mem fun arg member item inside another step => ⟨step, fun widget within => ?_⟩
    exact related.2 widget ((Within.of_inside (inside_of_form write member inside)).trans within)

end Node

/-- The order of the properties and of the fields in them makes no difference for trees in which each widget has a form
of its own. -/
theorem generate_reordered (options : Options) (table : Mapping.Table) {root other : Node}
    (same : root.Reordered other) (handwritten : ∀ widget, Node.Within root widget → widget.kind ≠ .generic)
    (valid : options.fault? = none) :
    ∃ generation, generate options table root = .ok generation ∧ generate options table other = .ok generation := by
  have source := (Node.reordered_counterparts options table).source_eq ⟨same, handwritten⟩
  have visits : List.Forall₂ (Visit.Rel Node.Reordered) (root.walk options.useConstConstructors table 0).visits
      (other.walk options.useConstConstructors table 0).visits :=
    Node.walk_rel Node.Reordered.children (Node.Reordered.isConstEligible_eq _ table) 0 same
  have figures : Statistics.recordAll {} (root.renderRoot options table).visits =
      Statistics.recordAll {} (other.renderRoot options table).visits := by
    rw [Node.recordAll_renderRoot, Node.recordAll_renderRoot]
    refine Statistics.recordAll_eq_of_rel {} (visits.imp fun _ _ related => ?_)
    exact ⟨⟨related.node.type_eq, related.node.properties.names_perm⟩, related.depth, related.eligible⟩
  -- The code gives the number of lines, so that only code, imports and figures are left to compare.
  refine ⟨.ofRendering options (root.renderRoot options table), by rw [generate, valid], ?_⟩
  rw [generate, valid]
  obtain ⟨code, _, imports⟩ := source
  simp only [Generation.ofRendering] at code imports ⊢
  rw [← code, ← imports, figures]

def titledTile : Node :=
  let title : Value := .map [("type", .text "text"), ("properties", .map [("text", .text "Hi"), ("color", .text "red")])]
  ⟨none, "list_tile", [("title", title), ("dense", .bool true)], []⟩

def reorderedTile : Node :=
  let title : Value := .map [("properties", .map [("color", .text "red"), ("text", .text "Hi")]), ("type", .text "text")]
  ⟨none, "list_tile", [("dense", .bool true), ("title", title)], []⟩

theorem titledTile_reordered : titledTile.Reordered reorderedTile := by
  have properties : Value.Reordered (.map [("text", .text "Hi"), ("color", .text "red")])
      (.map [("color", .text "red"), ("text", .text "Hi")]) :=
    .map (.swap (by decide) (.text _) (.text _))
  exact .mk (.swap (by decide) (.map (.swap (by decide) (.text _) properties)) (.bool _)) .nil

theorem titledTile_within {widget : Node} (within : Node.Within titledTile widget) :
    widget = titledTile ∨ widget = ⟨none, "text", [("text", .text "Hi"), ("color", .text "red")], []⟩ := by
  induction within with
  | root => exact .inl rfl
  | child _ member ih => rcases ih with rfl | rfl <;> cases member
  | embedded _ member ih =>
    rcases ih with rfl | rfl
    · exact .inr (List.mem_singleton.mp member)
    · cases member
  | header _ found ih => rcases ih with rfl | rfl <;> cases found

theorem titledTile_generated : titledTile.Reordered reorderedTile ∧
    (∀ widget, Node.Within titledTile widget → widget.kind ≠ .generic) ∧ ({} : Options).fault? = none ∧
    ∃ generation, generate {} .stock titledTile = .ok generation ∧ generate {} .stock reorderedTile = .ok generation :=
  have valid : ({} : Options).fault? = none := by decide
  have handwritten (widget : Node) (within : Node.Within titledTile widget) : widget.kind ≠ .generic := by
    rcases titledTile_within within with rfl | rfl <;> decide
  ⟨titledTile_reordered, handwritten, valid,
    generate_reordered {} .stock titledTile_reordered handwritten valid⟩

end WidgetSource
