import WidgetSource.Form.OfKind
import WidgetSource.Proofs.Calls
import Mathlib.Data.List.Perm.Basic

/-!
# Where the widgets of a form stand

The slots of a form that belong to the tree hold the children, each once, apart from those that are dropped. The other
slots hold nothing but widgets that the properties describe, and the app bar of a scaffold that gives only its
properties.
-/
namespace WidgetSource

variable {α : Type}

namespace Argument

def treeItems : Argument α → List α
  | .slot _ false place => place.toList
  | _ => []

def propertyItems : Argument α → List α
  | .slot _ true place => place.toList
  | _ => []

theorem mem_items_iff {argument : Argument α} {item : α} :
    item ∈ argument.items ↔ item ∈ argument.treeItems ∨ item ∈ argument.propertyItems := by
  cases argument with
  | value => simp [items, treeItems, propertyItems]
  | slot name embedded place => cases embedded <;> simp [items, treeItems, propertyItems]

end Argument

open Argument (treeItems propertyItems)

/-! ## Widgets in properties -/

theorem Node.property?_mem {node : Node} {name : String} {value : Value} (found : node.property? name = some value) :
    (name, value) ∈ node.properties :=
  Fields.mem_of_get? (Option.filter_eq_some_iff.mp found).1

theorem Node.property?_isNull {node : Node} {name : String} {value : Value} (found : node.property? name = some value) :
    value.isNull = false := by
  simpa using (Option.filter_eq_some_iff.mp found).2

theorem Node.embedded_of_property {node item : Node} {name : String} {value : Value}
    (given : (name, value) ∈ node.properties) (widgetName : isValueName name = false)
    (inside : item ∈ value.widgets) : item ∈ node.embedded := by
  refine List.mem_flatMap.mpr ⟨(name, value), given, ?_⟩
  simpa [widgetName] using inside

theorem Node.embeddedSlot?_toList {value : Value} {place : Slot Node} (found : Node.embeddedSlot? value = some place) :
    place.toList = value.widgets := by
  cases value with
  | list items =>
    simp only [Node.embeddedSlot?, Value.widgets] at found ⊢
    split at found
    · cases found
    · cases found
      rfl
  | _ =>
    simp only [Node.embeddedSlot?, Value.widgets, Option.map_eq_some_iff] at found ⊢
    obtain ⟨widget, same, rfl⟩ := found
    simp [same, Slot.toList]

theorem Value.widget?_isMap {value : Value} {widget : Node} (found : value.widget? = some widget) :
    value.map?.isSome = true := by
  cases value with
  | map fields => rfl
  | _ => simp [Value.widget?, Value.field?] at found

theorem Value.widget?_mem_widgets {value : Value} {widget : Node} (found : value.widget? = some widget) :
    widget ∈ value.widgets := by
  cases value with
  | list items => cases Value.widget?_isMap found
  | _ => simp [Value.widgets, found]

theorem Value.appBar?_isMap {value : Value} {bar : Node} (found : value.appBar? = some bar) :
    value.map?.isSome = true := by
  cases value with
  | map fields => rfl
  | _ => simp [Value.appBar?, Value.widget?, Value.field?] at found

def Node.headerBar? (node : Node) : Option Node :=
  if node.kind = .scaffold then (node.property? "appBar").bind Value.appBar? else none

theorem Node.not_const_of_headerBar {table : Mapping.Table} {node bar : Node} (found : node.headerBar? = some bar) :
    node.isLocallyConst table = false := by
  unfold headerBar? at found
  split at found
  · rename_i isScaffold
    obtain ⟨value, given, described⟩ := Option.bind_eq_some_iff.mp found
    have isMap := Value.appBar?_isMap described
    refine not_const_of_blocks ?_
    rw [blocksConst_of_scaffold isScaffold]
    simp [given, isMap]
  · cases found

/-! ## Slots -/

/-- The arguments hold the given widgets of the tree, and of the properties of a widget only widgets that they describe.
Besides these there are only values, and in them no call is marked as a constant. -/
structure Slotted (node : Node) (args : List (Argument Node)) (tree : List Node) : Prop where
  tree_perm : (args.flatMap treeItems).Perm tree
  described : ∀ item ∈ args.flatMap propertyItems, item ∈ node.embedded ∨ node.headerBar? = some item
  unmarked : ∀ label expr, .value label expr ∈ args → expr.Unmarked

namespace Slotted

variable {node : Node} {args more : List (Argument Node)} {tree below : List Node}

theorem append (h : Slotted node args tree) (k : Slotted node more below) :
    Slotted node (args ++ more) (tree ++ below) := by
  constructor
  · rw [List.flatMap_append]
    exact h.tree_perm.append k.tree_perm
  · intro item member
    rw [List.flatMap_append] at member
    exact (List.mem_append.mp member).elim (h.described item) (k.described item)
  · intro label expr member
    exact (List.mem_append.mp member).elim (h.unmarked label expr) (k.unmarked label expr)

theorem after (h : Slotted node args []) (k : Slotted node more tree) :
    Slotted node (args ++ more) tree :=
  h.append k

theorem of_perm (h : Slotted node args tree) (same : tree.Perm below) : Slotted node args below :=
  ⟨h.tree_perm.trans same, h.described, h.unmarked⟩

theorem of_itemless (none : ∀ arg ∈ args, arg.items = [])
    (unmarked : ∀ label expr, .value label expr ∈ args → expr.Unmarked) : Slotted node args [] := by
  have empty (arg : Argument Node) (member : arg ∈ args) : arg.treeItems = [] ∧ arg.propertyItems = [] := by
    have outside (item : Node) : ¬ (item ∈ arg.treeItems ∨ item ∈ arg.propertyItems) := by
      rw [← Argument.mem_items_iff, none arg member]
      exact List.not_mem_nil
    simp only [not_or] at outside
    exact ⟨List.eq_nil_iff_forall_not_mem.mpr fun item => (outside item).1,
      List.eq_nil_iff_forall_not_mem.mpr fun item => (outside item).2⟩
  refine ⟨?_, ?_, unmarked⟩
  · rw [List.flatMap_eq_nil_iff.mpr fun arg member => (empty arg member).1]
  · intro item member
    rw [List.flatMap_eq_nil_iff.mpr fun arg member => (empty arg member).2] at member
    cases member

theorem nil : Slotted node [] [] :=
  of_itemless (fun _ member => absurd member List.not_mem_nil) fun _ _ member => absurd member List.not_mem_nil

theorem cons_value (label : Dart.Label) {expr : Dart.Expr} (unmarked : expr.Unmarked) (h : Slotted node args tree) :
    Slotted node (.value label expr :: args) tree := by
  refine ⟨h.tree_perm, h.described, fun other value member => ?_⟩
  rcases List.mem_cons.mp member with same | member
  · cases same
    exact unmarked
  · exact h.unmarked other value member

theorem cons_text (name s : String) (h : Slotted node args tree) : Slotted node (.text name s :: args) tree :=
  h.cons_value _ (Dart.Expr.text_unmarked s)

theorem named (writers : List (String × Writer)) : Slotted node (node.named writers) [] := by
  have text (arg : Argument Node) (member : arg ∈ node.named writers) : ∃ name s, arg = .text name s := by
    obtain ⟨⟨name, writer⟩, _, written⟩ := List.mem_flatMap.mp member
    obtain ⟨s, _, rfl⟩ := Option.map_eq_some_iff.mp (Option.mem_toList.mp written)
    exact ⟨name, s, rfl⟩
  refine of_itemless (fun arg member => ?_) fun label expr member => ?_
  · obtain ⟨name, s, rfl⟩ := text arg member
    rfl
  · obtain ⟨name, s, same⟩ := text _ member
    cases same
    exact Dart.Expr.text_unmarked s

theorem ofExpr? (name : String) {expr : Option Dart.Expr} (unmarked : ∀ value ∈ expr, value.Unmarked) :
    Slotted node (Argument.ofExpr? name expr) [] := by
  cases expr with
  | none => exact nil
  | some value => exact nil.cons_value _ (unmarked value rfl)

theorem slot_unmarked {name : String} {embedded : Bool} {place : Slot Node} (label : Dart.Label) (expr : Dart.Expr)
    (member : Argument.value label expr ∈ [Argument.slot name embedded place]) : expr.Unmarked := by
  cases List.mem_singleton.mp member

theorem childSlot (name : String) (children : List Node) :
    Slotted node (Node.childSlot name children) children := by
  unfold Node.childSlot
  split
  · exact nil
  · exact ⟨.refl _, fun _ member => absurd member List.not_mem_nil, slot_unmarked⟩
  · exact ⟨.of_eq (List.append_nil _), fun _ member => absurd member List.not_mem_nil, slot_unmarked⟩

theorem childList (children : List Node) : Slotted node (Node.childList children) children := by
  unfold Node.childList
  split
  · exact nil.cons_text _ _
  · exact ⟨.of_eq (List.append_nil _), fun _ member => absurd member List.not_mem_nil, slot_unmarked⟩

theorem embeddedSlot {name : String} {place : Slot Node}
    (inside : ∀ item ∈ place.toList, item ∈ node.embedded ∨ node.headerBar? = some item) :
    Slotted node [.slot name true place] [] :=
  ⟨.refl _, fun item member => inside item (by simpa [propertyItems] using member), slot_unmarked⟩

theorem embeddedProperty {name : String} (widgetName : isValueName name = false) :
    Slotted node (Node.embeddedIn name (node.property? name)) [] := by
  unfold Node.embeddedIn
  cases found : (node.property? name).bind Node.embeddedSlot? with
  | none => exact nil
  | some place =>
    obtain ⟨value, given, place_eq⟩ := Option.bind_eq_some_iff.mp found
    refine embeddedSlot fun item member => .inl ?_
    rw [Node.embeddedSlot?_toList place_eq] at member
    exact Node.embedded_of_property (Node.property?_mem given) widgetName member

end Slotted

/-! ## The slots of the forms -/

namespace Form

variable (node : Node)

theorem child_slotted : Slotted node (child node) node.children :=
  .childSlot "child" node.children

theorem children_slotted : Slotted node (children node) node.children :=
  .childList node.children

theorem requiredChild_slotted : Slotted node (requiredChild node) node.children := by
  unfold requiredChild
  split
  · rename_i leaf
    rw [List.isEmpty_iff.mp leaf]
    exact .cons_text _ _ .nil
  · exact child_slotted node

variable {node} in
theorem fields_unmarked (writers : List (String × Writer)) : ∀ field ∈ node.fields writers, field.2.Unmarked := by
  intro field member
  obtain ⟨_, _, written⟩ := List.mem_flatMap.mp member
  obtain ⟨s, _, rfl⟩ := Option.map_eq_some_iff.mp (Option.mem_toList.mp written)
  exact Dart.Expr.text_unmarked s

theorem materialButton_slotted (variant : String) :
    Slotted node (materialButton variant node).args node.children := by
  refine .after (.after (.after (.cons_text _ _ .nil) (.named _)) ?_) ?_
  · split
    · exact .nil
    · exact .cons_value _ (Dart.Expr.ofArgs_unmarked (fields_unmarked _)) .nil
  · split
    · rename_i leaf
      rw [List.isEmpty_iff.mp leaf]
      exact .cons_text _ _ .nil
    · exact child_slotted node

theorem listView_slotted : Slotted node (listView node).args node.children := by
  unfold listView
  split
  · rename_i leaf _
    rw [List.isEmpty_iff.mp leaf]
    exact .after (.named _) (.cons_text _ _ (.cons_text _ _ .nil))
  · exact .after (.named _) (children_slotted node)

theorem image_slotted : Slotted node (image node).args [] := by
  unfold image
  split
  · exact .nil
  · exact .named _

theorem textField_slotted : Slotted node (textField node).args [] := by
  refine .after (.after (.named _) ?_) (.named _)
  split
  · exact .nil
  · exact .cons_value _ (Dart.Expr.ofArgs_unmarked (fields_unmarked _)) .nil

theorem iconSlot_slotted (name : String) (widgetName : isValueName name = false) :
    Slotted node (iconSlot name node) [] := by
  unfold iconSlot
  split
  · exact .cons_text _ _ .nil
  · exact .embeddedProperty widgetName

theorem labelSlot_slotted (name : String) (widgetName : isValueName name = false) :
    Slotted node (labelSlot name node) [] := by
  unfold labelSlot
  split
  · exact .cons_text _ _ .nil
  · exact .cons_text _ _ .nil
  · exact .embeddedProperty widgetName

theorem listTile_slotted : Slotted node (listTile node).args [] :=
  .after (.after (.after (.after (iconSlot_slotted node "leading" (by decide))
    (labelSlot_slotted node "title" (by decide))) (labelSlot_slotted node "subtitle" (by decide)))
    (iconSlot_slotted node "trailing" (by decide))) (.named _)

theorem appBar_slotted : Slotted node (appBar node).args [] :=
  .after (.after (.after (.after (iconSlot_slotted node "leading" (by decide)) (.named _))
    (labelSlot_slotted node "title" (by decide))) (.embeddedProperty (by decide))) (.named _)

/-! ## Scaffolds -/

theorem splitHeader_perm (nodes : List Node) :
    ((splitHeader nodes).1.toList ++ (splitHeader nodes).2).Perm nodes := by
  unfold splitHeader
  split
  · rename_i header only
    have parts := List.filter_append_perm isAppBar nodes
    rw [only] at parts
    exact parts
  · exact .refl nodes

variable {node}

theorem headerSlot_slotted (isScaffold : node.kind = .scaffold) (header : Option Node) :
    Slotted node (headerSlot header node) header.toList := by
  cases header with
  | some header => exact ⟨.refl _, fun _ member => absurd member List.not_mem_nil, Slotted.slot_unmarked⟩
  | none =>
    unfold headerSlot
    cases found : (node.property? "appBar").bind Value.appBar? with
    | none => exact .nil
    | some bar =>
      refine .embeddedSlot fun item member => .inr ?_
      rw [Node.headerBar?, if_pos isScaffold, found, List.mem_singleton.mp member]

omit node in
theorem floatingButton_unmarked (properties : Fields Value) : (floatingButton properties).Unmarked := by
  have text (name s : String) : ∀ field ∈ some (name, Dart.Expr.text s), field.2.Unmarked := by
    rintro _ ⟨⟩
    exact Dart.Expr.text_unmarked s
  unfold floatingButton
  refine Dart.Expr.ofArgs_unmarked (Dart.given_unmarked ?_)
  simp only [List.forall_mem_cons]
  exact ⟨text _ _, Dart.argument?_unmarked _ _, Dart.argument?_unmarked _ _, text _ _,
    fun _ none => absurd none List.not_mem_nil⟩

theorem floatingSlot_slotted : Slotted node (floatingSlot node) [] := by
  unfold floatingSlot
  split
  · exact .nil
  · rename_i value given
    split
    · rename_i widget found
      refine .embeddedSlot fun item member => .inl ?_
      refine Node.embedded_of_property (Node.property?_mem given) (by decide) ?_
      rw [List.mem_singleton.mp member]
      exact Value.widget?_mem_widgets found
    · exact .cons_value _ (floatingButton_unmarked _) .nil
    · exact .nil

theorem scaffold_slotted (isScaffold : node.kind = .scaffold) :
    Slotted node (scaffold node).args node.children := by
  have color : Slotted node (node.named [("backgroundColor", Dart.colorOf?)]) [] := .named _
  have header : Slotted node (headerSlot (splitHeader node.children).1 node)
      (splitHeader node.children).1.toList := headerSlot_slotted isScaffold _
  have body : Slotted node (Node.childSlot "body" (splitHeader node.children).2)
      (splitHeader node.children).2 := .childSlot "body" _
  have drawer : Slotted node (Node.embeddedIn "drawer" (node.property? "drawer")) [] :=
    .embeddedProperty (by decide)
  have bar : Slotted node (Node.embeddedIn "bottomNavigationBar" (node.property? "bottomNavigationBar")) [] :=
    .embeddedProperty (by decide)
  have slots := color.append ((((header.append body).append drawer).append bar).append floatingSlot_slotted)
  refine Slotted.of_perm ?_ (splitHeader_perm node.children)
  simpa [scaffold] using slots

/-! ## Mapped widgets -/

variable (node)

omit node in
theorem propertyExpr_unmarked (name : String) (value : Value) : (propertyExpr name value).Unmarked := by
  unfold propertyExpr
  split
  · exact Dart.Expr.text_unmarked _
  · cases found : Dart.propertyOf? name value with
    | none => exact Dart.Expr.text_unmarked _
    | some expr => exact Dart.propertyOf?_unmarked found

theorem piece_slotted {write : Dart.Expr → String} {entry : Option Mapping.Entry} {name : String} {value : Value}
    {arg : Argument Node} (given : (name, value) ∈ node.properties)
    (becomes : pieceOf? write entry name value = some (.argument arg)) : Slotted node [arg] [] := by
  obtain ⟨-, ⟨place, notValue, found, same⟩ | ⟨template, -, same⟩ | ⟨-, same⟩⟩ := pieceOf?_cases becomes
  · cases same
    refine .embeddedSlot fun item member => .inl ?_
    rw [Node.embeddedSlot?_toList found] at member
    exact Node.embedded_of_property given notValue member
  · rw [Piece.ofText] at same
    split at same <;> cases same
    exact .cons_value _ (Dart.Expr.text_unmarked _) .nil
  · cases same
    exact .cons_value _ (propertyExpr_unmarked name value) .nil

theorem pieces_slotted {args : List (Argument Node)} (write : Dart.Expr → String) (entry : Option Mapping.Entry)
    (sub : ∀ arg ∈ args, arg ∈ (piecesOf write entry node.properties).filterMap Piece.argument?) :
    Slotted node args [] := by
  induction args with
  | nil => exact .nil
  | cons arg args ih =>
    have first : Slotted node [arg] [] := by
      obtain ⟨piece, member, isArgument⟩ := List.mem_filterMap.mp (sub arg List.mem_cons_self)
      obtain ⟨⟨name, value⟩, given, becomes⟩ := List.mem_filterMap.mp member
      cases piece with
      | positional text => cases isArgument
      | argument other =>
        cases isArgument
        exact piece_slotted node given becomes
    exact first.append (ih fun later member => sub later (List.mem_cons_of_mem _ member))

theorem mappedChildren_slotted : Slotted node (mappedChildren node.children) node.children := by
  unfold mappedChildren
  split
  · rename_i none
    rw [none]
    exact .nil
  · rename_i child only
    rw [only]
    exact .childSlot "child" [child]
  · exact children_slotted node

theorem mapped_slotted (write : Dart.Expr → String) (table : Mapping.Table) :
    Slotted node (mapped write table node).allArgs
      (if takesChildren table node.type then node.children else []) := by
  have split := splitRepeated_subset [] ((piecesOf write (table.lookup? node.type) node.properties).filterMap
    Piece.argument?)
  have first := pieces_slotted node write (table.lookup? node.type) split.1
  have repeated := pieces_slotted node write (table.lookup? node.type) split.2
  have children : Slotted node
      (if takesChildren table node.type then mappedChildren node.children else [])
      (if takesChildren table node.type then node.children else []) := by
    split
    · exact mappedChildren_slotted node
    · exact .nil
  exact ((first.append children).append repeated).of_perm (by simp)

/-! ## All forms -/

theorem allArgs_of_plain {form : Form} (plain : form.shadowed = []) : form.allArgs = form.args := by
  rw [allArgs, plain, List.append_nil]

theorem ofKind_slotted (write : Dart.Expr → String) (table : Mapping.Table) :
    Slotted node (ofKind write table node node.kind).allArgs
      (if dropsChildren table node.type then [] else node.children) := by
  have plain {form : Form} {tree : List Node} (h : Slotted node form.args tree) (none : form.shadowed = []) :
      Slotted node form.allArgs tree :=
    Form.allArgs_of_plain none ▸ h
  have same : Kind.ofType node.type = node.kind := rfl
  unfold dropsChildren
  rw [same]
  cases kind : node.kind with
  | scaffold => exact plain (scaffold_slotted kind) rfl
  | appBar => exact plain (appBar_slotted node) rfl
  | container =>
    have decoration :
        ∀ expr ∈ (decorationFields? node).map fun fields => Dart.decorationOf (.map fields), expr.Unmarked := by
      intro expr member
      obtain ⟨fields, _, rfl⟩ := Option.map_eq_some_iff.mp member
      exact Dart.decorationOf_unmarked _
    exact plain (.after (.after (.after (.after (.after (.named _) (.named _)) (.named _)) (.ofExpr? _ decoration))
      (.named _)) (child_slotted node)) rfl
  | padding => exact plain (.cons_text _ _ (child_slotted node)) rfl
  | center | sizedBox => exact plain (.after (.named _) (child_slotted node)) rfl
  | align => exact plain (.cons_text _ _ (.after (.named _) (child_slotted node))) rfl
  | expanded | flexible | positioned => exact plain (.after (.named _) (requiredChild_slotted node)) rfl
  | card =>
    refine plain (.after (.after (.named _) (.ofExpr? _ fun expr member => ?_)) (child_slotted node)) rfl
    obtain ⟨radius, _, rfl⟩ := Option.map_eq_some_iff.mp member
    exact Dart.Expr.text_unmarked _
  | column | row | stack | wrap => exact plain (.after (.named _) (children_slotted node)) rfl
  | listView => exact plain (listView_slotted node) (listView_shadowed node)
  | gridView =>
    refine plain (.after (.after (.ofExpr? _ fun expr member => ?_) (.named _)) (children_slotted node)) rfl
    cases member
    exact Dart.Expr.ofArgs_unmarked (List.forall_mem_cons.mpr ⟨Dart.Expr.text_unmarked _, fields_unmarked _⟩)
  | text => exact plain (.after (.ofExpr? _ fun _ => Dart.textStyleOf?_unmarked) (.named _)) rfl
  | icon | divider => exact plain (.named _) rfl
  | image => exact plain (image_slotted node) (image_shadowed node)
  | listTile => exact plain (listTile_slotted node) rfl
  | button | elevatedButton | textButton | outlinedButton => exact plain (materialButton_slotted node _) rfl
  | iconButton => exact plain (.cons_text _ _ (.cons_text _ _ (.named _))) rfl
  | textField => exact plain (textField_slotted node) rfl
  | checkbox | «switch» => exact plain (.cons_text _ _ (.cons_text _ _ (.named _))) rfl
  | radio => exact plain (.cons_text _ _ (.cons_text _ _ (.cons_text _ _ (.named _)))) rfl
  | slider =>
    exact plain (.cons_text _ _ (.cons_text _ _ (.cons_text _ _ (.after (.named _)
      (.cons_text _ _ (.named _)))))) rfl
  | generic =>
    refine (mapped_slotted node write table).of_perm (.of_eq ?_)
    cases takesChildren table node.type <;> rfl

end Form

theorem Node.form_target (write : Dart.Expr → String) (table : Mapping.Table) (node : Node) :
    (node.form write table).target = (Form.ofKind write table node node.kind).target := by
  unfold Node.form
  generalize Form.ofKind write table node node.kind = form
  generalize dropsChildren table node.type = drops
  rfl

theorem Node.form_positional (write : Dart.Expr → String) (table : Mapping.Table) (node : Node) :
    (node.form write table).positional = (Form.ofKind write table node node.kind).positional := by
  unfold Node.form
  generalize Form.ofKind write table node node.kind = form
  generalize dropsChildren table node.type = drops
  rfl

theorem Node.form_args (write : Dart.Expr → String) (table : Mapping.Table) (node : Node) :
    (node.form write table).args = (Form.ofKind write table node node.kind).args := by
  unfold Node.form
  generalize Form.ofKind write table node node.kind = form
  generalize dropsChildren table node.type = drops
  rfl

theorem Node.form_shadowed (write : Dart.Expr → String) (table : Mapping.Table) (node : Node) :
    (node.form write table).shadowed = (Form.ofKind write table node node.kind).shadowed := by
  unfold Node.form
  generalize Form.ofKind write table node node.kind = form
  generalize dropsChildren table node.type = drops
  rfl

theorem Node.form_allArgs (write : Dart.Expr → String) (table : Mapping.Table) (node : Node) :
    (node.form write table).allArgs = (Form.ofKind write table node node.kind).allArgs := by
  unfold Node.form
  generalize Form.ofKind write table node node.kind = form
  generalize dropsChildren table node.type = drops
  rfl

theorem Node.form_imports (write : Dart.Expr → String) (table : Mapping.Table) (node : Node) :
    (node.form write table).imports = (Form.ofKind write table node node.kind).imports := by
  unfold Node.form
  generalize Form.ofKind write table node node.kind = form
  generalize dropsChildren table node.type = drops
  rfl

theorem Node.form_dropped (write : Dart.Expr → String) (table : Mapping.Table) (node : Node) :
    (node.form write table).dropped = if dropsChildren table node.type then node.children else [] := by
  unfold Node.form
  generalize dropsChildren table node.type = drops
  rfl

theorem Node.form_children_perm (write : Dart.Expr → String) (table : Mapping.Table) (node : Node) :
    ((node.form write table).allArgs.flatMap treeItems ++ (node.form write table).dropped).Perm node.children := by
  rw [Node.form_allArgs, Node.form_dropped]
  have slots := (Form.ofKind_slotted node write table).tree_perm
  refine (slots.append_right _).trans (.of_eq ?_)
  cases dropsChildren table node.type
  · exact List.append_nil _
  · rfl

theorem Node.form_described (write : Dart.Expr → String) (table : Mapping.Table) {node item : Node}
    (inside : item ∈ (node.form write table).allArgs.flatMap propertyItems) :
    item ∈ node.embedded ∨ node.headerBar? = some item := by
  rw [Node.form_allArgs] at inside
  exact (Form.ofKind_slotted node write table).described item inside

theorem Node.form_unmarked (write : Dart.Expr → String) (table : Mapping.Table) {node : Node} {label : Dart.Label}
    {expr : Dart.Expr} (given : .value label expr ∈ (node.form write table).allArgs) : expr.Unmarked := by
  rw [Node.form_allArgs] at given
  exact (Form.ofKind_slotted node write table).unmarked label expr given

/-- A widget that is locally constant has no widgets in its other slots than those that it embeds. -/
theorem Node.form_embedded (write : Dart.Expr → String) {table : Mapping.Table} {node item : Node}
    (isConst : node.isLocallyConst table = true)
    (inside : item ∈ (node.form write table).allArgs.flatMap propertyItems) : item ∈ node.embedded := by
  rcases Node.form_described write table inside with member | header
  · exact member
  · rw [Node.not_const_of_headerBar header] at isConst
    cases isConst

end WidgetSource
