import WidgetSource.Proofs.Census

/-!
# Where children are written

A widget that takes children writes each of them once, in the order of the tree; only the one app bar of a scaffold comes
before the others. In the text of the widget the texts of its children stand as they are, one behind the other.
-/
namespace WidgetSource

open Argument (treeItems)
open Dart (Expr Label Layout)

namespace Dart

/-- The parts stand in the text one behind the other, and none reaches into the next. -/
inductive InOrder : List String → String → Prop
  | nil (text : String) : InOrder [] text
  | cons {parts : List String} (before part : String) {after : String} : InOrder parts after →
      InOrder (part :: parts) (before ++ part ++ after)

namespace InOrder

variable {parts more : List String} {text rest : String}

theorem self (part : String) : InOrder [part] part := by
  have held := InOrder.cons "" part (.nil "")
  rwa [String.empty_append, String.append_empty] at held

theorem append (first : InOrder parts text) (second : InOrder more rest) : InOrder (parts ++ more) (text ++ rest) := by
  induction first with
  | nil text =>
    cases second with
    | nil => exact .nil _
    | cons before part later =>
      rw [← String.append_assoc, ← String.append_assoc]
      exact .cons (text ++ before) part later
  | cons before part _ ih =>
    rw [String.append_assoc]
    exact .cons before part ih

theorem before (front : String) (held : InOrder parts text) : InOrder parts (front ++ text) :=
  (InOrder.nil front).append held

theorem behind (held : InOrder parts text) (back : String) : InOrder parts (text ++ back) := by
  have both := held.append (.nil back)
  rwa [List.append_nil] at both

theorem intercalate {held : List (List String)} {texts : List String} (inside : List.Forall₂ InOrder held texts)
    (separator : String) : InOrder held.flatten (separator.intercalate texts) := by
  induction inside with
  | nil => exact .nil _
  | cons first rest ih =>
    cases rest with
    | nil => simpa using first
    | cons next rest =>
      rw [String.intercalate_cons_cons, List.flatten_cons]
      exact (first.behind separator).append ih

end InOrder

variable (layout : Layout) {held : List (List String)}

theorem Layout.enclose_inOrder (level : Nat) (inline : Bool) (opening closing : String) {texts : List String}
    (inside : List.Forall₂ InOrder held texts) :
    InOrder held.flatten (layout.enclose level inline opening closing texts) := by
  unfold enclose
  cases inline with
  | true => exact ((InOrder.intercalate inside ", ").before opening).behind closing
  | false =>
    have lines : List.Forall₂ InOrder held (texts.map fun text => layout.pad (level + 1) ++ text ++ ",") := by
      rw [List.forall₂_map_right_iff]
      exact inside.imp fun _ _ held => (held.before _).behind ","
    have all : List.Forall₂ InOrder ([] :: held ++ [[]])
        (opening :: texts.map (fun text => layout.pad (level + 1) ++ text ++ ",") ++ [layout.pad level ++ closing]) :=
      .cons (.nil _) (List.rel_append lines (.cons (.nil _) .nil))
    simpa using InOrder.intercalate all "\n"

theorem Layout.call_inOrder (level : Nat) (name : String) (positional : Option String) {named : List String}
    (inside : List.Forall₂ InOrder held named) : InOrder held.flatten (layout.call name positional named level) := by
  have all : List.Forall₂ InOrder (positional.toList.map (fun _ => []) ++ held) (positional.toList ++ named) := by
    refine List.rel_append ?_ inside
    rw [List.forall₂_map_left_iff, List.forall₂_same]
    exact fun text _ => .nil text
  have same : (positional.toList.map (fun _ => []) ++ held).flatten = held.flatten := by
    cases positional <;> rfl
  unfold call
  dsimp only
  split
  · rename_i empty
    rw [List.isEmpty_iff.mp empty, List.forall₂_nil_right_iff] at all
    rw [← same, all]
    exact .nil _
  · rw [← same]
    exact layout.enclose_inOrder level _ _ _ all

theorem Layout.list_inOrder (level : Nat) {items : List String} (inside : List.Forall₂ InOrder held items) :
    InOrder held.flatten (layout.list none items level) := by
  unfold list
  dsimp only
  split
  · rename_i empty
    rw [List.isEmpty_iff.mp empty, List.forall₂_nil_right_iff] at inside
    rw [inside]
    exact .nil _
  · exact layout.enclose_inOrder level _ _ _ inside

theorem Expr.call_inOrder (level : Nat) (constant : Bool) (name : String) (positional : Option Expr)
    {named : List (Label × Expr)}
    (inside : List.Forall₂ (fun parts entry => InOrder parts (entry.2.render layout (level + 1))) held named) :
    InOrder held.flatten ((Expr.call constant name positional named).render layout level) := by
  have entries : List.Forall₂ InOrder held (renderNamed layout (level + 1) named) := by
    rw [renderNamed_eq_map, List.forall₂_map_right_iff]
    refine inside.imp fun parts entry held => ?_
    obtain ⟨label, value⟩ := entry
    cases label with
    | named name => exact held.before _
    | spelled name => exact held
  rw [render]
  exact (layout.call_inOrder level name _ entries).before _

theorem Expr.list_inOrder (level : Nat) {items : List Expr}
    (inside : List.Forall₂ (fun parts item => InOrder parts (item.render layout (level + 1))) held items) :
    InOrder held.flatten ((Expr.list items).render layout level) := by
  rw [render, renderItems_eq_map]
  refine layout.list_inOrder level ?_
  rwa [List.forall₂_map_right_iff]

end Dart

/-- The children of a widget, in the order of the tree but for the app bar of a scaffold that has exactly one. -/
def Node.arranged (node : Node) : List Node :=
  if node.kind = .scaffold ∧ (node.children.filter Form.isAppBar).length = 1 then
    node.children.filter Form.isAppBar ++ node.children.filter (!Form.isAppBar ·)
  else node.children

theorem Node.arranged_perm (node : Node) : node.arranged.Perm node.children := by
  unfold arranged
  split
  · exact List.filter_append_perm Form.isAppBar node.children
  · exact .refl _

theorem Node.arranged_of_ne {node : Node} (noScaffold : node.kind ≠ .scaffold) : node.arranged = node.children :=
  if_neg fun both => noScaffold both.1

theorem Node.arranged_of_scaffold {node : Node} (isScaffold : node.kind = .scaffold) :
    node.arranged = (Form.splitHeader node.children).1.toList ++ (Form.splitHeader node.children).2 := by
  unfold arranged Form.splitHeader
  split
  · rename_i only
    obtain ⟨header, same⟩ := List.length_eq_one_iff.mp only.2
    rw [same]
    rfl
  · rename_i several
    split
    · rename_i header same
      exact absurd ⟨isScaffold, by rw [same]; rfl⟩ several
    · rfl

namespace Argument

@[simp]
theorem treeItems_text (name s : String) : (Argument.text name s : Argument Node).treeItems = [] := rfl

variable {node : Node}

@[simp]
theorem treeItems_ofExpr? (name : String) (expr : Option Expr) :
    (Argument.ofExpr? name expr : List (Argument Node)).flatMap treeItems = [] := by
  cases expr <;> rfl

@[simp]
theorem treeItems_named (writers : List (String × Writer)) : (node.named writers).flatMap treeItems = [] :=
  (Slotted.named writers).tree_perm.eq_nil

@[simp]
theorem treeItems_childSlot (name : String) (children : List Node) :
    (Node.childSlot name children).flatMap treeItems = children := by
  unfold Node.childSlot
  split <;> simp [treeItems, Slot.toList]

@[simp]
theorem treeItems_childList (children : List Node) : (Node.childList children).flatMap treeItems = children := by
  unfold Node.childList
  split
  · rfl
  · simp [treeItems, Slot.toList]

@[simp]
theorem treeItems_embeddedIn (name : String) (value : Option Value) :
    (Node.embeddedIn name value).flatMap treeItems = [] := by
  unfold Node.embeddedIn
  cases value.bind Node.embeddedSlot? <;> rfl

end Argument

namespace Form

variable (node : Node)

@[simp]
theorem treeItems_child : (child node).flatMap treeItems = node.children :=
  Argument.treeItems_childSlot "child" node.children

@[simp]
theorem treeItems_children : (children node).flatMap treeItems = node.children :=
  Argument.treeItems_childList node.children

@[simp]
theorem treeItems_requiredChild : (requiredChild node).flatMap treeItems = node.children := by
  unfold requiredChild
  split
  · rename_i leaf
    rw [List.isEmpty_iff.mp leaf]
    rfl
  · exact treeItems_child node

theorem treeItems_materialButton (variant : String) :
    (materialButton variant node).args.flatMap treeItems = node.children := by
  have label : (if node.isLeaf then [Argument.text "child" ("Text(" ++ buttonLabel node ++ ")")]
      else child node).flatMap treeItems = node.children := by
    split
    · rename_i leaf
      rw [List.isEmpty_iff.mp leaf]
      rfl
    · exact treeItems_child node
  have style : (if (buttonStyle node).isEmpty then []
      else [Argument.value (.named "style") (.ofArgs (variant ++ ".styleFrom") (buttonStyle node))]).flatMap
        (@treeItems Node) = [] := by
    split <;> rfl
  simp only [materialButton, List.flatMap_append, Argument.treeItems_named, label, style]
  rfl

theorem treeItems_listView : (listView node).args.flatMap treeItems = node.children := by
  unfold listView
  split
  · rename_i leaf _
    rw [List.isEmpty_iff.mp leaf]
    simp
  · simp

theorem treeItems_floatingSlot : (floatingSlot node).flatMap treeItems = [] :=
  floatingSlot_slotted.tree_perm.eq_nil

theorem treeItems_headerSlot (header : Option Node) : (headerSlot header node).flatMap treeItems = header.toList := by
  cases header with
  | some header => rfl
  | none =>
    unfold headerSlot
    cases (node.property? "appBar").bind Value.appBar? <;> rfl

theorem treeItems_scaffold (isScaffold : node.kind = .scaffold) :
    (scaffold node).args.flatMap treeItems = node.arranged := by
  rw [Node.arranged_of_scaffold isScaffold]
  simp [scaffold, treeItems_headerSlot, treeItems_floatingSlot]

@[simp]
theorem treeItems_mappedChildren : (mappedChildren node.children).flatMap treeItems = node.children := by
  unfold mappedChildren
  split
  · rename_i none
    rw [none]
    rfl
  · rename_i child only
    rw [only]
    exact Argument.treeItems_childSlot "child" [child]
  · exact Argument.treeItems_childList node.children

theorem ofKind_treeItems (write : Expr → String) {table : Mapping.Table} (kept : dropsChildren table node.type = false) :
    (ofKind write table node node.kind).allArgs.flatMap treeItems = node.arranged := by
  have plain {form : Form} (none : form.shadowed = []) (noScaffold : node.kind ≠ .scaffold)
      (items : form.args.flatMap treeItems = node.children) : form.allArgs.flatMap treeItems = node.arranged := by
    rw [allArgs_of_plain none, items, Node.arranged_of_ne noScaffold]
  have same : Kind.ofType node.type = node.kind := rfl
  unfold dropsChildren at kept
  rw [same] at kept
  cases kind : node.kind with
  | scaffold =>
    have items := treeItems_scaffold node kind
    exact items ▸ congrArg (List.flatMap treeItems) (allArgs_of_plain rfl)
  | appBar | text | icon | image | divider | listTile | iconButton | textField | checkbox | «switch» | radio | slider =>
    rw [kind] at kept
    cases kept
  | container => exact plain rfl (by simp [kind]) (by simp [ofKind, container])
  | padding => exact plain rfl (by simp [kind]) (by simp [ofKind, padding])
  | center => exact plain rfl (by simp [kind]) (by simp [ofKind, center])
  | sizedBox => exact plain rfl (by simp [kind]) (by simp [ofKind, sizedBox])
  | align => exact plain rfl (by simp [kind]) (by simp [ofKind, align])
  | expanded => exact plain rfl (by simp [kind]) (by simp [ofKind, expanded])
  | flexible => exact plain rfl (by simp [kind]) (by simp [ofKind, flexible])
  | positioned => exact plain rfl (by simp [kind]) (by simp [ofKind, positioned])
  | card => exact plain rfl (by simp [kind]) (by simp [ofKind, card])
  | column | row => exact plain rfl (by simp [kind]) (by simp [ofKind, flex])
  | stack => exact plain rfl (by simp [kind]) (by simp [ofKind, stack])
  | listView => exact plain (listView_shadowed node) (by simp [kind]) (treeItems_listView node)
  | gridView => exact plain rfl (by simp [kind]) (by simp [ofKind, gridView])
  | wrap => exact plain rfl (by simp [kind]) (by simp [ofKind, wrap])
  | button | elevatedButton | textButton | outlinedButton =>
    exact plain rfl (by simp [kind]) (treeItems_materialButton node _)
  | generic =>
    rw [kind] at kept
    have takes : takesChildren table node.type = true := by simpa using kept
    have split := splitRepeated_subset [] ((piecesOf write (table.lookup? node.type) node.properties).filterMap
      Piece.argument?)
    have first := (pieces_slotted node write (table.lookup? node.type) split.1).tree_perm.eq_nil
    have repeated := (pieces_slotted node write (table.lookup? node.type) split.2).tree_perm.eq_nil
    rw [Node.arranged_of_ne (by simp [kind])]
    simp only [ofKind, mapped, allArgs, takes, if_true, List.flatMap_append, first, repeated, treeItems_mappedChildren,
      List.nil_append, List.append_nil]

end Form

variable (options : Options) (table : Mapping.Table)

def Node.code (depth level : Nat) (node : Node) : String :=
  (node.render options table depth level).expr.render options.layout level

theorem Slot.expr_inOrder (useConst : Bool) (depth level : Nat) (place : Slot Node) :
    Dart.InOrder (place.toList.map (Node.code options table depth (level + place.inset)))
      (((place.map (Node.render options table depth (level + place.inset))).expr useConst).render options.layout
        (level + 1)) := by
  have list (items : List Node) (level : Nat) : Dart.InOrder (items.map (Node.code options table depth (level + 1)))
      ((Expr.list ((items.map (Node.render options table depth (level + 1))).map (·.expr))).render options.layout
        level) := by
    have each : List.Forall₂ (fun parts (item : Expr) => Dart.InOrder parts (item.render options.layout (level + 1)))
        (items.map fun item => [item.code options table depth (level + 1)])
        ((items.map (Node.render options table depth (level + 1))).map (·.expr)) := by
      rw [List.map_map, List.forall₂_map_left_iff, List.forall₂_map_right_iff, List.forall₂_same]
      exact fun item _ => .self _
    have held := Expr.list_inOrder options.layout level each
    rwa [← List.flatMap_def, ← List.map_eq_flatMap] at held
  cases place with
  | one item => exact .self _
  | list items => exact list items (level + 1)
  | column items =>
    let renderings := items.map (Node.render options table depth (level + 3))
    have entries : List.Forall₂ (fun parts (entry : Label × Expr) =>
        Dart.InOrder parts (entry.2.render options.layout (level + 2)))
        [items.map (Node.code options table depth (level + 3))]
        [(.named "children", .list (renderings.map (·.expr)))] := .cons (list items (level + 2)) .nil
    have column := Expr.call_inOrder options.layout (level + 1) (useConst && renderings.all (·.eligible)) "Column" none
      entries
    rwa [List.flatten_cons, List.flatten_nil, List.append_nil] at column

def Form.places (level : Nat) (form : Form) : List (Node × Nat) :=
  form.allArgs.flatMap fun arg => arg.treeItems.map fun item => (item, level + arg.inset)

theorem Argument.entry_inOrder (useConst : Bool) (depth level : Nat) (arg : Argument Node) :
    Dart.InOrder (arg.treeItems.map (Node.code options table depth (level + arg.inset)))
      (((arg.map (Node.render options table depth (level + arg.inset))).entry useConst).2.render options.layout
        (level + 1)) := by
  cases arg with
  | value => exact .nil _
  | slot name embedded place =>
    cases embedded with
    | true => exact .nil _
    | false => exact place.expr_inOrder options table useConst depth level

theorem Node.form_shadowed_treeItems (write : Expr → String) (table : Mapping.Table) (node : Node) :
    (node.form write table).shadowed.flatMap treeItems = [] := by
  rw [form_shadowed]
  cases node.kind with
  | generic =>
    have split := Form.splitRepeated_subset [] ((Form.piecesOf write (table.lookup? node.type) node.properties).filterMap
      Form.Piece.argument?)
    exact (Form.pieces_slotted node write (table.lookup? node.type) split.2).tree_perm.eq_nil
  | listView =>
    rw [Form.ofKind, Form.listView_shadowed]
    rfl
  | image =>
    rw [Form.ofKind, Form.image_shadowed]
    rfl
  | _ => rfl

theorem Node.code_inOrder (depth level : Nat) (node : Node) :
    Dart.InOrder (((node.formAt options table level).places level).map fun (child, inner) =>
      child.code options table (depth + 1) inner) (node.code options table depth level) := by
  have key : List.Forall₂ (fun parts (entry : Label × Expr) =>
      Dart.InOrder parts (entry.2.render options.layout (level + 1)))
      ((node.keyEntry options.includeKeys).map fun _ => []) (node.keyEntry options.includeKeys) := by
    rw [List.forall₂_map_left_iff, List.forall₂_same]
    exact fun entry _ => .nil _
  have args : List.Forall₂ (fun parts (entry : Label × Expr) =>
      Dart.InOrder parts (entry.2.render options.layout (level + 1)))
      ((node.formAt options table level).args.map fun arg =>
        arg.treeItems.map (Node.code options table (depth + 1) (level + arg.inset)))
      ((renderArgs options table depth level (node.formAt options table level).args).map
        (·.entry options.useConstConstructors)) := by
    rw [renderArgs, List.map_map, List.forall₂_map_left_iff, List.forall₂_map_right_iff, List.forall₂_same]
    exact fun arg _ => arg.entry_inOrder options table options.useConstConstructors (depth + 1) level
  have held := Expr.call_inOrder options.layout level (node.render options table depth level).eligible
    (node.formAt options table level).target (node.formAt options table level).positional (List.rel_append key args)
  have none : ((node.keyEntry options.includeKeys).map fun _ => ([] : List String)).flatten = [] := by simp
  have shadowed := node.form_shadowed_treeItems (fun expr => expr.render options.layout (level + 1)) table
  rw [List.flatMap_eq_nil_iff] at shadowed
  have places : ((node.formAt options table level).places level).map (fun (child, inner) =>
      child.code options table (depth + 1) inner) = (node.formAt options table level).args.flatMap fun arg =>
        arg.treeItems.map (Node.code options table (depth + 1) (level + arg.inset)) := by
    -- An argument that gives way to another one holds no child, so nothing is lost with it.
    have none : ((node.formAt options table level).shadowed.flatMap fun arg =>
        arg.treeItems.map (Node.code options table (depth + 1) (level + arg.inset))) = [] :=
      List.flatMap_eq_nil_iff.mpr fun arg member => by rw [shadowed arg member, List.map_nil]
    rw [Form.places, List.map_flatMap, Form.allArgs, List.flatMap_append]
    simp only [List.map_map, Function.comp_def, none, List.append_nil]
  rw [List.flatten_append, none, List.nil_append, ← List.flatMap_def] at held
  rwa [places, code, render_expr]

/-- What is met in the tree while a widget is written: what is met in the children that its form holds and in those that
it drops, and then the widget itself. -/
theorem Node.render_visits (depth level : Nat) (node : Node) :
    (node.render options table depth level).visits =
      (((node.formAt options table level).places level).flatMap fun (child, inner) =>
          (child.render options table (depth + 1) inner).visits) ++
        (walkAll options.useConstConstructors table (depth + 1) (node.formAt options table level).dropped).visits ++
        [⟨node, depth, (node.render options table depth level).eligible⟩] := by
  have slots : (((node.formAt options table level).places level).flatMap fun (child, inner) =>
      (child.render options table (depth + 1) inner).visits) =
      (renderArgs options table depth level (node.formAt options table level).allArgs).flatMap (·.visits) := by
    rw [Form.places, List.flatMap_assoc, renderArgs, List.flatMap_map]
    exact List.flatMap_congr fun arg _ => by rw [List.flatMap_map, Argument.map_visits]
  rw [slots, render_eq options table depth level node, Form.allArgs, ← renderArgs_append]
  rfl

/-- A widget that takes children writes each child exactly once, and what is met in the tree meanwhile is what is met in
the children. In the text of the widget the texts of the children stand one behind the other, in the order of the tree
but for the one app bar of a scaffold. -/
theorem render_children_inOrder (depth level : Nat) {node : Node} (kept : dropsChildren table node.type = false) :
    let places := (node.formAt options table level).places level
    let rendered : Node × Nat → Rendering := fun (child, inner) => child.render options table (depth + 1) inner
    places.map Prod.fst = node.arranged ∧
      (node.render options table depth level).visits = places.flatMap (fun place => (rendered place).visits) ++
        [⟨node, depth, node.isConstEligible options.useConstConstructors table⟩] ∧
      Dart.InOrder (places.map fun place => (rendered place).expr.render options.layout place.2)
        ((node.render options table depth level).expr.render options.layout level) := by
  refine ⟨?_, ?_, node.code_inOrder options table depth level⟩
  · have items := Form.ofKind_treeItems node (fun expr => expr.render options.layout (level + 1)) kept
    rw [← Node.form_allArgs] at items
    rw [← items]
    simp [Form.places, List.map_flatMap, Function.comp_def, Node.formAt]
  · have none : (node.formAt options table level).dropped = [] := by
      rw [Node.formAt, Node.form_dropped, kept]
      rfl
    have visits := node.render_visits options table depth level
    rwa [none, walkAll, List.append_nil, node.render_eligible options table depth level] at visits

def dividedScreen : Node :=
  ⟨none, "scaffold", [], [.ofType "text", .ofType "app_bar", .ofType "chip"]⟩

theorem dividedScreen_inOrder : dropsChildren .stock dividedScreen.type = false ∧
    let places := (dividedScreen.formAt {} .stock 2).places 2
    let rendered : Node × Nat → Rendering := fun (child, inner) => child.render {} .stock 1 inner
    places.map Prod.fst = [.ofType "app_bar", .ofType "text", .ofType "chip"] ∧
      (dividedScreen.render {} .stock 0 2).visits = places.flatMap (fun place => (rendered place).visits) ++
        [⟨dividedScreen, 0, dividedScreen.isConstEligible true .stock⟩] ∧
      Dart.InOrder (places.map fun place => (rendered place).expr.render ⟨2, .expanded⟩ place.2)
        ((dividedScreen.render {} .stock 0 2).expr.render ⟨2, .expanded⟩ 2) := by
  have kept : dropsChildren .stock dividedScreen.type = false := by decide
  have arranged : dividedScreen.arranged = [.ofType "app_bar", .ofType "text", .ofType "chip"] := rfl
  have whole := render_children_inOrder {} .stock 0 2 kept
  rw [arranged] at whole
  exact ⟨kept, whole⟩

end WidgetSource
