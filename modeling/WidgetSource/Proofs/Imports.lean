import WidgetSource.Proofs.Placement
import WidgetSource.Proofs.Unmapped
import WidgetSource.Proofs.Warnings
import Mathlib.Data.String.Basic

/-!
# Imports

The imports of a source are those of the widgets that are written in it. From a widget that is written the writing goes
on to its children, if it has a place for them, and to the widgets described by those of its properties that fill a
slot.
-/
namespace WidgetSource

open Argument (propertyItems treeItems)
open Dart (Expr)
open Relation (ReflTransGen)

namespace Node

def widgetsOf (node : Node) (name : String) : List Node :=
  (node.property? name).toList.flatMap Value.widgets

/-- The app bar of a scaffold from its properties, for which there is no room if exactly one child is an app bar. -/
def shownBar (node : Node) : List Node :=
  if (node.children.filter Form.isAppBar).length = 1 then []
  else ((node.property? "appBar").bind Value.appBar?).toList

def shown (node : Node) : List Node :=
  match node.kind with
  | .scaffold =>
    node.shownBar ++ ["drawer", "bottomNavigationBar"].flatMap node.widgetsOf ++
      ((node.property? "floatingActionButton").bind Value.widget?).toList
  | .appBar => ["leading", "title", "actions"].flatMap node.widgetsOf
  | .listTile => ["leading", "title", "subtitle", "trailing"].flatMap node.widgetsOf
  | .generic => node.embedded
  | _ => []

/-- One step from a widget that is written to another that is written with it. -/
inductive Writes (table : Mapping.Table) (node : Node) : Node → Prop
  | child {inner : Node} : ¬ node.LosesChildren table → inner ∈ node.children → Writes table node inner
  | shown {inner : Node} : inner ∈ node.shown → Writes table node inner

/-- The widget alone needs the import: its entry asks for it, or it is a translated text. -/
inductive Needs (table : Mapping.Table) (node : Node) : String → Prop
  | entry {entry : Mapping.Entry} {address : String} : table.lookup? node.type = some entry →
      address ∈ entry.imports → Needs table node address
  | translation {value : Value} : node.kind = .text → node.property? "useTranslation" = some value →
      value.isTruthy = true → Needs table node Form.translationImport

end Node

theorem Node.embeddedSlot?_eq_none_iff {value : Value} : Node.embeddedSlot? value = none ↔ value.widgets = [] := by
  cases value with
  | list items =>
    rw [Node.embeddedSlot?, Value.widgets]
    split <;> simp_all
  | null | bool | number | text | map => simp [Node.embeddedSlot?, Value.widgets]

namespace Argument

variable {node : Node}

@[simp]
theorem propertyItems_text (name s : String) : (Argument.text name s : Argument Node).propertyItems = [] := rfl

@[simp]
theorem propertyItems_ofExpr? (name : String) (expr : Option Expr) :
    (Argument.ofExpr? name expr : List (Argument Node)).flatMap propertyItems = [] := by
  cases expr <;> rfl

@[simp]
theorem propertyItems_named (writers : List (String × Writer)) : (node.named writers).flatMap propertyItems = [] := by
  rw [List.flatMap_eq_nil_iff]
  intro arg member
  obtain ⟨⟨name, writer⟩, _, written⟩ := List.mem_flatMap.mp member
  obtain ⟨s, _, rfl⟩ := Option.map_eq_some_iff.mp (Option.mem_toList.mp written)
  rfl

@[simp]
theorem propertyItems_childSlot (name : String) (children : List Node) :
    (Node.childSlot name children).flatMap propertyItems = [] := by
  unfold Node.childSlot
  split <;> rfl

@[simp]
theorem propertyItems_childList (children : List Node) : (Node.childList children).flatMap propertyItems = [] := by
  unfold Node.childList
  split <;> rfl

@[simp]
theorem propertyItems_embeddedIn (name : String) (value : Option Value) :
    (Node.embeddedIn name value).flatMap propertyItems = value.toList.flatMap Value.widgets := by
  unfold Node.embeddedIn
  cases value with
  | none => rfl
  | some value =>
    rw [Option.bind_some, Option.toList_some, List.flatMap_singleton]
    cases found : Node.embeddedSlot? value with
    | none => exact (Node.embeddedSlot?_eq_none_iff.mp found).symm
    | some place =>
      rw [Option.map_some, Option.toList_some, List.flatMap_singleton]
      exact Node.embeddedSlot?_toList found

end Argument

namespace Form

variable (node : Node)

@[simp]
theorem propertyItems_child : (child node).flatMap propertyItems = [] :=
  Argument.propertyItems_childSlot "child" node.children

@[simp]
theorem propertyItems_children : (children node).flatMap propertyItems = [] :=
  Argument.propertyItems_childList node.children

@[simp]
theorem propertyItems_requiredChild : (requiredChild node).flatMap propertyItems = [] := by
  unfold requiredChild
  split
  · rfl
  · exact propertyItems_child node

@[simp]
theorem propertyItems_iconSlot (name : String) :
    (iconSlot name node).flatMap propertyItems = node.widgetsOf name := by
  unfold iconSlot Node.widgetsOf
  split
  · rename_i given
    rw [given]
    rfl
  · exact Argument.propertyItems_embeddedIn name _

@[simp]
theorem propertyItems_labelSlot (name : String) :
    (labelSlot name node).flatMap propertyItems = node.widgetsOf name := by
  unfold labelSlot Node.widgetsOf
  split
  · rename_i given
    rw [given]
    rfl
  · rename_i given
    rw [given]
    rfl
  · exact Argument.propertyItems_embeddedIn name _

theorem propertyItems_materialButton (variant : String) :
    (materialButton variant node).args.flatMap propertyItems = [] := by
  have tap : propertyItems (tapHandler node) = [] := rfl
  simp only [materialButton, List.flatMap_append, List.flatMap_singleton, tap, Argument.propertyItems_named]
  split <;> split <;> simp <;> rfl

theorem propertyItems_listView : (listView node).args.flatMap propertyItems = [] := by
  unfold listView
  split <;> simp

theorem propertyItems_image : (image node).args.flatMap propertyItems = [] := by
  unfold image
  split <;> simp

theorem propertyItems_textField : (textField node).args.flatMap propertyItems = [] := by
  simp only [textField, List.flatMap_append, Argument.propertyItems_named]
  split <;> rfl

theorem propertyItems_floatingSlot : (floatingSlot node).flatMap propertyItems =
    ((node.property? "floatingActionButton").bind Value.widget?).toList := by
  unfold floatingSlot
  cases node.property? "floatingActionButton" with
  | none => rfl
  | some value =>
    dsimp only
    split <;> simp_all [propertyItems, Slot.toList]

theorem propertyItems_headerSlot : (headerSlot (splitHeader node.children).1 node).flatMap propertyItems =
    node.shownBar := by
  unfold splitHeader Node.shownBar
  split
  · rename_i header only
    rw [only, if_pos List.length_singleton]
    rfl
  · rename_i several
    rw [if_neg]
    · unfold headerSlot
      cases (node.property? "appBar").bind Value.appBar? <;> rfl
    · intro once
      obtain ⟨header, only⟩ := List.length_eq_one_iff.mp once
      exact several header only

theorem propertyItems_scaffold : (scaffold node).args.flatMap propertyItems =
    node.shownBar ++ ["drawer", "bottomNavigationBar"].flatMap node.widgetsOf ++
      ((node.property? "floatingActionButton").bind Value.widget?).toList := by
  simp [scaffold, propertyItems_headerSlot, propertyItems_floatingSlot, Node.widgetsOf]

theorem pieceOf?_unslotted (write : Expr → String) (entry : Option Mapping.Entry) {name : String} {value : Value}
    (unslotted : (if isValueName name then none else Node.embeddedSlot? value) = none) :
    ((pieceOf? write entry name value).bind Piece.argument?).toList.flatMap propertyItems = [] := by
  unfold pieceOf?
  rw [unslotted]
  split
  · rfl
  · dsimp only
    split
    · rw [Option.bind_some, Piece.ofText]
      split <;> rfl
    · split <;> rfl

theorem pieceOf?_slotted (write : Expr → String) (entry : Option Mapping.Entry) {name : String} {value : Value}
    {place : Slot Node} (notValue : isValueName name = false) (found : Node.embeddedSlot? value = some place) :
    pieceOf? write entry name value = some (.argument (.slot name true place)) := by
  -- The word that stands for null describes no widget, so it does not matter that it is looked at first.
  have set : value.isNull = false := by
    cases value with
    | null | text => cases found
    | bool | number | list | map => rfl
  simp [pieceOf?, set, notValue, found]

theorem pieceOf?_shown (write : Expr → String) (entry : Option Mapping.Entry) (name : String) (value : Value) :
    ((pieceOf? write entry name value).bind Piece.argument?).toList.flatMap propertyItems =
      if isValueName name then [] else value.widgets := by
  cases valueName : isValueName name with
  | true => exact pieceOf?_unslotted write entry (if_pos valueName)
  | false =>
    rw [if_neg Bool.false_ne_true]
    cases found : Node.embeddedSlot? value with
    | none =>
      rw [Node.embeddedSlot?_eq_none_iff.mp found]
      exact pieceOf?_unslotted write entry (by rw [valueName, found]; rfl)
    | some place =>
      rw [pieceOf?_slotted write entry valueName found, Option.bind_some, Piece.argument?, Option.toList_some, List.flatMap_singleton]
      exact Node.embeddedSlot?_toList found

theorem pieces_shown (write : Expr → String) (entry : Option Mapping.Entry) :
    ((piecesOf write entry node.properties).filterMap Piece.argument?).flatMap propertyItems = node.embedded := by
  rw [piecesOf, List.filterMap_filterMap, List.filterMap_eq_flatMap_toList, List.flatMap_assoc, Node.embedded]
  exact List.flatMap_congr fun field _ => pieceOf?_shown write entry field.1 field.2

theorem splitRepeated_perm (seen : List String) (args : List (Argument Node)) :
    ((splitRepeated seen args).1 ++ (splitRepeated seen args).2).Perm args := by
  induction args generalizing seen with
  | nil => exact .refl _
  | cons arg args ih =>
    rw [splitRepeated]
    split
    · exact List.perm_middle.trans ((ih seen).cons arg)
    · exact (ih (arg.name :: seen)).cons arg

@[simp]
theorem propertyItems_mappedChildren : (mappedChildren node.children).flatMap propertyItems = [] := by
  unfold mappedChildren
  split
  · rfl
  · exact Argument.propertyItems_childSlot "child" _
  · exact Argument.propertyItems_childList _

theorem mapped_shown (write : Expr → String) (table : Mapping.Table) :
    ((mapped write table node).allArgs.flatMap propertyItems).Perm node.embedded := by
  let pieces := (piecesOf write (table.lookup? node.type) node.properties).filterMap Piece.argument?
  have children : (if takesChildren table node.type then mappedChildren node.children else []).flatMap
      propertyItems = [] := by
    split
    · exact propertyItems_mappedChildren node
    · rfl
  have both := (splitRepeated_perm [] pieces).flatMap_right propertyItems
  rw [pieces_shown, List.flatMap_append] at both
  simpa [mapped, allArgs, children] using both

theorem ofKind_shown (write : Expr → String) (table : Mapping.Table) :
    ((ofKind write table node node.kind).allArgs.flatMap propertyItems).Perm node.shown := by
  have plain {form : Form} {shown : List Node} (none : form.shadowed = [])
      (items : form.args.flatMap propertyItems = shown) : (form.allArgs.flatMap propertyItems).Perm shown :=
    .of_eq (by rw [allArgs_of_plain none, items])
  unfold Node.shown
  cases kind : node.kind with
  | scaffold => exact plain rfl (propertyItems_scaffold node)
  | appBar => exact plain rfl (by simp [ofKind, appBar, Node.widgetsOf])
  | container => exact plain rfl (by simp [ofKind, container])
  | padding => exact plain rfl (by simp [ofKind, padding])
  | center => exact plain rfl (by simp [ofKind, center])
  | sizedBox => exact plain rfl (by simp [ofKind, sizedBox])
  | align => exact plain rfl (by simp [ofKind, align])
  | expanded => exact plain rfl (by simp [ofKind, expanded])
  | flexible => exact plain rfl (by simp [ofKind, flexible])
  | positioned => exact plain rfl (by simp [ofKind, positioned])
  | card => exact plain rfl (by simp [ofKind, card])
  | column | row => exact plain rfl (by simp [ofKind, flex])
  | stack => exact plain rfl (by simp [ofKind, stack])
  | listView => exact plain (listView_shadowed node) (propertyItems_listView node)
  | gridView => exact plain rfl (by simp [ofKind, gridView])
  | wrap => exact plain rfl (by simp [ofKind, wrap])
  | text => exact plain rfl (by simp [ofKind, text])
  | icon => exact plain rfl (by simp [ofKind, icon])
  | image => exact plain (image_shadowed node) (propertyItems_image node)
  | divider => exact plain rfl (by simp [ofKind, divider])
  | listTile => exact plain rfl (by simp [ofKind, listTile])
  | button | elevatedButton | textButton | outlinedButton => exact plain rfl (propertyItems_materialButton node _)
  | iconButton => exact plain rfl (by simp [ofKind, iconButton, tapHandler])
  | textField => exact plain rfl (propertyItems_textField node)
  | checkbox | «switch» => exact plain rfl (by simp [ofKind, toggle])
  | radio => exact plain rfl (by simp [ofKind, radio])
  | slider => exact plain rfl (by simp [ofKind, slider])
  | generic => exact mapped_shown node write table

end Form

namespace Node

variable (options : Options) {table : Mapping.Table} {address : String}

theorem writes_iff {node item : Node} (level : Nat) :
    node.Writes table item ↔ ∃ arg ∈ (node.formAt options table level).allArgs, item ∈ arg.items := by
  have shown : item ∈ (node.formAt options table level).allArgs.flatMap propertyItems ↔ item ∈ node.shown := by
    rw [formAt, form_allArgs]
    exact (Form.ofKind_shown node _ table).mem_iff
  have tree : item ∈ (node.formAt options table level).allArgs.flatMap treeItems ↔
      ¬ node.LosesChildren table ∧ item ∈ node.children := by
    obtain ⟨dropped, placed⟩ := node.formAt_children options table level
    by_cases loses : node.LosesChildren table
    · rw [(dropped loses).2]
      simp [loses]
    · rw [(placed loses).2.mem_iff]
      simp [loses]
  have places : (∃ arg ∈ (node.formAt options table level).allArgs, item ∈ arg.items) ↔
      item ∈ (node.formAt options table level).allArgs.flatMap treeItems ∨
        item ∈ (node.formAt options table level).allArgs.flatMap propertyItems := by
    simp only [Argument.mem_items_iff, List.mem_flatMap, and_or_left, exists_or]
  rw [places, tree, shown]
  constructor
  · rintro (⟨keeps, member⟩ | member)
    · exact .inl ⟨keeps, member⟩
    · exact .inr member
  · rintro (⟨keeps, member⟩ | member)
    · exact .child keeps member
    · exact .shown member

theorem needs_iff {node : Node} (level : Nat) : node.Needs table address ↔
    address ∈ node.entryImports table ++ (node.formAt options table level).imports := by
  have entries : address ∈ node.entryImports table ↔ ∃ entry, table.lookup? node.type = some entry ∧
      address ∈ entry.imports := by
    unfold entryImports
    cases table.lookup? node.type <;> simp
  have translated : Form.isTranslated node = true ↔
      ∃ value, node.property? "useTranslation" = some value ∧ value.isTruthy = true := by
    rw [Form.isTranslated]
    cases node.property? "useTranslation" <;> simp
  rw [List.mem_append, entries, formAt, form_imports, Form.ofKind_imports_eq]
  constructor
  · rintro (⟨found, member⟩ | ⟨isText, given, truthy⟩)
    · exact .inl ⟨_, found, member⟩
    · rw [if_pos ⟨isText, translated.mpr ⟨_, given, truthy⟩⟩]
      exact .inr (List.mem_singleton_self _)
  · rintro (⟨entry, found, member⟩ | member)
    · exact .entry found member
    · split at member
      · rename_i both
        obtain ⟨value, given, truthy⟩ := translated.mp both.2
        rw [List.mem_singleton.mp member]
        exact .translation both.1 given truthy
      · cases member

theorem Writes.weight {node item : Node} (step : node.Writes table item) : item.weight < node.weight := by
  obtain ⟨arg, given, inside⟩ := (writes_iff {} 0).mp step
  exact node.form_lighter _ table arg given item inside

theorem mem_imports_iff (depth level : Nat) (node : Node) :
    address ∈ (node.render options table depth level).imports ↔
      ∃ inner, ReflTransGen (Writes table) node inner ∧ inner.Needs table address := by
  -- A widget deeper down stands on another level. What it needs does not depend on it, so the level is left open.
  rw [mem_render_imports, ← needs_iff]
  constructor
  · rintro (own | ⟨arg, given, item, inside, asked⟩)
    · exact ⟨node, .refl, own⟩
    · have : item.weight < node.weight := node.form_lighter _ table arg given item inside
      obtain ⟨inner, reach, needs⟩ := (mem_imports_iff (depth + 1) (level + arg.inset) item).mp asked
      exact ⟨inner, .head ((writes_iff options level).mpr ⟨arg, given, inside⟩) reach, needs⟩
  · rintro ⟨inner, reach, needs⟩
    rcases reach.cases_head with rfl | ⟨item, step, reach⟩
    · exact .inl needs
    · obtain ⟨arg, given, inside⟩ := (writes_iff options level).mp step
      have : item.weight < node.weight := step.weight
      exact .inr ⟨arg, given, item, inside,
        (mem_imports_iff (depth + 1) (level + arg.inset) item).mpr ⟨inner, reach, needs⟩⟩
termination_by node.weight

end Node

theorem insertName_ascending (name : String) {names : List String} (ascending : names.Pairwise (· < ·)) :
    (insertName name names).Pairwise (· < ·) := by
  induction names with
  | nil => exact List.pairwise_singleton _ _
  | cons first names ih =>
    obtain ⟨before, later⟩ := List.pairwise_cons.mp ascending
    rw [insertName]
    split
    · rename_i below
      refine List.pairwise_cons.mpr ⟨fun other member => ?_, ascending⟩
      rcases List.mem_cons.mp member with rfl | behind
      · exact below
      · exact below.trans (before other behind)
    · rename_i notBelow
      split
      · exact ascending
      · rename_i different
        refine List.pairwise_cons.mpr ⟨fun other member => ?_, ih later⟩
        rcases mem_insertName.mp member with rfl | behind
        · exact lt_of_le_of_ne (not_lt.mp notBelow) different
        · exact before other behind

theorem sortedNames_ascending (names : List String) : (sortedNames names).Pairwise (· < ·) := by
  induction names with
  | nil => exact .nil
  | cons name names ih => exact insertName_ascending name ih

/-- The imports of a source stand in ascending order, each once: the one that every source needs, and what the widgets
need that are written in it. -/
theorem generate_imports_needed (options : Options) (table : Mapping.Table) (root : Node)
    (valid : options.fault? = none) :
    ∃ generation, generate options table root = .ok generation ∧
      generation.imports.Pairwise (· < ·) ∧
      ∀ address, address ∈ generation.imports ↔ address = Mapping.materialImport ∨
        ∃ inner, ReflTransGen (Node.Writes table) root inner ∧ inner.Needs table address := by
  refine ⟨.ofRendering options (root.renderRoot options table), by rw [generate, valid], ?_, fun address => ?_⟩
  · exact sortedNames_ascending _
  · rw [← root.mem_imports_iff options 0 options.rootLevel, ← List.mem_cons]
    exact mem_sortedNames

def translatedScreen : Node :=
  let title : Value := .map [("type", .text "text"), ("properties", .map [("useTranslation", .bool true)])]
  ⟨none, "scaffold", [("appBar", .map [("title", title)])], []⟩

theorem translatedScreen_imports : ({} : Options).fault? = none ∧
    ∃ generation, generate {} .stock translatedScreen = .ok generation ∧ generation.imports.Pairwise (· < ·) ∧
      Form.translationImport ∈ generation.imports := by
  have valid : ({} : Options).fault? = none := by decide
  obtain ⟨generation, generated, ascending, needed⟩ := generate_imports_needed {} .stock translatedScreen valid
  let title : Node := ⟨none, "text", [("useTranslation", .bool true)], []⟩
  let bar : Node := ⟨none, "AppBar", [("title", .map [("type", .text "text"),
    ("properties", .map [("useTranslation", .bool true)])])], []⟩
  have inScreen : translatedScreen.shown = [bar] := rfl
  have inBar : bar.shown = [title] := by
    have kind : bar.kind = .appBar := by decide
    rw [Node.shown, kind]
    rfl
  have first : translatedScreen.Writes .stock bar := .shown (inScreen ▸ List.mem_singleton_self bar)
  have second : bar.Writes .stock title := .shown (inBar ▸ List.mem_singleton_self title)
  have needs : title.Needs .stock Form.translationImport := .translation (by decide) rfl rfl
  exact ⟨valid, generation, generated, ascending,
    (needed _).mpr (.inr ⟨title, .head first (.single second), needs⟩)⟩

end WidgetSource
