import WidgetSource.Proofs.Constructors
import Mathlib.Data.List.Nodup

namespace WidgetSource

open Dart (Expr Label)

/-- The names of the named arguments of a call. A text that already holds both counts by the name that it begins with. -/
def Dart.Expr.argumentNames : Expr → List String
  | .call _ _ _ named => named.map fun entry => entry.1.name
  | .text _ | .list _ => []

namespace Form

variable {node : Node} {args more : List (Argument Node)} {names others : List String}

def NamedFrom (names : List String) (args : List (Argument Node)) : Prop :=
  (args.map Argument.name).Sublist names

namespace NamedFrom

theorem append (first : NamedFrom names args) (second : NamedFrom others more) :
    NamedFrom (names ++ others) (args ++ more) := by
  rw [NamedFrom, List.map_append]
  exact List.Sublist.append first second

theorem nil : NamedFrom [] ([] : List (Argument Node)) :=
  .slnil

theorem missing (names : List String) : NamedFrom names [] :=
  List.nil_sublist names

theorem text (name value : String) (rest : NamedFrom names args) : NamedFrom (name :: names) (.text name value :: args) :=
  rest.cons_cons name

theorem value (name : String) (expr : Expr) : NamedFrom [name] [.value (.named name) expr] :=
  List.Sublist.refl [name]

theorem slot (name : String) (embedded : Bool) (place : Slot Node) : NamedFrom [name] [.slot name embedded place] :=
  List.Sublist.refl [name]

theorem «unless» (empty : Bool) (rest : NamedFrom names args) : NamedFrom names (if empty then [] else args) := by
  cases empty with
  | true => exact missing names
  | false => exact rest

theorem named (writers : List (String × Writer)) : NamedFrom (writers.map Prod.fst) (node.named writers) := by
  induction writers with
  | nil => exact nil
  | cons writer writers ih =>
    obtain ⟨name, writer⟩ := writer
    have parts : node.named ((name, writer) :: writers) =
        ((node.written? name writer).map (Argument.text name)).toList ++ node.named writers := rfl
    rw [parts]
    cases node.written? name writer with
    | none => exact List.Sublist.cons name ih
    | some s => exact text name s ih

theorem ofExpr? (name : String) (expr : Option Expr) : NamedFrom [name] (Argument.ofExpr? name expr) := by
  cases expr with
  | none => exact missing [name]
  | some expr => exact value name expr

theorem childSlot (name : String) (children : List Node) : NamedFrom [name] (Node.childSlot name children) := by
  unfold Node.childSlot
  split
  · exact missing [name]
  · exact slot name false _
  · exact slot name false _

theorem childList (children : List Node) : NamedFrom ["children"] (Node.childList children) := by
  unfold Node.childList
  split
  · exact text "children" _ nil
  · exact slot "children" false _

theorem embeddedIn (name : String) (found : Option Value) : NamedFrom [name] (Node.embeddedIn name found) := by
  unfold Node.embeddedIn
  cases found.bind Node.embeddedSlot? with
  | none => exact missing [name]
  | some place => exact slot name true place

end NamedFrom

theorem labelSlot_names (name : String) : NamedFrom [name] (labelSlot name node) := by
  unfold labelSlot
  split
  · exact .text name _ .nil
  · exact .text name _ .nil
  · exact .embeddedIn name _

theorem iconSlot_names (name : String) : NamedFrom [name] (iconSlot name node) := by
  unfold iconSlot
  split
  · exact .text name _ .nil
  · exact .embeddedIn name _

theorem headerSlot_names (header : Option Node) : NamedFrom ["appBar"] (headerSlot header node) := by
  unfold headerSlot
  split
  · exact .slot "appBar" false _
  · cases (node.property? "appBar").bind Value.appBar? with
    | none => exact .missing _
    | some bar => exact .slot "appBar" true _

theorem floatingSlot_names : NamedFrom ["floatingActionButton"] (floatingSlot node) := by
  unfold floatingSlot
  split
  · exact .missing _
  · split
    · exact .slot "floatingActionButton" true _
    · exact .value "floatingActionButton" _
    · exact .missing _

theorem requiredChild_names : NamedFrom ["child"] (requiredChild node) := by
  unfold requiredChild
  split
  · exact .text "child" _ .nil
  · exact .childSlot "child" _

theorem materialButton_names (variant : String) :
    NamedFrom ["onPressed", "onLongPress", "style", "child"] (materialButton variant node).args := by
  have label : NamedFrom ["child"]
      (if node.isLeaf then [.text "child" ("Text(" ++ buttonLabel node ++ ")")] else child node) := by
    split
    · exact .text "child" _ .nil
    · exact .childSlot "child" _
  have handlers : NamedFrom ["onPressed", "onLongPress"]
      ([tapHandler node] ++ node.named [("onLongPress", .constant tapStub)]) :=
    .append (.text "onPressed" _ .nil) (.named _)
  exact .append (.append handlers (.unless _ (.value "style" _))) label

theorem listView_names :
    NamedFrom (scrolling.map Prod.fst ++ ["itemCount", "itemBuilder", "children"]) (listView node).args := by
  unfold listView
  split
  · exact .append (.named _) (.text "itemCount" _ (.text "itemBuilder" _ (.missing ["children"])))
  · exact .append (.named _) ((NamedFrom.childList _).trans (List.sublist_append_right ["itemCount", "itemBuilder"] _))

theorem image_names : NamedFrom ["width", "height", "fit"] (image node).args := by
  unfold image
  split
  · exact .missing _
  · exact .named _

theorem container_names : NamedFrom ["width", "height", "color", "padding", "margin", "alignment", "decoration",
    "constraints", "transform", "child"] (container node).args := by
  have color (plain : Bool) : NamedFrom ["color"] (node.named (if plain then [("color", Dart.colorOf?)] else [])) := by
    cases plain with
    | true => exact .named _
    | false => exact .missing _
  exact .append (.append (.append (.append (.append (.named _) (color _)) (.named _)) (.ofExpr? "decoration" _))
    (.named _)) (.childSlot "child" _)

theorem textField_names : NamedFrom ["controller", "decoration", "obscureText", "maxLines", "keyboardType", "enabled",
    "onChanged", "onSubmitted"] (textField node).args :=
  .append (.append (.named _) (.unless _ (.value "decoration" _))) (.named _)

theorem ofKind_names (node : Node) (write : Expr → String) (table : Mapping.Table) {kind : Kind} (known : kind ≠ .generic) :
    ∃ names, NamedFrom names (ofKind write table node kind).args ∧ ("key" :: names).Nodup := by
  cases kind with
  | scaffold =>
    exact ⟨_, .append (.append (.append (.append (.append (.named _) (headerSlot_names _)) (.childSlot "body" _))
      (.embeddedIn "drawer" _)) (.embeddedIn "bottomNavigationBar" _)) floatingSlot_names, by decide⟩
  | appBar =>
    exact ⟨_, .append (.append (.append (.append (iconSlot_names _) (.named _)) (labelSlot_names _))
      (.embeddedIn "actions" _)) (.named _), by decide⟩
  | container => exact ⟨_, container_names, by decide⟩
  | padding => exact ⟨_, .text "padding" _ (.childSlot "child" _), by decide⟩
  | center | sizedBox => exact ⟨_, .append (.named _) (.childSlot "child" _), by decide⟩
  | align => exact ⟨_, .text "alignment" _ (.append (.named _) (.childSlot "child" _)), by decide⟩
  | expanded | flexible | positioned => exact ⟨_, .append (.named _) requiredChild_names, by decide⟩
  | card => exact ⟨_, .append (.append (.named _) (.ofExpr? "shape" _)) (.childSlot "child" _), by decide⟩
  | column | row | stack | wrap => exact ⟨_, .append (.named _) (.childList _), by decide⟩
  | listView => exact ⟨_, listView_names, by decide⟩
  | gridView => exact ⟨_, .append (.append (.ofExpr? "gridDelegate" _) (.named _)) (.childList _), by decide⟩
  | text => exact ⟨_, .append (.ofExpr? "style" _) (.named _), by decide⟩
  | icon | divider => exact ⟨_, .named _, by decide⟩
  | image => exact ⟨_, image_names, by decide⟩
  | listTile =>
    exact ⟨_, .append (.append (.append (.append (iconSlot_names _) (labelSlot_names _)) (labelSlot_names _))
      (iconSlot_names _)) (.named _), by decide⟩
  | button | elevatedButton | textButton | outlinedButton => exact ⟨_, materialButton_names _, by decide⟩
  | iconButton => exact ⟨_, .text "icon" _ (.text "onPressed" _ (.named _)), by decide⟩
  | textField => exact ⟨_, textField_names, by decide⟩
  | checkbox | «switch» => exact ⟨_, .text "value" _ (.text "onChanged" _ (.named _)), by decide⟩
  | radio => exact ⟨_, .text "value" _ (.text "groupValue" _ (.text "onChanged" _ (.named _))), by decide⟩
  | slider =>
    exact ⟨_, .text "value" _ (.text "min" _ (.text "max" _ (.append (.named _) (.text "onChanged" _ (.named _))))),
      by decide⟩
  | generic => exact absurd rfl known

theorem splitRepeated_names (seen : List String) (args : List (Argument Node)) :
    ((splitRepeated seen args).1.map Argument.name).Nodup ∧
      ∀ name, name ∈ (splitRepeated seen args).1.map Argument.name ↔ name ∈ args.map Argument.name ∧ name ∉ seen := by
  induction args generalizing seen with
  | nil => simp [splitRepeated]
  | cons arg args ih =>
    rw [splitRepeated]
    by_cases repeated : arg.name ∈ seen
    · rw [if_pos (List.contains_iff_mem.mpr repeated)]
      obtain ⟨nodup, names⟩ := ih seen
      refine ⟨nodup, fun name => (names name).trans ?_⟩
      rw [List.map_cons, List.mem_cons]
      constructor
      · exact And.imp_left .inr
      · rintro ⟨rfl | later, fresh⟩
        · exact absurd repeated fresh
        · exact ⟨later, fresh⟩
    · rw [if_neg fun known => repeated (List.contains_iff_mem.mp known)]
      obtain ⟨nodup, names⟩ := ih (arg.name :: seen)
      have once : arg.name ∉ (splitRepeated (arg.name :: seen) args).1.map Argument.name :=
        fun again => ((names arg.name).mp again).2 List.mem_cons_self
      refine ⟨List.nodup_cons.mpr ⟨once, nodup⟩, fun name => ?_⟩
      show name ∈ arg.name :: _ ↔ _
      rw [List.mem_cons, names name, List.map_cons, List.mem_cons, List.mem_cons, not_or]
      constructor
      · rintro (rfl | ⟨later, _, fresh⟩)
        · exact ⟨.inl rfl, repeated⟩
        · exact ⟨.inr later, fresh⟩
      · rintro ⟨rfl | later, fresh⟩
        · exact .inl rfl
        · by_cases same : name = arg.name
          · exact .inl same
          · exact .inr ⟨later, same, fresh⟩

def slotNames : List Node → List String
  | [] => []
  | [_] => ["child"]
  | _ => ["children"]

theorem mappedChildren_names (children : List Node) :
    (mappedChildren children).map Argument.name = slotNames children := by
  cases children with
  | nil => rfl
  | cons first rest => cases rest <;> rfl

end Form

namespace Node

variable (options : Options) (table : Mapping.Table) (level : Nat) (node : Node)

def propertyNames : List String :=
  ((Form.piecesOf (fun expr => expr.render options.layout (level + 1)) (table.lookup? node.type)
    node.properties).filterMap Form.Piece.argument?).map Argument.name

def addedNames : List String :=
  (node.keyEntry options.includeKeys).map (fun entry => entry.1.name) ++
    if takesChildren table node.type then Form.slotNames node.children else []

/-- A widget without a form of its own has a property with the name of its key or of the slot of its children. -/
def Clashes : Prop :=
  node.kind = .generic ∧ ∃ name ∈ node.propertyNames options table level, name ∈ node.addedNames options table

variable {options table level node}

theorem render_argumentNames (depth : Nat) :
    (node.render options table depth level).expr.argumentNames =
      (node.keyEntry options.includeKeys).map (fun entry => entry.1.name) ++
        (node.formAt options table level).args.map Argument.name := by
  rw [render_expr]
  simp only [Dart.Expr.argumentNames, List.map_append, List.append_cancel_left_eq, renderArgs, List.map_map]
  refine List.map_congr_left fun arg _ => ?_
  cases arg <;> rfl

theorem keyEntry_names : ((node.keyEntry options.includeKeys).map fun entry => entry.1.name).Sublist ["key"] := by
  unfold keyEntry
  split
  · exact .refl ["key"]
  · exact List.nil_sublist _

theorem addedNames_sublist : (node.addedNames options table).Sublist ["key", "child", "children"] := by
  have slots : (if takesChildren table node.type then Form.slotNames node.children else []).Sublist
      ["child", "children"] := by
    unfold Form.slotNames
    split
    · split
      · exact List.nil_sublist _
      · decide
      · decide
    · exact List.nil_sublist _
  exact keyEntry_names.append slots

theorem addedNames_nodup : (node.addedNames options table).Nodup := by
  have names : ["key", "child", "children"].Nodup := by decide
  exact names.sublist addedNames_sublist

theorem mapped_names (write : Expr → String) :
    (Form.mapped write table node).args.map Argument.name =
      (Form.splitRepeated [] ((Form.piecesOf write (table.lookup? node.type) node.properties).filterMap
        Form.Piece.argument?)).1.map Argument.name ++
        if takesChildren table node.type then Form.slotNames node.children else [] := by
  simp only [Form.mapped, List.map_append, List.append_cancel_left_eq]
  split
  · exact Form.mappedChildren_names node.children
  · rfl

end Node

/-- The named arguments of a widget have different names exactly if none of its properties takes the name of its key or
of the slot of its children. Only widgets without a form of their own can have such a property. -/
theorem argumentNames_nodup_iff (options : Options) (table : Mapping.Table) (depth level : Nat) (node : Node) :
    (node.render options table depth level).expr.argumentNames.Nodup ↔ ¬ node.Clashes options table level := by
  rw [Node.render_argumentNames, Node.formAt, Node.form_args]
  by_cases isGeneric : node.kind = .generic
  · rw [isGeneric, Form.ofKind, Node.mapped_names]
    obtain ⟨nodup, names⟩ := Form.splitRepeated_names [] ((Form.piecesOf (fun expr => expr.render options.layout
      (level + 1)) (table.lookup? node.type) node.properties).filterMap Form.Piece.argument?)
    rw [(List.perm_append_comm_assoc _ _ _).nodup_iff, List.nodup_append]
    constructor
    · rintro ⟨_, _, apart⟩ ⟨_, name, property, added⟩
      exact apart name ((names name).mpr ⟨property, List.not_mem_nil⟩) name added rfl
    · intro apart
      refine ⟨nodup, Node.addedNames_nodup, ?_⟩
      rintro name first _ added rfl
      exact apart ⟨isGeneric, name, ((names name).mp first).1, added⟩
  · obtain ⟨names, sublist, nodup⟩ := Form.ofKind_names node (fun expr => expr.render options.layout (level + 1)) table
      isGeneric
    exact iff_of_true (nodup.sublist (Node.keyEntry_names.append sublist)) fun clash => isGeneric clash.1

def tooltip : Node :=
  ⟨none, "Tooltip", [("child", .map [("type", .text "icon")])], [⟨none, "text", [("text", .text "Help")], []⟩]⟩

theorem tooltip_repeated :
    ¬ (tooltip.renderRoot exprOptions .empty).expr.argumentNames.Nodup ∧
      ∃ generation, generate exprOptions .empty tooltip = .ok generation ∧
        generation.code =
          "const Tooltip(\n  child: const Icon(Icons.help_outline),\n  child: const Text('Help'),\n)" := by
  refine ⟨?_, _, rfl, ?_⟩
  · rw [Node.renderRoot, Node.render_argumentNames]
    decide +kernel
  · rw [exprOptions_code]
    decide +kernel

end WidgetSource
