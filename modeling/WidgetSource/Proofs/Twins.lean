import WidgetSource.Proofs.Likeness
import WidgetSource.Proofs.Slots

/-!
# Twins

Widgets of one type whose properties read alike and whose children are related one by one. What two twins are written as
differs at most in the related widgets in their slots.
-/
namespace WidgetSource

open Dart (Expr Label)
open Value (Alike Steady)

section

variable {α β : Type} {R : α → β → Prop}

inductive Slot.Rel (R : α → β → Prop) : Slot α → Slot β → Prop
  | one {item other} : R item other → Slot.Rel R (.one item) (.one other)
  | column {items others} : List.Forall₂ R items others → Slot.Rel R (.column items) (.column others)
  | list {items others} : List.Forall₂ R items others → Slot.Rel R (.list items) (.list others)

inductive Argument.Rel (R : α → β → Prop) : Argument α → Argument β → Prop
  | value (label expr) : Argument.Rel R (.value label expr) (.value label expr)
  | slot (name embedded) {place other} : Slot.Rel R place other →
      Argument.Rel R (.slot name embedded place) (.slot name embedded other)

end

section

variable {α β : Type} {R S : α → β → Prop}

theorem List.forall₂_imp_mem {items : List α} {others : List β} (related : List.Forall₂ R items others)
    (step : ∀ item ∈ items, ∀ other, R item other → S item other) : List.Forall₂ S items others :=
  ((List.forall₂_and_left items others).mpr ⟨step, related⟩).imp fun _ other both => both.1 other both.2

theorem List.map_eq_of_forall₂ {γ : Type} {f : α → γ} {g : β → γ} {items : List α} {others : List β}
    (related : List.Forall₂ R items others) (step : ∀ item ∈ items, ∀ other, R item other → f item = g other) :
    items.map f = others.map g := by
  rw [← List.forall₂_eq_eq_eq, List.forall₂_map_left_iff, List.forall₂_map_right_iff]
  exact List.forall₂_imp_mem related step

theorem List.all_eq_of_forall₂ {p : α → Bool} {q : β → Bool} {items : List α} {others : List β}
    (related : List.Forall₂ R items others) (step : ∀ item ∈ items, ∀ other, R item other → p item = q other) :
    items.all p = others.all q := by
  have marks := congrArg (List.all · id) (List.map_eq_of_forall₂ related step)
  simpa only [List.all_map, Function.id_comp] using marks

theorem Slot.Rel.imp_mem {place : Slot α} {other : Slot β} (related : Slot.Rel R place other)
    (step : ∀ item ∈ place.toList, ∀ other, R item other → S item other) : Slot.Rel S place other := by
  cases related with
  | one related => exact .one (step _ List.mem_cons_self _ related)
  | column related => exact .column (List.forall₂_imp_mem related step)
  | list related => exact .list (List.forall₂_imp_mem related step)

theorem Argument.Rel.imp_mem {arg : Argument α} {other : Argument β} (related : Argument.Rel R arg other)
    (step : ∀ item ∈ arg.items, ∀ other, R item other → S item other) : Argument.Rel S arg other := by
  cases related with
  | value label expr => exact .value label expr
  | slot name embedded related => exact .slot name embedded (related.imp_mem step)

end

variable {R S : Node → Node → Prop}

theorem Slot.Rel.refl (same : ∀ node, R node node) (place : Slot Node) : Slot.Rel R place place := by
  cases place with
  | one item => exact .one (same item)
  | column items => exact .column (List.forall₂_same.mpr fun item _ => same item)
  | list items => exact .list (List.forall₂_same.mpr fun item _ => same item)

theorem Argument.Rel.refl (same : ∀ node, R node node) (arg : Argument Node) : Argument.Rel R arg arg := by
  cases arg with
  | value label expr => exact .value label expr
  | slot name embedded place => exact .slot name embedded (.refl same place)

def ArgsRel (R : Node → Node → Prop) : List (Argument Node) → List (Argument Node) → Prop :=
  List.Forall₂ (Argument.Rel R)

namespace ArgsRel

variable {args others more rest : List (Argument Node)} {children below : List Node}

theorem refl (same : ∀ node, R node node) (args : List (Argument Node)) : ArgsRel R args args :=
  List.forall₂_same.mpr fun arg _ => .refl same arg

theorem nil : ArgsRel R [] [] := List.Forall₂.nil

theorem append (first : ArgsRel R args others) (second : ArgsRel R more rest) :
    ArgsRel R (args ++ more) (others ++ rest) :=
  List.rel_append first second

theorem cons_value {label : Label} {expr : Expr} (related : ArgsRel R args others) :
    ArgsRel R (.value label expr :: args) (.value label expr :: others) :=
  List.Forall₂.cons (.value label expr) related

theorem cons_text {name text other : String} (same : text = other) (related : ArgsRel R args others) :
    ArgsRel R (.text name text :: args) (.text name other :: others) :=
  same ▸ related.cons_value

theorem slot {name : String} {embedded : Bool} {place other : Slot Node} (related : Slot.Rel R place other) :
    ArgsRel R [.slot name embedded place] [.slot name embedded other] :=
  List.Forall₂.cons (.slot name embedded related) .nil

theorem ofExpr? {name : String} {expr other : Option Expr} (same : expr = other) :
    ArgsRel R (Argument.ofExpr? name expr) (Argument.ofExpr? name other) := by
  subst same
  cases expr with
  | none => exact nil
  | some expr => exact nil.cons_value

theorem childSlot (name : String) (related : List.Forall₂ R children below) :
    ArgsRel R (Node.childSlot name children) (Node.childSlot name below) := by
  cases related with
  | nil => exact nil
  | cons first later =>
    cases later with
    | nil => exact slot (.one first)
    | cons second later => exact slot (.column (.cons first (.cons second later)))

theorem childList (related : List.Forall₂ R children below) :
    ArgsRel R (Node.childList children) (Node.childList below) := by
  cases related with
  | nil => exact nil.cons_value
  | cons first later => exact slot (.list (.cons first later))

theorem embeddedIn (name : String) {value other : Option Value}
    (related : Option.Rel (Slot.Rel R) (value.bind Node.embeddedSlot?) (other.bind Node.embeddedSlot?)) :
    ArgsRel R (Node.embeddedIn name value) (Node.embeddedIn name other) := by
  unfold Node.embeddedIn
  generalize value.bind Node.embeddedSlot? = place, other.bind Node.embeddedSlot? = another at related ⊢
  cases related with
  | none => exact nil
  | some related => exact slot related

end ArgsRel

structure Form.Rel (R : Node → Node → Prop) (form other : Form) : Prop where
  target : form.target = other.target
  positional : form.positional = other.positional
  imports : form.imports = other.imports
  args : ArgsRel R form.args other.args
  shadowed : ArgsRel R form.shadowed other.shadowed

theorem Form.Rel.refl (same : ∀ node, R node node) (form : Form) : Form.Rel R form form :=
  ⟨rfl, rfl, rfl, .refl same _, .refl same _⟩

theorem Form.Rel.imp_mem {form other : Form} (related : Form.Rel R form other)
    (step : ∀ arg ∈ form.allArgs, ∀ item ∈ arg.items, ∀ another, R item another → S item another) :
    Form.Rel S form other := by
  obtain ⟨target, positional, imports, args, shadowed⟩ := related
  refine ⟨target, positional, imports, ?_, ?_⟩
  · exact List.forall₂_imp_mem args fun arg member _ same => same.imp_mem (step arg (List.mem_append_left _ member))
  · exact List.forall₂_imp_mem shadowed fun arg member _ same => same.imp_mem (step arg (List.mem_append_right _ member))

theorem Form.Rel.ofArgs {target : String} {args others : List (Argument Node)} (related : ArgsRel R args others) :
    Form.Rel R { target, args } { target, args := others } :=
  ⟨rfl, rfl, rfl, related, .nil⟩

/-! ## Twins -/

/-- Values that read alike and describe related widgets. -/
structure Value.Matches (R : Node → Node → Prop) (value other : Value) : Prop where
  alike : Alike value other
  widget : Option.Rel R value.widget? other.widget?
  bar : Option.Rel R value.appBar? other.appBar?
  slot : Option.Rel (Slot.Rel R) (Node.embeddedSlot? value) (Node.embeddedSlot? other)

theorem Value.Matches.refl (same : ∀ node, R node node) (value : Value) : value.Matches R value where
  alike := .refl value
  widget := Option.rel_refl same _
  bar := Option.rel_refl same _
  slot := Option.rel_refl (.refl same) _

/-- Widgets of one type with properties that match under each name, styles that read alike, and, if they keep them,
related children. -/
structure Node.Twin (table : Mapping.Table) (R : Node → Node → Prop) (node other : Node) : Prop where
  type : node.type = other.type
  property : ∀ name, Option.Rel (Value.Matches R) (node.property? name) (other.property? name)
  style : ∀ name, Option.Rel Alike (Dart.styleField node.properties name) (Dart.styleField other.properties name)
  children : dropsChildren table node.type = false → List.Forall₂ R node.children other.children

/-! ## Writers -/

@[simp]
theorem Writer.word_steady (tokens : Dart.TokenTable) : Steady (Writer.word tokens) :=
  .of_flat (fun _ _ => rfl) fun _ _ => rfl

@[simp]
theorem Writer.text_steady : Steady Writer.text :=
  .of_flat (fun _ _ => rfl) fun _ _ => rfl

@[simp]
theorem Writer.text?_steady (f : String → String) : Steady fun value => value.text?.map f :=
  .of_flat (fun _ _ => rfl) fun _ _ => rfl

@[simp]
theorem Writer.constant_steady (text : String) : Steady (Writer.constant text) :=
  fun _ _ _ => rfl

@[simp]
theorem Writer.always_steady {f : Value → String} (steady : Steady f) : Steady (Writer.always f) := by
  intro value other alike
  exact congrArg some (steady value other alike)

@[simp]
theorem Form.lineLimit_steady : Steady Form.lineLimit := by
  intro value other alike
  simp only [lineLimit, Writer.ifTruthy, Value.isTruthy_steady value other alike,
    Dart.integerOf?_steady value other alike]

@[simp]
theorem Form.constraints_steady :
    Steady fun value => value.map?.map fun fields => Dart.constraintsOf (.map fields) := by
  intro value other alike
  apply Option.map_eq_of_rel alike.map?
  intro fields others same
  exact Dart.constraintsOf_steady _ _ (.map same)

def SteadyWriters (writers : List (String × Writer)) : Prop :=
  ∀ entry ∈ writers, Steady entry.2

@[simp]
theorem steadyWriters_nil : SteadyWriters [] := by
  simp [SteadyWriters]

@[simp]
theorem steadyWriters_cons {name : String} {writer : Writer} {writers : List (String × Writer)} :
    SteadyWriters ((name, writer) :: writers) ↔ Steady writer ∧ SteadyWriters writers :=
  List.forall_mem_cons

@[simp]
theorem steadyWriters_append {writers more : List (String × Writer)} :
    SteadyWriters (writers ++ more) ↔ SteadyWriters writers ∧ SteadyWriters more :=
  List.forall_mem_append

namespace Form

@[simp]
theorem insets_steady : Steady insets := by
  simp [insets]

@[simp]
theorem sizes_steady : SteadyWriters sizes := by
  simp [sizes]

@[simp]
theorem factors_steady : SteadyWriters factors := by
  simp [factors]

@[simp]
theorem scrolling_steady : SteadyWriters scrolling := by
  simp [scrolling]

end Form

namespace Node.Twin

variable {table : Mapping.Table} {node other : Node}

section

variable (twin : node.Twin table R other)
include twin

theorem kind_eq : node.kind = other.kind := congrArg Kind.ofType twin.type

theorem alike (name : String) : Option.Rel Alike (node.property? name) (other.property? name) :=
  Option.rel_imp_mem (twin.property name) fun _ _ _ values => values.alike

theorem bind_eq {β : Type} (name : String) {f : Value → Option β} (steady : Steady f) :
    (node.property? name).bind f = (other.property? name).bind f :=
  Option.bind_eq_of_rel (twin.alike name) steady

theorem hasProperty_eq (name : String) : node.hasProperty name = other.hasProperty name :=
  Option.isSome_eq_of_rel (twin.alike name)

theorem written?_eq (name : String) {writer : Writer} (steady : Steady writer) :
    node.written? name writer = other.written? name writer :=
  twin.bind_eq name steady

theorem named {writers : List (String × Writer)} (steady : SteadyWriters writers) :
    ArgsRel R (node.named writers) (other.named writers) := by
  unfold Node.named
  induction writers with
  | nil => exact .nil
  | cons entry writers ih =>
    obtain ⟨name, writer⟩ := entry
    have same := twin.written?_eq name (steady (name, writer) List.mem_cons_self)
    rw [List.flatMap_cons, List.flatMap_cons]
    dsimp only
    rw [same]
    refine .append ?_ (ih fun later member => steady later (List.mem_cons_of_mem _ member))
    cases other.written? name writer with
    | none => exact .nil
    | some s => exact .cons_value .nil

theorem fields_eq {writers : List (String × Writer)} (steady : SteadyWriters writers) :
    node.fields writers = other.fields writers := by
  refine List.flatMap_congr fun (name, writer) member => ?_
  have same := twin.written?_eq name (steady (name, writer) member)
  dsimp only
  rw [same]

theorem embeddedIn (name property : String) :
    ArgsRel R (Node.embeddedIn name (node.property? property)) (Node.embeddedIn name (other.property? property)) :=
  .embeddedIn name (Option.rel_bind (twin.property property) fun _ _ values => values.slot)

theorem isLeaf_eq (kept : dropsChildren table node.type = false) : node.isLeaf = other.isLeaf := by
  have children := twin.children kept
  unfold isLeaf
  generalize node.children = nodes, other.children = others at children ⊢
  cases children <;> rfl

end

end Node.Twin

/-! ## Forms of twins -/

namespace Form

variable {table : Mapping.Table} {node other : Node} (twin : node.Twin table R other)

section

include twin
variable (kept : dropsChildren table node.type = false)
include kept

theorem child_rel : ArgsRel R (child node) (child other) :=
  .childSlot "child" (twin.children kept)

theorem children_rel : ArgsRel R (children node) (children other) :=
  .childList (twin.children kept)

theorem requiredChild_rel : ArgsRel R (requiredChild node) (requiredChild other) := by
  unfold requiredChild
  rw [twin.isLeaf_eq kept]
  split
  · exact ArgsRel.nil.cons_value
  · exact child_rel twin kept

end

theorem complete_alike (name : String) {value another : Option Value} {fields others : Fields Value}
    (values : Option.Rel Alike value another) (alike : Fields.Alike fields others) :
    Fields.Alike (complete name value fields) (complete name another others) := by
  cases values with
  | none => exact alike
  | some step =>
    unfold complete
    rw [alike.has_eq name]
    dsimp only
    split
    · exact alike
    · intro asked
      rw [Fields.get?_append, Fields.get?_append]
      refine Option.rel_or (alike asked) ?_
      by_cases same : name = asked
      · simpa [Fields.get?, same] using Option.Rel.some step
      · simp [Fields.get?, same]

include twin in
theorem decorationFields?_rel : Option.Rel Fields.Alike (decorationFields? node) (decorationFields? other) := by
  have fields : Option.Rel Fields.Alike ((node.property? "decoration").bind Value.map?)
      ((other.property? "decoration").bind Value.map?) :=
    Option.rel_bind (twin.alike "decoration") fun _ _ alike => alike.map?
  have corners := twin.alike "borderRadius"
  have missing : (((node.property? "decoration").bind Value.map?).isNone && (node.property? "borderRadius").isNone) =
      (((other.property? "decoration").bind Value.map?).isNone && (other.property? "borderRadius").isNone) := by
    simp only [← Option.not_isSome, Option.isSome_eq_of_rel fields, Option.isSome_eq_of_rel corners]
  unfold decorationFields?
  dsimp only
  rw [missing]
  split
  · exact .none
  · exact .some (complete_alike _ corners (complete_alike _ (twin.alike "color") (Option.rel_getD fields fun _ => .none)))

section

include twin

theorem materialButton_rel (kept : dropsChildren table node.type = false) (variant : String) :
    Form.Rel R (materialButton variant node) (materialButton variant other) := by
  have label : buttonLabel node = buttonLabel other := by
    rw [buttonLabel, buttonLabel,
      Option.map_eq_of_rel (Option.rel_or (twin.alike "text") (twin.alike "label")) Dart.textOf_steady]
  have style : buttonStyle node = buttonStyle other := by
    apply twin.fields_eq
    simp [buttonStyleNames]
  refine .ofArgs (.append (.append (.append (.cons_text ?_ .nil) ?_) ?_) ?_)
  · rw [twin.hasProperty_eq]
  · exact twin.named (by simp)
  · rw [style]
    split
    · exact .nil
    · exact .cons_value .nil
  · rw [twin.isLeaf_eq kept, label]
    split
    · exact .cons_value .nil
    · exact child_rel twin kept

theorem listView_rel (kept : dropsChildren table node.type = false) : Form.Rel R (listView node) (listView other) := by
  have scrolls : ArgsRel R (node.named scrolling) (other.named scrolling) := twin.named scrolling_steady
  unfold listView
  rw [twin.isLeaf_eq kept, twin.written?_eq "itemCount" Dart.integerOf?_steady]
  split
  · exact .ofArgs (scrolls.append (ArgsRel.nil.cons_value.cons_value))
  · exact .ofArgs (scrolls.append (children_rel twin kept))

/-! ## Texts, images and input -/

theorem isTranslated_eq : isTranslated node = isTranslated other := by
  have related := twin.alike "useTranslation"
  unfold isTranslated
  generalize node.property? "useTranslation" = value, other.property? "useTranslation" = another at related ⊢
  cases related with
  | none => rfl
  | some alike => exact Value.isTruthy_steady _ _ alike

theorem text_rel : Form.Rel R (text node) (text other) := by
  have value := Option.rel_or (twin.alike "text") (twin.alike "content")
  have name : translationName node = translationName other := by
    simp only [translationName, textValue?, twin.bind_eq "translationKey" Value.text?_steady,
      Option.bind_eq_of_rel value Value.text?_steady]
  have content : (textValue? node).map Dart.textOf = (textValue? other).map Dart.textOf :=
    Option.map_eq_of_rel value Dart.textOf_steady
  unfold text
  dsimp only
  rw [isTranslated_eq twin, name, content]
  exact ⟨rfl, rfl, rfl, .append (.ofExpr? (Dart.textStyleOf?_alike twin.style)) (twin.named (by simp)), .nil⟩

theorem iconIn_eq (name fallback : String) : iconIn name fallback node = iconIn name fallback other := by
  rw [iconIn, iconIn, twin.written?_eq name (Writer.text?_steady Dart.iconOf)]

theorem icon_rel : Form.Rel R (icon node) (icon other) := by
  unfold icon
  rw [iconIn_eq twin]
  exact ⟨rfl, rfl, rfl, twin.named (by simp), .nil⟩

theorem image_rel : Form.Rel R (image node) (image other) := by
  have source : imageSource? node = imageSource? other := by
    simp only [imageSource?, List.findSome?, twin.bind_eq _ Value.text?_steady]
  unfold image
  rw [source]
  split
  · exact .ofArgs .nil
  · exact ⟨rfl, rfl, rfl, twin.named (by simp), .nil⟩

theorem iconButton_rel : Form.Rel R (iconButton node) (iconButton other) := by
  refine .ofArgs (.cons_text ?_ (.cons_text ?_ (twin.named (by simp))))
  · rw [iconIn_eq twin]
  · rw [twin.hasProperty_eq]

theorem textField_rel : Form.Rel R (textField node) (textField other) := by
  have border : Steady inputBorder := .of_flat (fun _ _ => rfl) fun _ _ => rfl
  have icon : Steady fieldIcon := Writer.text?_steady _
  have decoration : inputDecoration node = inputDecoration other := by
    apply twin.fields_eq
    simp [border, icon]
  unfold textField
  rw [decoration]
  refine .ofArgs (.append (.append (twin.named (by simp)) ?_) (twin.named (by simp)))
  split
  · exact .nil
  · exact .cons_value .nil

theorem toggle_rel (target : String) : Form.Rel R (toggle target node) (toggle target other) := by
  refine .ofArgs (.cons_text ?_ (.cons_value (twin.named (by simp))))
  rw [twin.written?_eq "value" Dart.boolOf?_steady]

omit twin in
theorem choiceOf_eq {value another : Option Value} (alike : Option.Rel Alike value another) :
    choiceOf value = choiceOf another := by
  cases alike with
  | none => rfl
  | some alike => cases alike <;> rfl

theorem radio_rel : Form.Rel R (radio node) (radio other) :=
  .ofArgs (.cons_text (choiceOf_eq (twin.alike "value")) (.cons_text (choiceOf_eq (twin.alike "groupValue"))
    (.cons_value (twin.named (by simp)))))

theorem slider_rel : Form.Rel R (slider node) (slider other) := by
  have double (name : String) (fallback : String) :
      (node.written? name Dart.doubleOf?).getD fallback = (other.written? name Dart.doubleOf?).getD fallback := by
    rw [twin.written?_eq name Dart.doubleOf?_steady]
  exact .ofArgs (.cons_text (double _ _) (.cons_text (double _ _) (.cons_text (double _ _) (.append
    (twin.named (by simp)) (.cons_value (twin.named (by simp)))))))

/-! ## Screens -/

theorem labelSlot_rel (name : String) : ArgsRel R (labelSlot name node) (labelSlot name other) := by
  have related := twin.property name
  unfold labelSlot
  generalize node.property? name = value, other.property? name = another at related ⊢
  cases related with
  | none => exact .nil
  | some values =>
    -- A text or a number is written as a text, and anything else is asked for widgets.
    have embedded : ArgsRel R (Node.embeddedIn name (some _)) (Node.embeddedIn name (some _)) :=
      .embeddedIn name values.slot
    have alike := values.alike
    cases alike with
    | number x | text s => exact .cons_value .nil
    | null | bool | list | map => exact embedded

theorem iconSlot_rel (name : String) : ArgsRel R (iconSlot name node) (iconSlot name other) := by
  have related := twin.property name
  unfold iconSlot
  generalize node.property? name = value, other.property? name = another at related ⊢
  cases related with
  | none => exact .nil
  | some values =>
    have embedded : ArgsRel R (Node.embeddedIn name (some _)) (Node.embeddedIn name (some _)) :=
      .embeddedIn name values.slot
    have alike := values.alike
    cases alike with
    | text s => exact .cons_value .nil
    | null | bool | number | list | map => exact embedded

theorem listTile_rel : Form.Rel R (listTile node) (listTile other) :=
  .ofArgs (.append (.append (.append (.append (iconSlot_rel twin _) (labelSlot_rel twin _)) (labelSlot_rel twin _))
    (iconSlot_rel twin _)) (twin.named (by simp)))

theorem appBar_rel : Form.Rel R (appBar node) (appBar other) :=
  .ofArgs (.append (.append (.append (.append (iconSlot_rel twin _) (twin.named (by simp))) (labelSlot_rel twin _))
    (twin.embeddedIn _ _)) (twin.named (by simp)))

omit twin in
theorem floatingButton_eq {properties others : Fields Value} (alike : Fields.Alike properties others) :
    floatingButton properties = floatingButton others := by
  have property (name : String) : Option.Rel Alike ((Fields.get? name properties).filter (!·.isNull))
      ((Fields.get? name others).filter (!·.isNull)) :=
    Option.rel_filter (alike name) fun value other values => congrArg not (Value.isNull_steady value other values)
  simp only [floatingButton, Option.isSome_eq_of_rel (property "onPressed"),
    Option.bind_eq_of_rel (property "icon") Value.text?_steady,
    Option.bind_eq_of_rel (property "tooltip") Writer.text_steady,
    Option.bind_eq_of_rel (property "backgroundColor") Dart.colorOf?_steady]

theorem floatingSlot_rel : ArgsRel R (floatingSlot node) (floatingSlot other) := by
  have related := twin.property "floatingActionButton"
  unfold floatingSlot
  generalize node.property? "floatingActionButton" = value, other.property? "floatingActionButton" = another
    at related ⊢
  cases related with
  | none => exact .nil
  | @some value another values =>
    have widget := values.widget
    have alike := values.alike
    dsimp only
    generalize value.widget? = widget?, another.widget? = another? at widget ⊢
    cases widget with
    | some widget => exact .slot (.one widget)
    | none =>
      cases alike with
      | null | bool | number | text | list => exact .nil
      | map same =>
        dsimp only
        rw [floatingButton_eq same]
        exact .cons_value .nil

theorem headerSlot_rel {header another : Option Node} (headers : Option.Rel R header another) :
    ArgsRel R (headerSlot header node) (headerSlot another other) := by
  cases headers with
  | some header => exact .slot (.one header)
  | none =>
    have bar : Option.Rel R ((node.property? "appBar").bind Value.appBar?)
        ((other.property? "appBar").bind Value.appBar?) :=
      Option.rel_bind (twin.property "appBar") fun _ _ values => values.bar
    unfold headerSlot
    generalize (node.property? "appBar").bind Value.appBar? = bar, (other.property? "appBar").bind Value.appBar? = another
      at bar ⊢
    cases bar with
    | none => exact .nil
    | some bar => exact .slot (.one bar)

omit twin in
theorem splitHeader_rel (kinds : ∀ item another, R item another → item.kind = another.kind) {nodes others : List Node}
    (related : List.Forall₂ R nodes others) :
    Option.Rel R (splitHeader nodes).1 (splitHeader others).1 ∧
      List.Forall₂ R (splitHeader nodes).2 (splitHeader others).2 := by
  have isBar (item another : Node) (step : R item another) : isAppBar item = isAppBar another := by
    rw [isAppBar, isAppBar, kinds item another step]
  have bars : List.Forall₂ R (nodes.filter isAppBar) (others.filter isAppBar) :=
    List.rel_filter (fun item another step => iff_of_eq (by dsimp only; rw [isBar item another step])) related
  have rest : List.Forall₂ R (nodes.filter (!isAppBar ·)) (others.filter (!isAppBar ·)) :=
    List.rel_filter (fun item another step => iff_of_eq (by dsimp only; rw [isBar item another step])) related
  unfold splitHeader
  generalize nodes.filter isAppBar = bars, others.filter isAppBar = headers at bars ⊢
  cases bars with
  | nil => exact ⟨.none, related⟩
  | cons first later =>
    cases later with
    | nil => exact ⟨.some first, rest⟩
    | cons => exact ⟨.none, related⟩

theorem scaffold_rel (kinds : ∀ item another, R item another → item.kind = another.kind)
    (kept : dropsChildren table node.type = false) : Form.Rel R (scaffold node) (scaffold other) := by
  have split := splitHeader_rel kinds (twin.children kept)
  exact .ofArgs (.append (.append (.append (.append (.append (twin.named (by simp))
    (headerSlot_rel twin split.1)) (.childSlot "body" split.2)) (twin.embeddedIn _ _)) (twin.embeddedIn _ _))
    (floatingSlot_rel twin))

/-! ## All forms -/

theorem container_rel (kept : dropsChildren table node.type = false) :
    Form.Rel R (container node) (container other) := by
  have decoration := decorationFields?_rel twin
  have missing : ((decorationFields? node).map fun fields => Dart.decorationOf (.map fields)) =
      (decorationFields? other).map fun fields => Dart.decorationOf (.map fields) :=
    Option.map_eq_of_rel decoration fun fields others alike => Dart.decorationOf_steady _ _ (.map alike)
  unfold container
  dsimp only
  rw [missing]
  refine .ofArgs (.append (.append (.append (.append (.append (twin.named sizes_steady) (twin.named ?_))
    (twin.named (by simp))) (.ofExpr? rfl)) (twin.named (by simp))) (child_rel twin kept))
  split <;> simp

theorem card_rel (kept : dropsChildren table node.type = false) : Form.Rel R (card node) (card other) := by
  refine .ofArgs (.append (.append (twin.named (by simp)) (.ofExpr? ?_)) (child_rel twin kept))
  rw [twin.bind_eq "borderRadius" Dart.numberOf?_steady]

theorem gridView_rel (kept : dropsChildren table node.type = false) : Form.Rel R (gridView node) (gridView other) := by
  have delegate : gridDelegate node = gridDelegate other := by
    unfold gridDelegate
    dsimp only
    rw [twin.written?_eq "crossAxisCount" Dart.integerOf?_steady, twin.fields_eq (by simp)]
  refine .ofArgs (.append (.append ?_ (twin.named scrolling_steady)) (children_rel twin kept))
  rw [delegate]
  exact .ofExpr? rfl

theorem ofKind_rel (kinds : ∀ item another, R item another → item.kind = another.kind) (write : Expr → String)
    (mapped : node.kind = .generic → Form.Rel R (mapped write table node) (mapped write table other)) :
    Form.Rel R (ofKind write table node node.kind) (ofKind write table other other.kind) := by
  have kept {kind : Kind} (same : node.kind = kind) (takes : kind.cardinality ≠ .leaf ∧ kind ≠ .generic) :
      dropsChildren table node.type = false := by
    replace same : Kind.ofType node.type = kind := same
    unfold dropsChildren
    rw [same]
    cases kind with
    | generic => exact absurd rfl takes.2
    | _ => first | exact absurd rfl takes.1 | rfl
  -- Children matter only to kinds that take them, and for these they are related.
  rw [← twin.kind_eq]
  cases kind : node.kind with
  | scaffold => exact scaffold_rel twin kinds (kept kind (by decide))
  | appBar => exact appBar_rel twin
  | container => exact container_rel twin (kept kind (by decide))
  | padding =>
    refine .ofArgs (.cons_text ?_ (child_rel twin (kept kind (by decide))))
    rw [twin.written?_eq "padding" insets_steady]
  | center | sizedBox => exact .ofArgs (.append (twin.named (by simp)) (child_rel twin (kept kind (by decide))))
  | align =>
    refine .ofArgs (.cons_text ?_ (.append (twin.named factors_steady)
      (child_rel twin (kept kind (by decide)))))
    rw [twin.written?_eq "alignment" (Writer.word_steady _)]
  | expanded | flexible | positioned =>
    exact .ofArgs (.append (twin.named (by simp)) (requiredChild_rel twin (kept kind (by decide))))
  | card => exact card_rel twin (kept kind (by decide))
  | column | row | stack | wrap =>
    exact .ofArgs (.append (twin.named (by simp)) (children_rel twin (kept kind (by decide))))
  | listView => exact listView_rel twin (kept kind (by decide))
  | gridView => exact gridView_rel twin (kept kind (by decide))
  | text => exact text_rel twin
  | icon => exact icon_rel twin
  | image => exact image_rel twin
  | divider => exact .ofArgs (twin.named (by simp))
  | listTile => exact listTile_rel twin
  | button =>
    have variant : buttonVariant node = buttonVariant other := by
      unfold buttonVariant
      rw [twin.bind_eq "buttonType" Value.text?_steady]
    show Form.Rel R (materialButton (buttonVariant node) node) (materialButton (buttonVariant other) other)
    rw [← variant]
    exact materialButton_rel twin (kept kind (by decide)) _
  | elevatedButton | textButton | outlinedButton =>
    exact materialButton_rel twin (kept kind (by decide)) _
  | iconButton => exact iconButton_rel twin
  | textField => exact textField_rel twin
  | checkbox | «switch» => exact toggle_rel twin _
  | radio => exact radio_rel twin
  | slider => exact slider_rel twin
  | generic => exact mapped kind

/-! ## Mapped widgets -/

omit twin in
theorem mappedChildren_rel {children below : List Node} (related : List.Forall₂ R children below) :
    ArgsRel R (mappedChildren children) (mappedChildren below) := by
  cases related with
  | nil => exact .nil
  | cons first later =>
    cases later with
    | nil => exact .childSlot "child" (.cons first .nil)
    | cons second later => exact .childList (.cons first (.cons second later))

theorem mapped_rel (reflexive : ∀ item, R item item) (write : Expr → String) (isGeneric : node.kind = .generic)
    (pieces : piecesOf write (table.lookup? node.type) node.properties =
      piecesOf write (table.lookup? node.type) other.properties) :
    Form.Rel R (mapped write table node) (mapped write table other) := by
  have children : ArgsRel R (if takesChildren table node.type then mappedChildren node.children else [])
      (if takesChildren table node.type then mappedChildren other.children else []) := by
    split
    · rename_i takes
      refine mappedChildren_rel (twin.children ?_)
      unfold dropsChildren
      rw [show Kind.ofType node.type = .generic from isGeneric]
      simp [takes]
    · exact .nil
  unfold mapped
  rw [← twin.type]
  dsimp only
  rw [← pieces]
  exact ⟨rfl, rfl, rfl, .append (.refl reflexive _) children, .refl reflexive _⟩

end

end Form

/-- Twins have related forms, given that the forms of widgets of no known kind are. -/
theorem Node.Twin.form_rel {table : Mapping.Table} {node other : Node} (twin : node.Twin table R other)
    (kinds : ∀ item another, R item another → item.kind = another.kind) (write : Expr → String)
    (mapped : node.kind = .generic →
      Form.Rel R (Form.mapped write table node) (Form.mapped write table other)) :
    Form.Rel R (node.form write table) (other.form write table) := by
  have related := Form.ofKind_rel twin kinds write mapped
  constructor
  · rw [form_target, form_target]
    exact related.target
  · rw [form_positional, form_positional]
    exact related.positional
  · rw [form_imports, form_imports]
    exact related.imports
  · rw [form_args, form_args]
    exact related.args
  · rw [form_shadowed, form_shadowed]
    exact related.shadowed

theorem Node.Twin.blocksConst_eq {table : Mapping.Table} {node other : Node} (twin : node.Twin table R other) :
    node.blocksConst table = other.blocksConst table := by
  have filled (name : String) : ((node.property? name).bind Value.map?).isSome =
      ((other.property? name).bind Value.map?).isSome :=
    Option.isSome_eq_of_rel (Option.rel_bind (twin.alike name) fun _ _ alike => alike.map?)
  have translated : (node.property? "useTranslation").any (·.isTruthy) =
      (other.property? "useTranslation").any (·.isTruthy) := Form.isTranslated_eq twin
  unfold blocksConst
  rw [← twin.kind_eq, ← twin.type]
  simp only [filled, translated, twin.hasProperty_eq]

theorem Node.Twin.isLocallyConst_eq {table : Mapping.Table} {node other : Node} (twin : node.Twin table R other)
    (dynamic : node.hasDynamicProperty = other.hasDynamicProperty) :
    node.isLocallyConst table = other.isLocallyConst table := by
  rw [isLocallyConst, isLocallyConst, twin.kind_eq, twin.blocksConst_eq, dynamic]

end WidgetSource
