import WidgetSource.Proofs.ClearedFields
import WidgetSource.Proofs.UsableNames

/-!
# Colors that are not set

A color that is blank, or the word for a cleared field in any letter case, gives no literal. A widget with a form of its
own has no argument for it. A widget without one looks only whether the property is null, and writes any other such color
as a text.
-/
namespace WidgetSource

open Dart (Expr Label)

/-! ## Calls that are part of others -/

namespace Dart.Expr

mutual

/-- The same expression, or the same call with some of the named arguments, each part of the one of its name. It may be
marked as a constant or not. -/
inductive PartOf : Expr → Expr → Prop
  | same (expr : Expr) : PartOf expr expr
  | call {constant other : Bool} {name : String} {positional : Option Expr} {named more : List (Label × Expr)} :
    SomeOf named more → PartOf (.call constant name positional named) (.call other name positional more)

inductive SomeOf : List (Label × Expr) → List (Label × Expr) → Prop
  | nil : SomeOf [] []
  | keep (label : Label) {expr other : Expr} {named more : List (Label × Expr)} :
    PartOf expr other → SomeOf named more → SomeOf ((label, expr) :: named) ((label, other) :: more)
  | skip (entry : Label × Expr) {named more : List (Label × Expr)} : SomeOf named more → SomeOf named (entry :: more)

end

namespace SomeOf

variable {named more others rest : List (Label × Expr)}

theorem of_sublist (sublist : named.Sublist more) : SomeOf named more := by
  induction sublist with
  | slnil => exact .nil
  | cons entry _ ih => exact .skip entry ih
  | cons_cons entry _ ih => exact .keep entry.1 (.same entry.2) ih

theorem refl (named : List (Label × Expr)) : SomeOf named named :=
  of_sublist (List.Sublist.refl named)

theorem append_left (before : List (Label × Expr)) (part : SomeOf named more) :
    SomeOf (before ++ named) (before ++ more) := by
  induction before with
  | nil => exact part
  | cons entry before ih => exact .keep entry.1 (.same entry.2) ih

theorem length_le {named more : List (Label × Expr)} : SomeOf named more → named.length ≤ more.length
  | .nil => Nat.le_refl 0
  | .keep _ _ part => Nat.succ_le_succ part.length_le
  | .skip _ part => Nat.le_succ_of_le part.length_le

end SomeOf

theorem PartOf.arguments {expr other : Expr} (part : expr.PartOf other) :
    expr.arguments.1 = other.arguments.1 ∧ expr.arguments.2.length ≤ other.arguments.2.length := by
  cases part with
  | same => exact ⟨rfl, Nat.le_refl _⟩
  | call fewer => exact ⟨rfl, fewer.length_le⟩

end Dart.Expr

/-! ## Decorations -/

theorem Form.get?_complete (name added : String) (value : Option Value) (fields : Fields Value) :
    Fields.get? name (complete added value fields) =
      (Fields.get? name fields).or (if name = added then value else none) := by
  cases value with
  | none => simp [complete]
  | some value =>
    cases there : Fields.has added fields with
    | true =>
      rw [complete]
      simp only [there, if_true]
      split
      · rename_i same
        rw [same]
        exact (Option.or_of_isSome there).symm
      · exact Option.or_none.symm
    | false =>
      rw [complete]
      simp only [there, Bool.false_eq_true, if_false, Fields.get?_append]
      by_cases same : name = added
      · simp [Fields.get?, same]
      · simp [Fields.get?, same, Ne.symm same]

theorem Dart.color_or_unset {value : Option Value} (given : Option Value) (unset : value.bind colorOf? = none) :
    ((given.or value).filter (·.isTruthy)).bind colorOf? = (given.filter (·.isTruthy)).bind colorOf? := by
  cases given with
  | some => rfl
  | none =>
    cases value with
    | none => rfl
    | some value =>
      rw [Option.none_or, Option.filter_some]
      split
      · exact unset
      · rfl

theorem Dart.decorationOf_complete {color : Option Value} (corners : Option Value) (fields : Fields Value)
    (unset : color.bind colorOf? = none) :
    decorationOf (.map (Form.complete "borderRadius" corners (Form.complete "color" color fields))) =
      decorationOf (.map (Form.complete "borderRadius" corners fields)) := by
  have field (name : String) (other : name ≠ "color") :
      (Value.map (Form.complete "borderRadius" corners (Form.complete "color" color fields))).field? name =
        (Value.map (Form.complete "borderRadius" corners fields)).field? name := by
    simp only [Value.field?, Form.get?_complete, if_neg other, Option.or_none]
  have colors : ((((Value.map (Form.complete "borderRadius" corners (Form.complete "color" color fields))).field?
        "color").filter (·.isTruthy)).bind colorOf?) =
      (((Value.map (Form.complete "borderRadius" corners fields)).field? "color").filter (·.isTruthy)).bind colorOf? := by
    have apart : "color" ≠ "borderRadius" := by decide
    simp only [Value.field?, Form.get?_complete, if_neg apart, if_pos, Option.or_none]
    exact color_or_unset _ unset
  unfold decorationOf
  simp only [colors, field "border" (by decide), field "borderRadius" (by decide), field "boxShadow" (by decide),
    field "gradient" (by decide)]

/-! ## What widgets read -/

namespace Node

structure ColorTwin (node other : Node) : Prop where
  children : other.children = node.children
  plain (name : String) : Dart.isColorName name = false → other.property? name = node.property? name
  color (name : String) : other.property? name = node.property? name ∨
    (other.property? name).bind Dart.colorOf? = none ∧ (node.property? name).bind Dart.colorOf? = none

def SeesColors (writers : List (String × Writer)) : Prop :=
  ∀ entry ∈ writers, Dart.isColorName entry.1 = true → entry.2 = Dart.colorOf?

@[simp]
theorem seesColors_nil : SeesColors [] := by
  simp [SeesColors]

@[simp]
theorem seesColors_cons {name : String} {writer : Writer} {writers : List (String × Writer)} :
    SeesColors ((name, writer) :: writers) ↔
      (Dart.isColorName name = true → writer = Dart.colorOf?) ∧ SeesColors writers := by
  simp [SeesColors]

@[simp]
theorem seesColors_append {writers more : List (String × Writer)} :
    SeesColors (writers ++ more) ↔ SeesColors writers ∧ SeesColors more := by
  simp [SeesColors, or_imp, forall_and]

namespace ColorTwin

variable {node other : Node} (twin : node.ColorTwin other)
include twin

theorem written?_color (name : String) : other.written? name Dart.colorOf? = node.written? name Dart.colorOf? := by
  rcases twin.color name with same | ⟨left, right⟩
  · rw [written?, written?, same]
  · rw [written?, written?, left, right]

theorem written?_eq {name : String} {writer : Writer} (sees : Dart.isColorName name = true → writer = Dart.colorOf?) :
    other.written? name writer = node.written? name writer := by
  cases isColor : Dart.isColorName name with
  | true =>
    rw [sees isColor]
    exact twin.written?_color name
  | false => rw [written?, written?, twin.plain name isColor]

theorem written?_plain {name : String} {writer : Writer} (plain : Dart.isColorName name = false) :
    other.written? name writer = node.written? name writer := by
  rw [written?, written?, twin.plain name plain]

theorem named_eq {writers : List (String × Writer)} (sees : SeesColors writers) :
    other.named writers = node.named writers := by
  refine List.flatMap_congr fun (name, writer) member => ?_
  dsimp only
  rw [twin.written?_eq (sees (name, writer) member)]

theorem fields_eq {writers : List (String × Writer)} (sees : SeesColors writers) :
    other.fields writers = node.fields writers := by
  refine List.flatMap_congr fun (name, writer) member => ?_
  dsimp only
  rw [twin.written?_eq (sees (name, writer) member)]

theorem isLeaf_eq : other.isLeaf = node.isLeaf := by
  rw [isLeaf, isLeaf, twin.children]

/-! ## Forms -/

open Form

theorem child_eq : child other = child node := by
  rw [child, child, twin.children]

theorem children_eq : Form.children other = Form.children node := by
  rw [Form.children, Form.children, twin.children]

theorem requiredChild_eq : requiredChild other = requiredChild node := by
  rw [requiredChild, requiredChild, twin.isLeaf_eq, twin.child_eq]

theorem decorations_eq : (decorationFields? other).map (fun fields => Dart.decorationOf (.map fields)) =
    (decorationFields? node).map fun fields => Dart.decorationOf (.map fields) := by
  rw [decorationFields?, decorationFields?, twin.plain "decoration" (by decide), twin.plain "borderRadius" (by decide)]
  rcases twin.color "color" with same | ⟨left, right⟩
  · rw [same]
  · split
    · rfl
    · exact congrArg some ((Dart.decorationOf_complete _ _ left).trans (Dart.decorationOf_complete _ _ right).symm)

theorem container_eq : container other = container node := by
  unfold container
  dsimp only
  rw [twin.decorations_eq, twin.named_eq (by simp +decide [sizes]), twin.named_eq (by split <;> simp +decide),
    twin.named_eq (by simp +decide), twin.named_eq (by simp +decide), twin.child_eq]

theorem card_eq : card other = card node := by
  unfold card
  rw [twin.plain "borderRadius" (by decide), twin.named_eq (by simp +decide), twin.child_eq]

theorem tapHandler_eq : tapHandler other = tapHandler node := by
  rw [tapHandler, tapHandler, hasProperty, hasProperty, twin.plain "onPressed" (by decide)]

theorem materialButton_eq (variant : String) : materialButton variant other = materialButton variant node := by
  have style : buttonStyle other = buttonStyle node := twin.fields_eq (by simp +decide [buttonStyleNames])
  have label : buttonLabel other = buttonLabel node := by
    rw [buttonLabel, buttonLabel, twin.plain "text" (by decide), twin.plain "label" (by decide)]
  unfold materialButton
  rw [style, label, twin.tapHandler_eq, twin.isLeaf_eq, twin.child_eq, twin.named_eq (by simp +decide)]

theorem buttonVariant_eq : buttonVariant other = buttonVariant node := by
  rw [buttonVariant, buttonVariant, twin.plain "buttonType" (by decide)]

theorem listView_eq : listView other = listView node := by
  have sees : SeesColors scrolling := by simp +decide [scrolling]
  unfold listView
  rw [twin.isLeaf_eq, twin.written?_plain (by decide), twin.named_eq sees, twin.children_eq]

theorem gridView_eq : gridView other = gridView node := by
  have sees : SeesColors scrolling := by simp +decide [scrolling]
  have delegate : gridDelegate other = gridDelegate node := by
    unfold gridDelegate
    dsimp only
    rw [twin.written?_plain (by decide), twin.fields_eq (by simp +decide)]
  rw [gridView, gridView, delegate, twin.named_eq sees, twin.children_eq]

theorem image_eq : image other = image node := by
  have source : imageSource? other = imageSource? node := by
    simp only [imageSource?, List.findSome?_cons, List.findSome?_nil, twin.plain "source" (by decide),
      twin.plain "src" (by decide), twin.plain "url" (by decide)]
  unfold image
  rw [source, twin.named_eq (by simp +decide [sizes])]

theorem iconIn_eq (name fallback : String) (plain : Dart.isColorName name = false) :
    iconIn name fallback other = iconIn name fallback node := by
  rw [iconIn, iconIn, twin.written?_plain plain]

theorem iconButton_eq : iconButton other = iconButton node := by
  rw [iconButton, iconButton, twin.tapHandler_eq, twin.iconIn_eq "icon" _ (by decide), twin.named_eq (by simp +decide)]

theorem textField_eq : textField other = textField node := by
  have decoration : inputDecoration other = inputDecoration node := twin.fields_eq (by simp +decide)
  unfold textField
  rw [decoration, twin.named_eq (by simp +decide), twin.named_eq (by simp +decide)]

theorem toggle_eq (target : String) : toggle target other = toggle target node := by
  rw [toggle, toggle, twin.written?_plain (by decide), twin.named_eq (by simp +decide)]

theorem radio_eq : radio other = radio node := by
  rw [radio, radio, twin.plain "value" (by decide), twin.plain "groupValue" (by decide), twin.named_eq (by simp +decide)]

theorem slider_eq : slider other = slider node := by
  unfold slider
  dsimp only
  rw [twin.written?_plain (by decide), twin.written?_plain (by decide), twin.written?_plain (by decide),
    twin.named_eq (by simp +decide), twin.named_eq (by simp +decide)]

theorem labelSlot_eq {name : String} (plain : Dart.isColorName name = false) :
    labelSlot name other = labelSlot name node := by
  rw [labelSlot, labelSlot, twin.plain name plain]

theorem iconSlot_eq {name : String} (plain : Dart.isColorName name = false) :
    iconSlot name other = iconSlot name node := by
  rw [iconSlot, iconSlot, twin.plain name plain]

theorem scaffold_eq : scaffold other = scaffold node := by
  have bar := twin.plain "appBar" (by decide)
  have button := twin.plain "floatingActionButton" (by decide)
  unfold scaffold headerSlot floatingSlot
  rw [twin.children, twin.named_eq (by simp +decide), bar, button, twin.plain "drawer" (by decide),
    twin.plain "bottomNavigationBar" (by decide)]

theorem listTile_eq : listTile other = listTile node := by
  rw [listTile, listTile, twin.iconSlot_eq (by decide), twin.labelSlot_eq (by decide), twin.labelSlot_eq (by decide),
    twin.iconSlot_eq (by decide), twin.named_eq (by simp +decide)]

theorem appBar_eq : appBar other = appBar node := by
  rw [appBar, appBar, twin.iconSlot_eq (by decide), twin.labelSlot_eq (by decide), twin.plain "actions" (by decide),
    twin.named_eq (by simp +decide), twin.named_eq (by simp +decide)]

theorem text_positional_eq : (text other).positional = (text node).positional := by
  have content : textValue? other = textValue? node := by
    rw [textValue?, textValue?, twin.plain "text" (by decide), twin.plain "content" (by decide)]
  unfold text isTranslated translationName
  dsimp only
  rw [content, twin.plain "useTranslation" (by decide), twin.plain "translationKey" (by decide)]

theorem text_named_eq : other.named [("textAlign", .word Dart.textAligns), ("overflow", .word Dart.textOverflows),
    ("maxLines", lineLimit), ("softWrap", Dart.boolOf?)] =
      node.named [("textAlign", .word Dart.textAligns), ("overflow", .word Dart.textOverflows), ("maxLines", lineLimit),
        ("softWrap", Dart.boolOf?)] :=
  twin.named_eq (by simp +decide)

/-- Texts read colors in two places, and widgets without a form of their own read them as any property. All others have
the same form. -/
theorem ofKind_eq (write : Expr → String) (table : Mapping.Table) {kind : Kind} (notText : kind ≠ .text)
    (notGeneric : kind ≠ .generic) : ofKind write table other kind = ofKind write table node kind := by
  cases kind with
  | scaffold => exact twin.scaffold_eq
  | appBar => exact twin.appBar_eq
  | container => exact twin.container_eq
  | padding =>
    show padding other = padding node
    rw [padding, padding, twin.written?_plain (by decide), twin.child_eq]
  | center =>
    show center other = center node
    rw [center, center, twin.named_eq (by simp +decide [factors]), twin.child_eq]
  | sizedBox =>
    show sizedBox other = sizedBox node
    rw [sizedBox, sizedBox, twin.named_eq (by simp +decide [sizes]), twin.child_eq]
  | align =>
    show align other = align node
    rw [align, align, twin.written?_plain (by decide), twin.named_eq (by simp +decide [factors]), twin.child_eq]
  | expanded =>
    show expanded other = expanded node
    rw [expanded, expanded, twin.named_eq (by simp +decide), twin.requiredChild_eq]
  | flexible =>
    show flexible other = flexible node
    rw [flexible, flexible, twin.named_eq (by simp +decide), twin.requiredChild_eq]
  | positioned =>
    show positioned other = positioned node
    unfold positioned
    dsimp only
    rw [twin.named_eq (by simp +decide [sizes]), twin.requiredChild_eq]
  | card => exact twin.card_eq
  | column | row =>
    show flex _ other = flex _ node
    rw [flex, flex, twin.named_eq (by simp +decide), twin.children_eq]
  | stack =>
    show stack other = stack node
    rw [stack, stack, twin.named_eq (by simp +decide), twin.children_eq]
  | listView => exact twin.listView_eq
  | gridView => exact twin.gridView_eq
  | wrap =>
    show wrap other = wrap node
    rw [wrap, wrap, twin.named_eq (by simp +decide), twin.children_eq]
  | text => exact absurd rfl notText
  | icon =>
    show icon other = icon node
    rw [icon, icon, twin.iconIn_eq _ _ (by decide), twin.named_eq (by simp +decide)]
  | image => exact twin.image_eq
  | divider =>
    show divider other = divider node
    unfold divider
    dsimp only
    rw [twin.named_eq (by simp +decide)]
  | listTile => exact twin.listTile_eq
  | button =>
    rw [ofKind, ofKind, twin.buttonVariant_eq]
    exact twin.materialButton_eq _
  | elevatedButton | textButton | outlinedButton => exact twin.materialButton_eq _
  | iconButton => exact twin.iconButton_eq
  | textField => exact twin.textField_eq
  | checkbox | «switch» => exact twin.toggle_eq _
  | radio => exact twin.radio_eq
  | slider => exact twin.slider_eq
  | generic => exact absurd rfl notGeneric

end ColorTwin

end Node

/-! ## Texts -/

namespace Dart

theorem given_sublist {args others : List (Option (String × Expr))}
    (less : List.Forall₂ (fun arg other => arg = other ∨ arg = none) args others) :
    (given args).Sublist (given others) := by
  induction less with
  | nil => exact .slnil
  | @cons arg other _ _ first _ ih =>
    rcases first with rfl | rfl
    · cases arg with
      | none => exact ih
      | some arg => exact ih.cons_cons arg
    · cases other with
      | none => exact ih
      | some other => exact ih.cons other

theorem styleArgs_sublist {properties others : Fields Value} {value : Value} (unset : colorOf? value = none)
    (plain : ∀ name, isColorName name = false → styleField properties name = styleField others name)
    (color : ∀ name, styleField properties name = styleField others name ∨ styleField properties name = some value) :
    (styleArgs properties).Sublist (styleArgs others) := by
  have one (name : String) : (styleField properties name).bind colorOf? = (styleField others name).bind colorOf? ∨
      (styleField properties name).bind colorOf? = none := by
    rcases color name with same | hidden
    · exact .inl (by rw [same])
    · exact .inr (by rw [hidden, Option.bind_some, unset])
  have either : ((styleField properties "textColor").or (styleField properties "color")).bind colorOf? =
        ((styleField others "textColor").or (styleField others "color")).bind colorOf? ∨
      ((styleField properties "textColor").or (styleField properties "color")).bind colorOf? = none := by
    rcases color "textColor" with same | hidden
    · rw [same]
      cases styleField others "textColor" with
      | some => exact .inl rfl
      | none => exact one "color"
    · exact .inr (by rw [hidden, Option.some_or, Option.bind_some, unset])
  have named {name : String} {s other : Option String} (less : s = other ∨ s = none) :
      argument? name s = argument? name other ∨ argument? name s = none := by
    rcases less with rfl | rfl
    · exact .inl rfl
    · exact .inr rfl
  refine given_sublist ?_
  simp only [plain "fontSize" (by decide), plain "fontWeight" (by decide), plain "fontStyle" (by decide),
    plain "letterSpacing" (by decide), plain "wordSpacing" (by decide), plain "height" (by decide),
    plain "decoration" (by decide), plain "fontFamily" (by decide)]
  refine .cons (.inl rfl) (.cons (named either) ?_)
  refine .cons (.inl rfl) (.cons (.inl rfl) (.cons (.inl rfl) ?_))
  refine .cons (.inl rfl) (.cons (.inl rfl) (.cons (.inl rfl) ?_))
  exact .cons (named (one "decorationColor")) (.cons (.inl rfl) .nil)

theorem textStyle_someOf {properties others : Fields Value} (rest : List (Label × Expr))
    (less : (styleArgs properties).Sublist (styleArgs others)) :
    Expr.SomeOf (((textStyleOf? properties).map (Label.named "style", ·)).toList ++ rest)
      (((textStyleOf? others).map (Label.named "style", ·)).toList ++ rest) := by
  rw [textStyleOf?, textStyleOf?]
  cases found : styleArgs properties with
  | nil =>
    cases styleArgs others with
    | nil => exact .refl rest
    | cons first args => exact .skip _ (.refl rest)
  | cons first args =>
    cases more_found : styleArgs others with
    | nil =>
      rw [found, more_found] at less
      exact absurd (List.sublist_nil.mp less) (List.cons_ne_nil _ _)
    | cons other more =>
      rw [found, more_found] at less
      exact .keep _ (.call (.of_sublist (less.map _))) (.refl rest)

end Dart

/-! ## Widgets without a color -/

namespace Node

variable {node : Node} {name : String} {value : Value} (options : Options) (table : Mapping.Table) (depth level : Nat)

theorem render_partOf {other : Node} (id : node.id = other.id)
    (target : (node.formAt options table level).target = (other.formAt options table level).target)
    (positional : (node.formAt options table level).positional = (other.formAt options table level).positional)
    (some : Expr.SomeOf (node.entries options table depth level) (other.entries options table depth level)) :
    (node.render options table depth level).expr.PartOf (other.render options table depth level).expr := by
  have key : node.keyEntry options.includeKeys = other.keyEntry options.includeKeys := by
    simp only [keyEntry, id]
  rw [render_expr, render_expr, target, positional, key]
  exact .call (some.append_left _)

theorem render_partOf_of_form {other : Node} (id : node.id = other.id) (kind : node.kind = other.kind)
    (form : ∀ write, Form.ofKind write table node node.kind = Form.ofKind write table other node.kind) :
    (node.render options table depth level).expr.PartOf (other.render options table depth level).expr := by
  apply render_partOf options table depth level id
  · rw [formAt, formAt, form_target, form_target, ← kind, form]
  · rw [formAt, formAt, form_positional, form_positional, ← kind, form]
  · rw [entries, entries, formAt, formAt, form_args, form_args, ← kind, form]
    exact .refl _

theorem get?_without (once : (Fields.names node.properties).Nodup) {other : String} (apart : name ≠ other) :
    Fields.get? other (node.without name).properties = Fields.get? other node.properties := by
  rw [without, Fields.get?_erase once, if_neg apart]

theorem get?_without_self (once : (Fields.names node.properties).Nodup) :
    Fields.get? name (node.without name).properties = none := by
  rw [without, Fields.get?_erase once, if_pos rfl]

section

variable (once : (Fields.names node.properties).Nodup) (member : (name, value) ∈ node.properties)
  (color : Dart.isColorName name = true) (unset : Dart.colorOf? value = none)

include once member color unset

theorem without_colorTwin : node.ColorTwin (node.without name) where
  children := rfl
  plain other notColor := by
    have apart : name ≠ other := by
      rintro rfl
      exact Bool.noConfusion (color.symm.trans notColor)
    rw [property?, property?, get?_without once apart]
  color other := by
    by_cases same : name = other
    · subst same
      right
      rw [property?, property?, get?_without_self once, Fields.get?_of_mem once member]
      refine ⟨rfl, ?_⟩
      rw [Option.filter_some]
      split
      · exact unset
      · rfl
    · left
      rw [property?, property?, get?_without once same]

theorem styleArgs_without :
    (Dart.styleArgs node.properties).Sublist (Dart.styleArgs (node.without name).properties) := by
  have notStyle : name ≠ "style" := by
    rintro rfl
    exact absurd color (by decide)
  have same (other : String) (apart : name ≠ other) :
      Dart.styleField node.properties other = Dart.styleField (node.without name).properties other := by
    rw [Dart.styleField, Dart.styleField, get?_without once apart, get?_without once notStyle]
  refine Dart.styleArgs_sublist unset (fun other notColor => same other ?_) fun other => ?_
  · rintro rfl
    exact Bool.noConfusion (color.symm.trans notColor)
  · by_cases apart : name = other
    · subst apart
      cases truthy : value.isTruthy with
      | true =>
        right
        rw [Dart.styleField, Fields.get?_of_mem once member, Option.filter_some, if_pos truthy, Option.some_or]
      | false =>
        left
        rw [Dart.styleField, Dart.styleField, Fields.get?_of_mem once member, get?_without_self once,
          get?_without once notStyle, Option.filter_some, truthy]
        rfl
    · exact .inl (same other apart)

theorem text_partOf (isText : node.kind = .text) :
    (node.render options table depth level).expr.PartOf ((node.without name).render options table depth level).expr := by
  have twin := without_colorTwin once member color unset
  have kind : (node.without name).kind = .text := isText
  have style (expr : Option Expr) : (renderArgs options table depth level (Argument.ofExpr? "style" expr)).map
      (·.entry options.useConstConstructors) = (expr.map (Label.named "style", ·)).toList := by
    cases expr <;> rfl
  have id : node.id = (node.without name).id := rfl
  apply render_partOf options table depth level id
  · rw [formAt, formAt, form_target, form_target, kind, isText]
    rfl
  · rw [formAt, formAt, form_positional, form_positional, kind, isText]
    exact twin.text_positional_eq.symm
  · rw [entries, entries, formAt, formAt, form_args, form_args, kind, isText]
    simp only [Form.ofKind, Form.text, ← renderArgs_append, List.map_append, style, twin.text_named_eq]
    exact Dart.textStyle_someOf _ (styleArgs_without once member color unset)

theorem unset_partOf (special : node.kind ≠ .generic) :
    (node.render options table depth level).expr.PartOf ((node.without name).render options table depth level).expr := by
  by_cases isText : node.kind = .text
  · exact text_partOf options table depth level once member color unset isText
  · exact render_partOf_of_form options table depth level rfl rfl fun write =>
      ((without_colorTwin once member color unset).ofKind_eq write table isText special).symm

end

def single (type name : String) (value : Value) : Node :=
  ⟨none, type, [(name, value)], []⟩

theorem single_without (type name : String) (value : Value) :
    (single type name value).without name = ⟨none, type, [], []⟩ := by
  simp [single, without, Fields.erase]

theorem leaf_arguments {node : Node} (isGeneric : node.kind = .generic) (unkeyed : node.id = none)
    (leaf : node.children = []) : (node.render options table depth level).expr.arguments =
      (let pieces := Form.piecesOf (fun expr => expr.render options.layout (level + 1)) (table.lookup? node.type)
        node.properties
      ((pieces.filterMap (·.positional?)).head?.map Expr.text,
        (renderArgs options table depth level (Form.splitRepeated [] (pieces.filterMap (·.argument?))).1).map
          (·.entry options.useConstConstructors))) := by
  have keyless : node.keyEntry options.includeKeys = [] := by
    unfold keyEntry
    rw [unkeyed]
    cases options.includeKeys <;> rfl
  have alone : (if takesChildren table node.type then Form.mappedChildren node.children else []) = [] := by
    rw [leaf]
    exact ite_self []
  rw [render_arguments, entries, keyless, List.nil_append, formAt, form_positional, form_args, isGeneric]
  simp only [Form.ofKind, Form.mapped, alone, List.append_nil]

theorem pieceOf?_of_partOf {type : String} (isGeneric : Kind.ofType type = .generic)
    (part : ((single type name value).render options table depth level).expr.PartOf
      (((single type name value).without name).render options table depth level).expr) :
    Form.pieceOf? (fun expr => expr.render options.layout (level + 1)) (table.lookup? type) name value = none := by
  have kind : (single type name value).kind = .generic := isGeneric
  have bareKind : (⟨none, type, [], []⟩ : Node).kind = .generic := isGeneric
  obtain ⟨positional, fewer⟩ := part.arguments
  rw [single_without, leaf_arguments options table depth level kind rfl rfl,
    leaf_arguments options table depth level bareKind rfl rfl] at positional fewer
  cases becomes : Form.pieceOf? (fun expr => expr.render options.layout (level + 1)) (table.lookup? type) name value with
  | none => rfl
  | some piece =>
    cases piece with
    | positional text => simp [Form.piecesOf, single, becomes, Form.Piece.positional?] at positional
    | argument arg =>
      simp [Form.piecesOf, single, becomes, Form.Piece.argument?, Form.splitRepeated, renderArgs] at fewer

end Node

theorem Dart.widgets_of_unset {value : Value} (unset : Dart.colorOf? value = none) : value.widgets = [] := by
  cases value with
  | null | text => rfl
  | number x =>
    rw [colorOf?] at unset
    split at unset
    · split at unset <;> cases unset
    · cases unset
  | bool | list | map => cases unset

/-- No widget of a type has an argument that comes from a property: without the property it has the same arguments, or
more. -/
def Omits (table : Mapping.Table) (type name : String) (value : Value) : Prop :=
  ∀ (options : Options) (depth level : Nat) (node : Node), node.type = type → (Fields.names node.properties).Nodup →
    (name, value) ∈ node.properties →
      (node.render options table depth level).expr.PartOf ((node.without name).render options table depth level).expr

/-- A color that is not set gives no argument to a widget with a form of its own. It gives none to any widget without one
exactly if it is null, or if its name is no identifier and has no template. -/
theorem unsetColor_omitted_iff (table : Mapping.Table) (type : String) {name : String} {value : Value}
    (color : Dart.isColorName name = true) (unset : Dart.colorOf? value = none) :
    Omits table type name value ↔
      (Kind.ofType type = .generic → value.isNull = true ∨
        Dart.isIdentifier name = false ∧ (table.lookup? type).bind (·.template? name) = none) := by
  have bare := Dart.widgets_of_unset unset
  constructor
  · intro omitted isGeneric
    have part := omitted {} 0 0 (.single type name value) rfl (List.nodup_singleton name) (.head _)
    exact (Form.pieceOf?_eq_none_iff bare).mp (Node.pieceOf?_of_partOf {} table 0 0 isGeneric part)
  · rintro condition options depth level node rfl once member
    by_cases isGeneric : node.kind = .generic
    · refine Node.render_partOf_of_form options table depth level rfl rfl fun write => ?_
      rw [isGeneric]
      exact (Node.mapped_without once member ((Form.pieceOf?_eq_none_iff bare).mpr (condition isGeneric))).symm
    · exact Node.unset_partOf options table depth level once member color unset isGeneric

theorem cardColor_omitted : Dart.isColorName "color" = true ∧ Dart.colorOf? (.text " Null ") = none ∧
    Omits .stock "Card" "color" (.text " Null ") :=
  have isColor : Dart.isColorName "color" = true := by decide
  have unset : Dart.colorOf? (.text " Null ") = none := by decide
  have special : Kind.ofType "Card" ≠ .generic := by decide
  ⟨isColor, unset, (unsetColor_omitted_iff .stock "Card" isColor unset).mpr fun isGeneric => absurd isGeneric special⟩

def blankChip : Node :=
  ⟨none, "Chip", [("backgroundColor", .text "")], []⟩

theorem blankChip_colored : Dart.isColorName "backgroundColor" = true ∧ Dart.colorOf? (.text "") = none ∧
    ¬ Omits .empty "Chip" "backgroundColor" (.text "") ∧
      ∃ generation, generate exprOptions .empty blankChip = .ok generation ∧
        generation.code = "const Chip(\n  backgroundColor: '',\n)" := by
  refine ⟨by decide, by decide, fun omitted => ?_, _, rfl, ?_⟩
  · have part := omitted {} 0 0 blankChip rfl (List.nodup_singleton _) (.head _)
    have nothing := Node.pieceOf?_of_partOf {} .empty 0 0 (by decide) part
    rw [Form.pieceOf?_eq_none_iff rfl] at nothing
    exact absurd nothing (by decide)
  · rw [exprOptions_code]
    decide +kernel

end WidgetSource
