import WidgetSource.Dart.TextStyle
import WidgetSource.Proofs.UsableNames

/-!
# Styles with a nested map

A style reads a field from the properties, and from the nested map if the properties do not set it. So each argument that
the properties make stays as it is when a nested map is added. The color is the exception, since two fields make it: the
`textColor` of the nested map comes before the `color` of the properties.
-/
namespace WidgetSource

def Fields.truthy? (name : String) (fields : Fields Value) : Option Value :=
  (get? name fields).filter (·.isTruthy)

namespace Dart

open Fields (truthy?)

variable {properties nested : Fields Value} {name : String}

def Expr.writtenArguments (layout : Layout) (level : Nat) (expr : Expr) : List (String × String) :=
  expr.arguments.2.map fun (label, value) => (label.name, value.render layout (level + 1))

theorem Expr.render_ofArgs (layout : Layout) (level : Nat) (args : List (String × Expr)) :
    (ofArgs name args).render layout level = layout.call name none
      (((ofArgs name args).writtenArguments layout level).map fun (name, s) => name ++ ": " ++ s) level := by
  rw [ofArgs, render, renderNamed_eq_map, writtenArguments, arguments, List.map_map, List.map_map, List.map_map]
  exact String.empty_append

def styleArguments (layout : Layout) (level : Nat) (properties : Fields Value) : List (String × String) :=
  ((textStyleOf? properties).map (·.writtenArguments layout level)).getD []

theorem styleArguments_eq (layout : Layout) (level : Nat) (properties : Fields Value) :
    styleArguments layout level properties =
      (styleArgs properties).map fun (name, value) => (name, value.render layout (level + 1)) := by
  rw [styleArguments, textStyleOf?]
  cases styleArgs properties with
  | nil => rfl
  | cons => simp [Expr.writtenArguments, Expr.arguments, Expr.ofArgs, Label.name, Function.comp_def]

theorem textStyleOf?_render (layout : Layout) (level : Nat) (properties : Fields Value) :
    (textStyleOf? properties).map (·.render layout level) =
      if styleArguments layout level properties = [] then none
      else some (layout.call "TextStyle" none
        ((styleArguments layout level properties).map fun (name, s) => name ++ ": " ++ s) level) := by
  rw [styleArguments, textStyleOf?]
  cases styleArgs properties with
  | nil => rfl
  | cons arg args => exact congrArg some (Expr.render_ofArgs layout level (arg :: args))

def withStyle (nested properties : Fields Value) : Fields Value :=
  Fields.set "style" (.map nested) properties

theorem styleField_bare (bare : Fields.get? "style" properties = none) (name : String) :
    styleField properties name = truthy? name properties := by
  rw [styleField, bare]
  exact Option.or_none

theorem styleField_withStyle (apart : name ≠ "style") :
    styleField (withStyle nested properties) name = (truthy? name properties).or (truthy? name nested) := by
  rw [styleField, withStyle, Fields.get?_set, Fields.get?_set, if_neg apart.symm, if_pos rfl]
  rfl

theorem styleField_kept {value : Value} (bare : Fields.get? "style" properties = none) (apart : name ≠ "style")
    (found : styleField properties name = some value) :
    styleField (withStyle nested properties) name = some value := by
  rw [styleField_bare bare] at found
  rw [styleField_withStyle apart, found, Option.some_or]

/-- The names of the arguments of a style, with the text of each from the fields. -/
def styleTexts : List (String × ((String → Option Value) → Option String)) := [
  ("fontSize", fun field => (field "fontSize").bind doubleOf?),
  ("color", fun field => ((field "textColor").or (field "color")).bind colorOf?),
  ("fontWeight", fun field => (field "fontWeight").map fontWeightOf),
  ("fontStyle", fun field => ((field "fontStyle").bind Value.text?).map fontStyles.read),
  ("letterSpacing", fun field => (field "letterSpacing").bind doubleOf?),
  ("wordSpacing", fun field => (field "wordSpacing").bind doubleOf?),
  ("height", fun field => (field "height").bind doubleOf?),
  ("decoration", fun field => ((field "decoration").bind Value.text?).map textDecorations.read),
  ("decorationColor", fun field => (field "decorationColor").bind colorOf?),
  ("fontFamily", fun field => ((field "fontFamily").bind Value.text?).map textLiteral)]

theorem styleArgs_eq (properties : Fields Value) :
    styleArgs properties = styleTexts.filterMap fun (name, text?) => argument? name (text? (styleField properties)) :=
  calc styleArgs properties
    _ = given (styleTexts.map fun (name, text?) => argument? name (text? (styleField properties))) := rfl
    _ = _ := List.filterMap_map

theorem mem_styleArguments_iff {layout : Layout} {level : Nat} {s : String} :
    (name, s) ∈ styleArguments layout level properties ↔
      ∃ text?, (name, text?) ∈ styleTexts ∧ text? (styleField properties) = some s := by
  rw [styleArguments_eq, styleArgs_eq, List.map_filterMap, List.mem_filterMap]
  simp [argument?, Expr.render]

theorem styleTexts_field {text? : (String → Option Value) → Option String} (member : (name, text?) ∈ styleTexts)
    (notColor : name ≠ "color") :
    ∃ key, key ≠ "style" ∧ ∃ write : Value → Option String, ∀ field, text? field = (field key).bind write := by
  have all : ∀ slot ∈ styleTexts, slot.1 ≠ "color" →
      ∃ key, key ≠ "style" ∧ ∃ write : Value → Option String, ∀ field, slot.2 field = (field key).bind write := by
    simp only [styleTexts, List.forall_mem_cons]
    refine ⟨fun _ => ⟨"fontSize", by decide, doubleOf?, fun _ => rfl⟩, fun isColor => absurd rfl isColor,
      fun _ => ⟨"fontWeight", by decide, some ∘ fontWeightOf, fun _ => Option.map_eq_bind⟩,
      fun _ => ⟨"fontStyle", by decide, fun value => value.text?.map fontStyles.read, fun _ => Option.map_bind⟩,
      fun _ => ⟨"letterSpacing", by decide, doubleOf?, fun _ => rfl⟩,
      fun _ => ⟨"wordSpacing", by decide, doubleOf?, fun _ => rfl⟩,
      fun _ => ⟨"height", by decide, doubleOf?, fun _ => rfl⟩,
      fun _ => ⟨"decoration", by decide, fun value => value.text?.map textDecorations.read, fun _ => Option.map_bind⟩,
      fun _ => ⟨"decorationColor", by decide, colorOf?, fun _ => rfl⟩,
      fun _ => ⟨"fontFamily", by decide, fun value => value.text?.map textLiteral, fun _ => Option.map_bind⟩,
      fun _ none => absurd none List.not_mem_nil⟩
  exact all _ member notColor

theorem mem_styleTexts_color {text? : (String → Option Value) → Option String} :
    ("color", text?) ∈ styleTexts ↔ text? = fun field => ((field "textColor").or (field "color")).bind colorOf? := by
  simp [styleTexts]

/-- The color of the text gives way to that of a nested map: the map sets `textColor`, which the properties do not, to
another color than the one under their `color`. -/
def ColorGivesWay (properties nested : Fields Value) : Prop :=
  truthy? "textColor" properties = none ∧
    ∃ other, truthy? "textColor" nested = some other ∧ colorOf? other ≠ (truthy? "color" properties).bind colorOf?

theorem styleColor_kept_iff (nested : Fields Value) (bare : Fields.get? "style" properties = none) {c : String}
    (made : ((styleField properties "textColor").or (styleField properties "color")).bind colorOf? = some c) :
    ((styleField (withStyle nested properties) "textColor").or
        (styleField (withStyle nested properties) "color")).bind colorOf? = some c ↔
      ¬ ColorGivesWay properties nested := by
  rw [styleField_bare bare, styleField_bare bare] at made
  rw [styleField_withStyle (by decide), styleField_withStyle (by decide), ColorGivesWay]
  cases upper : truthy? "textColor" properties with
  | some value =>
    rw [upper, Option.some_or] at made
    simpa using made
  | none =>
    rw [upper, Option.none_or] at made
    rw [made, Option.none_or]
    cases truthy? "textColor" nested with
    | some other => simp
    | none =>
      obtain ⟨value, set, color⟩ := Option.bind_eq_some_iff.mp made
      simp [set, color]

/-- An argument that properties without a nested map make is there with any nested map, on every layout and level, except
for a color that gives way. -/
theorem styleArgument_kept_iff (nested : Fields Value) (layout : Layout) (level : Nat) {s : String}
    (bare : Fields.get? "style" properties = none) (member : (name, s) ∈ styleArguments layout level properties) :
    (name, s) ∈ styleArguments layout level (withStyle nested properties) ↔
      ¬ (name = "color" ∧ ColorGivesWay properties nested) := by
  obtain ⟨text?, slot, made⟩ := mem_styleArguments_iff.mp member
  by_cases isColor : name = "color"
  · subst isColor
    obtain rfl := mem_styleTexts_color.mp slot
    have color := styleColor_kept_iff nested bare made
    simp only [mem_styleArguments_iff, mem_styleTexts_color, exists_eq_left, color, true_and]
  · have kept : (name, s) ∈ styleArguments layout level (withStyle nested properties) := by
      obtain ⟨key, apart, write, one⟩ := styleTexts_field slot isColor
      rw [one] at made
      obtain ⟨value, found, written⟩ := Option.bind_eq_some_iff.mp made
      refine mem_styleArguments_iff.mpr ⟨text?, slot, ?_⟩
      rw [one, styleField_kept bare apart found, Option.bind_some, written]
    simp [kept, isColor]

theorem redText_kept :
    Fields.get? "style" [("textColor", .text "red")] = (none : Option Value) ∧
      ("color", "Colors.red") ∈ styleArguments ⟨2, .expanded⟩ 1 [("textColor", .text "red")] ∧
      ("color", "Colors.red") ∈ styleArguments ⟨2, .expanded⟩ 1
        (withStyle [("textColor", .text "blue")] [("textColor", .text "red")]) := by
  have bare : Fields.get? "style" [("textColor", .text "red")] = (none : Option Value) := by decide
  have member : ("color", "Colors.red") ∈ styleArguments ⟨2, .expanded⟩ 1 [("textColor", .text "red")] := by decide
  refine ⟨bare, member, (styleArgument_kept_iff _ _ _ bare member).mpr ?_⟩
  rintro ⟨-, none, -⟩
  exact absurd none (by decide)

theorem redText_turns_blue :
    Fields.get? "style" [("color", .text "red")] = (none : Option Value) ∧
      ("color", "Colors.red") ∈ styleArguments ⟨2, .compact⟩ 0 [("color", .text "red")] ∧
      ("color", "Colors.red") ∉ styleArguments ⟨2, .compact⟩ 0
        (withStyle [("textColor", .text "blue")] [("color", .text "red")]) ∧
      (textStyleOf? (withStyle [("textColor", .text "blue")] [("color", .text "red")])).map (·.render ⟨2, .compact⟩ 0) =
        some "TextStyle(color: Colors.blue)" := by
  decide

end Dart

end WidgetSource
