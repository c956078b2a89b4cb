import WidgetSource.Form.Screen
import Mathlib.Data.List.Forall2

namespace WidgetSource

section

variable {α β γ δ : Type} {R S : α → β → Prop} {a c : Option α} {b d : Option β}

theorem Option.rel_refl {R : α → α → Prop} (same : ∀ x, R x x) (a : Option α) : Option.Rel R a a := by
  cases a with
  | none => exact .none
  | some x => exact .some (same x)

theorem Option.rel_imp_mem (related : Option.Rel R a b) (step : ∀ x ∈ a, ∀ y, R x y → S x y) : Option.Rel S a b := by
  cases related with
  | none => exact .none
  | some same => exact .some (step _ rfl _ same)

theorem Option.rel_map {T : γ → δ → Prop} {f : α → γ} {g : β → δ} (related : Option.Rel R a b)
    (step : ∀ x ∈ a, ∀ y, R x y → T (f x) (g y)) : Option.Rel T (a.map f) (b.map g) := by
  cases related with
  | none => exact .none
  | some same => exact .some (step _ rfl _ same)

theorem Option.rel_bind {T : γ → δ → Prop} {f : α → Option γ} {g : β → Option δ} (related : Option.Rel R a b)
    (each : ∀ x y, R x y → Option.Rel T (f x) (g y)) : Option.Rel T (a.bind f) (b.bind g) := by
  cases related with
  | none => exact .none
  | some step => exact each _ _ step

theorem Option.isSome_eq_of_rel (related : Option.Rel R a b) : a.isSome = b.isSome := by
  cases related <;> rfl

theorem Option.bind_eq_of_rel {f : α → Option γ} {g : β → Option γ} (related : Option.Rel R a b)
    (same : ∀ x y, R x y → f x = g y) : a.bind f = b.bind g := by
  cases related with
  | none => rfl
  | some step => exact same _ _ step

theorem Option.map_eq_of_rel {f : α → γ} {g : β → γ} (related : Option.Rel R a b) (same : ∀ x y, R x y → f x = g y) :
    a.map f = b.map g := by
  cases related with
  | none => rfl
  | some step => exact congrArg some (same _ _ step)

theorem Option.rel_filter {p : α → Bool} {q : β → Bool} (related : Option.Rel R a b)
    (same : ∀ x y, R x y → p x = q y) : Option.Rel R (a.filter p) (b.filter q) := by
  cases related with
  | none => exact .none
  | @some x y step =>
    rw [Option.filter_some, Option.filter_some, same x y step]
    split
    · exact .some step
    · exact .none

theorem Option.rel_getD {x : α} {y : β} (related : Option.Rel R a b) (fallback : R x y) : R (a.getD x) (b.getD y) := by
  cases related with
  | none => exact fallback
  | some step => exact step

theorem Option.rel_or (first : Option.Rel R a b) (second : Option.Rel R c d) : Option.Rel R (a.or c) (b.or d) := by
  cases first with
  | none => exact second
  | some step => exact .some step

end

namespace Value

/-- The values are the same for a reader who looks up the fields of a map by their names. -/
inductive Alike : Value → Value → Prop
  | null : Alike .null .null
  | bool (b : Bool) : Alike (.bool b) (.bool b)
  | number (x : Double) : Alike (.number x) (.number x)
  | text (s : String) : Alike (.text s) (.text s)
  | list {items others : List Value} : List.Forall₂ Alike items others → Alike (.list items) (.list others)
  | map {fields others : Fields Value} : (∀ name, Option.Rel Alike (Fields.get? name fields) (Fields.get? name others)) →
      Alike (.map fields) (.map others)

theorem Alike.refl (value : Value) : value.Alike value := by
  cases value with
  | null => exact .null
  | bool b => exact .bool b
  | number x => exact .number x
  | text s => exact .text s
  | list items =>
    refine .list (List.forall₂_same.mpr fun item member => ?_)
    have : item.weight < (Value.list items).weight := by
      have := weight_le_itemsWeight member
      simp only [weight]
      omega
    exact Alike.refl item
  | map fields =>
    refine .map fun name => ?_
    cases found : Fields.get? name fields with
    | none => exact .none
    | some field =>
      have : field.weight < (Value.map fields).weight := by
        have := fieldsWeight_le_of_get? found
        simp only [weight]
        omega
      exact .some (Alike.refl field)
termination_by value.weight

/-- A function of values that does not tell apart what reads alike. -/
def Steady {β : Type} (f : Value → β) : Prop :=
  ∀ value other, Alike value other → f value = f other

theorem Steady.of_flat {β : Type} {f : Value → β} (lists : ∀ items others, f (.list items) = f (.list others))
    (maps : ∀ fields others, f (.map fields) = f (.map others)) : Steady f := by
  intro value other alike
  cases alike with
  | null | bool | number | text => rfl
  | list => exact lists _ _
  | map => exact maps _ _

variable {value other : Value}

theorem Alike.field? (alike : Alike value other) (name : String) :
    Option.Rel Alike (value.field? name) (other.field? name) := by
  cases alike with
  | map same => exact same name
  | null | bool | number | text | list => exact .none

theorem isNull_steady : Steady isNull := .of_flat (fun _ _ => rfl) fun _ _ => rfl

theorem text?_steady : Steady text? := .of_flat (fun _ _ => rfl) fun _ _ => rfl

theorem isMap_steady : Steady fun value => value.map?.isSome := .of_flat (fun _ _ => rfl) fun _ _ => rfl

theorem isTruthy_steady : Steady isTruthy := by
  intro value other alike
  cases alike with
  | null | bool | number | text => rfl
  | list same => cases same <;> rfl
  | @map fields others same =>
    -- A map with a field finds it, and then so does the other one.
    cases fields with
    | nil =>
      cases others with
      | nil => rfl
      | cons field rest =>
        have first := same field.1
        rw [Fields.get?, Fields.get?, if_pos rfl] at first
        cases first
    | cons field rest =>
      cases others with
      | nil =>
        have first := same field.1
        rw [Fields.get?, Fields.get?, if_pos rfl] at first
        cases first
      | cons => rfl

end Value

open Value (Alike Steady)

abbrev Fields.Alike (fields others : Fields Value) : Prop :=
  ∀ name, Option.Rel Value.Alike (Fields.get? name fields) (Fields.get? name others)

theorem Fields.Alike.has_eq {fields others : Fields Value} (alike : Fields.Alike fields others) (name : String) :
    Fields.has name fields = Fields.has name others :=
  Option.isSome_eq_of_rel (alike name)

theorem Value.Alike.map? {value other : Value} (alike : Alike value other) :
    Option.Rel Fields.Alike value.map? other.map? := by
  cases alike with
  | null | bool | number | text | list => exact .none
  | map same => exact .some same

theorem Fields.get?_append {α : Type} (name : String) (fields more : Fields α) :
    Fields.get? name (fields ++ more) = (Fields.get? name fields).or (Fields.get? name more) := by
  induction fields with
  | nil => rfl
  | cons field fields ih =>
    rw [List.cons_append, get?, get?, ih]
    split <;> rfl

namespace Dart

@[simp]
theorem numberOf?_steady : Steady numberOf? := .of_flat (fun _ _ => rfl) fun _ _ => rfl

@[simp]
theorem doubleOf?_steady : Steady doubleOf? := .of_flat (fun _ _ => rfl) fun _ _ => rfl

@[simp]
theorem integerOf?_steady : Steady integerOf? := .of_flat (fun _ _ => rfl) fun _ _ => rfl

@[simp]
theorem dimensionOf?_steady : Steady dimensionOf? := .of_flat (fun _ _ => rfl) fun _ _ => rfl

@[simp]
theorem boolOf?_steady : Steady boolOf? := .of_flat (fun _ _ => rfl) fun _ _ => rfl

theorem textOf_steady : Steady textOf := .of_flat (fun _ _ => rfl) fun _ _ => rfl

@[simp]
theorem colorOf?_steady : Steady colorOf? := .of_flat (fun _ _ => rfl) fun _ _ => rfl

theorem fontWeightOf_steady : Steady fontWeightOf := .of_flat (fun _ _ => rfl) fun _ _ => rfl

section

variable {value other : Value} (alike : Alike value other) (name : String)
include alike

theorem doubleField_alike (fallback : Double) : doubleField value name fallback = doubleField other name fallback := by
  rw [doubleField, doubleField, Option.bind_eq_of_rel (alike.field? name) numberOf?_steady]

theorem colorField_alike : colorField value name = colorField other name := by
  rw [colorField, colorField, Option.bind_eq_of_rel (alike.field? name) colorOf?_steady]

theorem token_alike : (value.field? name).bind Value.text? = (other.field? name).bind Value.text? :=
  Option.bind_eq_of_rel (alike.field? name) Value.text?_steady

end

@[simp]
theorem insetsOf_steady : Steady insetsOf := by
  intro value other alike
  cases alike with
  | null | bool | number | text => rfl
  | list => rfl
  | @map fields others same =>
    have side (name : String) : insetSide fields name = insetSide others name := by
      rw [insetSide, insetSide, Option.bind_eq_of_rel (same name) numberOf?_steady]
    have all := same "all"
    have has := Fields.Alike.has_eq same
    rw [insetsOf, insetsOf]
    generalize Fields.get? "all" fields = all?, Fields.get? "all" others = other? at all
    cases all with
    | none => simp only [side, has]
    | @some x y step =>
      show insetsOrZero x = insetsOrZero y
      rw [insetsOrZero, insetsOrZero, numberOf?_steady x y step]

theorem borderOf_steady : Steady borderOf := by
  intro value other alike
  have color := colorField_alike alike "color"
  have width := doubleField_alike alike "width" (.ofInt 1)
  cases alike with
  | null | bool | number | text | list => rfl
  | map =>
    unfold borderOf
    simp only [color, width]

theorem borderRadiusOf_steady : Steady borderRadiusOf := by
  intro value other alike
  have all := Option.bind_eq_of_rel (alike.field? "all") numberOf?_steady
  have corner (name : String) := doubleField_alike alike name .zero
  cases alike with
  | null | bool | number | text | list => rfl
  | map same =>
    unfold borderRadiusOf
    simp only [all, corner]
    rfl

theorem shadowOf_steady : Steady shadowOf := by
  intro value other alike
  have double (name : String) := doubleField_alike alike name .zero
  have color := colorField_alike alike "color"
  unfold shadowOf
  simp only [color, double]

theorem shadowsIn_alike {value other : Value} (alike : Alike value other) :
    List.Forall₂ Alike (shadowsIn value) (shadowsIn other) := by
  cases alike with
  | null | bool | number | text => exact .nil
  | map same => exact .cons (.map same) .nil
  | list same =>
    refine List.rel_filter (fun item other alike => iff_of_eq ?_) same
    exact congrArg (· = true) (Value.isMap_steady item other alike)

theorem boxShadowOf_steady : Steady boxShadowOf := by
  intro value other alike
  have shadows := shadowsIn_alike alike
  have texts : (shadowsIn value).map (fun shadow => Expr.text (shadowOf shadow)) =
      (shadowsIn other).map fun shadow => Expr.text (shadowOf shadow) := by
    rw [← List.forall₂_eq_eq_eq, List.forall₂_map_left_iff, List.forall₂_map_right_iff]
    exact shadows.imp fun some another alike => congrArg Expr.text (shadowOf_steady some another alike)
  unfold boxShadowOf
  generalize shadowsIn value = some, shadowsIn other = others at shadows texts
  cases shadows with
  | nil => rfl
  | cons => exact congrArg Expr.list texts

theorem colors_alike {items others : List Value} (alike : List.Forall₂ Alike items others) :
    items.filterMap colorOf? = others.filterMap colorOf? := by
  induction alike with
  | nil => rfl
  | cons first _ ih => rw [List.filterMap_cons, List.filterMap_cons, colorOf?_steady _ _ first, ih]

theorem gradientOf_steady : Steady gradientOf := by
  intro value other alike
  have colors : (((value.field? "colors").bind Value.list?).getD []).filterMap colorOf? =
      (((other.field? "colors").bind Value.list?).getD []).filterMap colorOf? := by
    have field := alike.field? "colors"
    generalize value.field? "colors" = colors, other.field? "colors" = others at field
    cases field with
    | none => rfl
    | some alike =>
      cases alike with
      | null | bool | number | text | map => rfl
      | list same => exact colors_alike same
  have token := token_alike alike
  unfold gradientOf
  simp only [colors, token]

theorem constraintsOf_steady : Steady constraintsOf := by
  intro value other alike
  have bound (name : String) : (value.field? name).bind dimensionOf? = (other.field? name).bind dimensionOf? :=
    Option.bind_eq_of_rel (alike.field? name) dimensionOf?_steady
  unfold constraintsOf
  simp only [bound]

@[simp]
theorem transformOf_steady : Steady transformOf := by
  intro value other alike
  have number (name : String) : (value.field? name).bind numberOf? = (other.field? name).bind numberOf? :=
    Option.bind_eq_of_rel (alike.field? name) numberOf?_steady
  have offset := alike.field? "translate"
  unfold transformOf
  simp only [number]
  cases (other.field? "rotate").bind numberOf? with
  | some => rfl
  | none =>
    cases (other.field? "scale").bind numberOf? with
    | some => rfl
    | none =>
      generalize value.field? "translate" = shift, other.field? "translate" = others at offset
      cases offset with
      | none => rfl
      | some alike =>
        cases alike with
        | null | bool | number | text | list => rfl
        | map same =>
          have double (name : String) := doubleField_alike (.map same) name .zero
          simp only [double]

theorem decorationOf_steady : Steady decorationOf := by
  intro value other alike
  have set (name : String) : Option.Rel Alike ((value.field? name).filter (·.isTruthy))
      ((other.field? name).filter (·.isTruthy)) := Option.rel_filter (alike.field? name) Value.isTruthy_steady
  have color := Option.bind_eq_of_rel (set "color") colorOf?_steady
  have border := Option.map_eq_of_rel (set "border") borderOf_steady
  have corners := Option.map_eq_of_rel (set "borderRadius") borderRadiusOf_steady
  have shadows := Option.map_eq_of_rel (set "boxShadow") fun some another alike =>
    congrArg (Prod.mk "boxShadow") (boxShadowOf_steady some another alike)
  have gradient := Option.map_eq_of_rel (set "gradient") gradientOf_steady
  unfold decorationOf
  simp only [color, border, corners, shadows, gradient]

theorem styleField_alike {properties others : Fields Value} (alike : Fields.Alike properties others) (name : String) :
    Option.Rel Alike (styleField properties name) (styleField others name) :=
  Option.rel_or (Option.rel_filter (alike name) Value.isTruthy_steady)
    (Option.rel_filter (Option.rel_bind (alike "style") fun _ _ style => style.field? name) Value.isTruthy_steady)

theorem styleArgs_alike {properties others : Fields Value}
    (alike : ∀ name, Option.Rel Alike (styleField properties name) (styleField others name)) :
    styleArgs properties = styleArgs others := by
  have double (name : String) := Option.bind_eq_of_rel (alike name) doubleOf?_steady
  have token (name : String) := Option.bind_eq_of_rel (alike name) Value.text?_steady
  have color := Option.bind_eq_of_rel (Option.rel_or (alike "textColor") (alike "color")) colorOf?_steady
  have decorationColor := Option.bind_eq_of_rel (alike "decorationColor") colorOf?_steady
  have weight := Option.map_eq_of_rel (alike "fontWeight") fontWeightOf_steady
  unfold styleArgs
  simp only [double, token, color, decorationColor, weight]

theorem textStyleOf?_alike {properties others : Fields Value}
    (alike : ∀ name, Option.Rel Alike (styleField properties name) (styleField others name)) :
    textStyleOf? properties = textStyleOf? others := by
  rw [textStyleOf?, textStyleOf?, styleArgs_alike alike]

end Dart

end WidgetSource
