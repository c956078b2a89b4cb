import WidgetSource.Dart.Property
import WidgetSource.Proofs.Clearing

/-!
# Cleared fields

The map of a property without the fields that are not set. Most maps are written the same without them. Insets and
gradients look at cleared fields in two places: insets choose their sides by the fields that are there, and a gradient
reads the word for a cleared field as any other word.
-/
namespace WidgetSource

open Dart (Expr)

namespace Fields

def present (fields : Fields Value) : Fields Value :=
  fields.filter fun field => !field.2.isNull

def Cleared (name : String) (fields : Fields Value) : Prop :=
  ∃ value, get? name fields = some value ∧ value.isNull = true

def Holds (name : String) (fields : Fields Value) : Prop :=
  ∃ value, get? name fields = some value ∧ value.isNull = false

variable {fields : Fields Value}

theorem get?_present (once : (names fields).Nodup) (name : String) :
    get? name fields.present = (get? name fields).filter fun value => !value.isNull :=
  get?_filter once (fun value => !value.isNull) name

theorem truthy_present (once : (names fields).Nodup) (name : String) :
    (get? name fields.present).filter (·.isTruthy) = (get? name fields).filter (·.isTruthy) := by
  rw [get?_present once, Option.filter_filter]
  simp only [Value.isNull_or_isTruthy]

theorem has_present_iff (once : (names fields).Nodup) {name : String} :
    has name fields.present = true ↔ Holds name fields := by
  rw [has, get?_present once, Holds]
  cases get? name fields <;> simp [Option.filter_some, apply_ite]

theorem has_iff {name : String} : has name fields = true ↔ Holds name fields ∨ Cleared name fields := by
  rw [has, Holds, Cleared]
  cases get? name fields with
  | none => simp
  | some value => cases null : value.isNull <;> simp [null]

end Fields

/-- What makes nothing of a cleared field makes the same of a missing one. -/
theorem Value.bind_present {β : Type} {read : Value → Option β} {fields : Fields Value}
    (blind : ∀ value, value.isNull = true → read value = none) (once : (Fields.names fields).Nodup) (name : String) :
    ((Value.map fields.present).field? name).bind read = ((Value.map fields).field? name).bind read := by
  rw [field?, field?, Fields.get?_present once]
  exact Option.bind_filter_of_none _ fun value null => blind value (by simpa using null)

namespace Dart

variable {fields : Fields Value}

/-! ## Readers that make nothing of a cleared field -/

theorem numberOf?_of_isNull (value : Value) (null : value.isNull = true) : numberOf? value = none := by
  cases value with
  | text s =>
    obtain rfl : s = "null" := by simpa [Value.isNull] using null
    decide
  | null => rfl
  | bool | number | list | map => cases null

theorem dimensionOf?_of_isNull (value : Value) (null : value.isNull = true) : dimensionOf? value = none := by
  cases value with
  | text s =>
    obtain rfl : s = "null" := by simpa [Value.isNull] using null
    decide
  | null => rfl
  | bool | number | list | map => cases null

theorem colorOf?_of_isNull (value : Value) (null : value.isNull = true) : colorOf? value = none := by
  cases value with
  | text s =>
    obtain rfl : s = "null" := by simpa [Value.isNull] using null
    decide
  | null => rfl
  | bool | number | list | map => cases null

theorem list?_of_isNull (value : Value) (null : value.isNull = true) : value.list? = none := by
  cases value with
  | list => cases null
  | null | bool | number | text | map => rfl

/-! ## Maps that are written the same -/

section

variable (once : (Fields.names fields).Nodup)

include once

theorem doubleField_present (name : String) (fallback : Double) :
    doubleField (.map fields.present) name fallback = doubleField (.map fields) name fallback := by
  rw [doubleField, doubleField, Value.bind_present numberOf?_of_isNull once]

theorem colorField_present (name : String) : colorField (.map fields.present) name = colorField (.map fields) name := by
  rw [colorField, colorField, Value.bind_present colorOf?_of_isNull once]

theorem borderOf_present : borderOf (.map fields.present) = borderOf (.map fields) := by
  have color := colorField_present once "color"
  have width := doubleField_present once "width" (.ofInt 1)
  unfold borderOf
  simp only [color, width]

theorem borderRadiusOf_present : borderRadiusOf (.map fields.present) = borderRadiusOf (.map fields) := by
  have all := Value.bind_present numberOf?_of_isNull once "all"
  have corner (name : String) := doubleField_present once name .zero
  unfold borderRadiusOf
  simp only [all, corner]
  rfl

theorem boxShadowOf_present : boxShadowOf (.map fields.present) = boxShadowOf (.map fields) := by
  have double (name : String) := doubleField_present once name .zero
  have color := colorField_present once "color"
  have shadow : shadowOf (.map fields.present) = shadowOf (.map fields) := by
    unfold shadowOf
    simp only [color, double]
  exact congrArg (fun s => Expr.list [.text s]) shadow

theorem constraintsOf_present : constraintsOf (.map fields.present) = constraintsOf (.map fields) := by
  have bound (name : String) := Value.bind_present dimensionOf?_of_isNull once name
  unfold constraintsOf
  simp only [bound]

theorem transformOf_present : transformOf (.map fields.present) = transformOf (.map fields) := by
  have number (name : String) := Value.bind_present numberOf?_of_isNull once name
  have shift : (Value.map fields.present).field? "translate" =
      ((Value.map fields).field? "translate").filter fun value => !value.isNull := Fields.get?_present once "translate"
  unfold transformOf
  simp only [number, shift]
  cases ((Value.map fields).field? "rotate").bind numberOf? with
  | some => rfl
  | none =>
    cases ((Value.map fields).field? "scale").bind numberOf? with
    | some => rfl
    | none =>
      -- Only a map is a shift, and a map is never cleared.
      cases (Value.map fields).field? "translate" with
      | none => rfl
      | some value =>
        cases value with
        | text s => cases null : (Value.text s).isNull <;> simp [Option.filter_some, null]
        | null | bool | number | list | map => rfl

theorem decorationOf_present : decorationOf (.map fields.present) = decorationOf (.map fields) := by
  have set (name : String) : ((Value.map fields.present).field? name).filter (·.isTruthy) =
      ((Value.map fields).field? name).filter (·.isTruthy) := Fields.truthy_present once name
  unfold decorationOf
  simp only [set]

end

/-! ## Insets -/

theorem same_iff {x y : Double} : x.same y = true ↔ ∃ place, x.place? = some place ∧ y.place? = some place := by
  rw [Double.same]
  cases x.place? with
  | none => simp
  | some i =>
    cases y.place? with
    | none => simp
    | some j => simpa using eq_comm

theorem same_zero_iff {x : Double} : x.same .zero = true ↔ x.place? = some 0 := by
  have zero : Double.zero.place? = some 0 := by decide
  simp [same_iff, zero]

theorem uniformInsets_eq_zero_iff {x : Double} : uniformInsets x = zeroInsets ↔ x.same .zero = true := by
  rw [uniformInsets]
  split
  · simp [*]
  · rename_i width
    refine iff_of_false (fun same => ?_) width
    have first := congrArg (fun s => s.toList.head?) same
    simp [zeroInsets] at first

theorem sidedInsets_eq_zero_iff {left top right bottom : Double} : sidedInsets left top right bottom = zeroInsets ↔
    ∀ side ∈ [left, top, right, bottom], side.same .zero = true := by
  simp only [List.forall_mem_cons, List.not_mem_nil, false_implies, implies_true, and_true, same_zero_iff]
  -- The two longer forms are not the one of zero, and their sides are not all equal.
  have differ (start rest : String) (first : start.toList.head? = some 'c') : start ++ rest ≠ zeroInsets := by
    intro same
    have head := congrArg (fun s => s.toList.head?) same
    rw [String.toList_append, List.head?_append, first] at head
    cases head
  rw [sidedInsets]
  split
  · rename_i equal
    simp only [Bool.and_eq_true, same_iff] at equal
    obtain ⟨⟨⟨i, left_eq, top_eq⟩, j, top_eq', right_eq⟩, k, right_eq', bottom_eq⟩ := equal
    rw [uniformInsets_eq_zero_iff, same_zero_iff]
    grind
  · rename_i unequal
    have some_width : ¬ (left.place? = some 0 ∧ top.place? = some 0 ∧ right.place? = some 0 ∧ bottom.place? = some 0) := by
      rintro ⟨l, t, r, b⟩
      simp [same_iff, l, t, r, b] at unequal
    refine iff_of_false ?_ some_width
    split
    · simp only [String.append_assoc]
      exact differ _ _ rfl
    · simp only [String.append_assoc]
      exact differ _ _ rfl

def sideNames : List String := ["top", "right", "bottom", "left"]

def directionNames : List String := ["horizontal", "vertical"]

def HasWidth (names : List String) (fields : Fields Value) : Prop :=
  ∃ name ∈ names, (insetSide fields name).same .zero = false

def IsSideless (fields : Fields Value) : Prop :=
  ∀ name ∈ sideNames, ¬ fields.Holds name

/-- A cleared field chooses where the widths are read: `all`, or the sides if none of them is set. -/
def IsMisled (fields : Fields Value) : Prop :=
  fields.Cleared "all" ∨ Fields.get? "all" fields = none ∧ (∃ name ∈ sideNames, fields.Cleared name) ∧ IsSideless fields

def GivesWidth (fields : Fields Value) : Prop :=
  HasWidth sideNames fields ∨ IsSideless fields ∧ HasWidth directionNames fields

theorem insetSide_eq_zero {name : String} (unset : ¬ fields.Holds name) : insetSide fields name = .zero := by
  rw [insetSide]
  cases found : Fields.get? name fields with
  | none => rfl
  | some value =>
    have null : value.isNull = true := by
      by_contra set
      exact unset ⟨value, found, by simpa using set⟩
    rw [Option.bind_some, numberOf?_of_isNull value null, Option.getD_none]

/-- Without a width for all sides, insets are read from the sides if there is one, and else from the directions. -/
theorem insetsOf_eq_sided (noAll : Fields.get? "all" fields = none) : insetsOf (.map fields) =
    if sideNames.any fun name => Fields.has name fields then
      sidedInsets (insetSide fields "left") (insetSide fields "top") (insetSide fields "right") (insetSide fields "bottom")
    else
      sidedInsets (insetSide fields "horizontal") (insetSide fields "vertical") (insetSide fields "horizontal")
        (insetSide fields "vertical") := by
  simp only [insetsOf, noAll, Bool.and_eq_true, Bool.not_eq_true']
  cases sides : sideNames.any fun name => Fields.has name fields with
  | true =>
    rw [if_neg fun none => absurd (sides.symm.trans none.1) Bool.noConfusion, if_pos rfl]
  | false =>
    by_cases directions : (Fields.has "horizontal" fields || Fields.has "vertical" fields) = true
    · rw [if_pos ⟨sides, directions⟩, if_neg Bool.false_ne_true]
    · -- Where nothing is given all widths are zero.
      rw [if_neg fun given => directions given.2, if_neg Bool.false_ne_true]
      have zero (name : String) (missing : Fields.has name fields = false) : insetSide fields name = .zero :=
        insetSide_eq_zero fun holds => Bool.noConfusion (missing.symm.trans (Fields.has_iff.mpr (.inl holds)))
      simp only [sideNames, List.any_cons, List.any_nil, Bool.or_eq_false_iff, Bool.not_eq_true] at sides directions
      rw [zero "top" sides.1, zero "right" sides.2.1, zero "bottom" sides.2.2.1, zero "left" sides.2.2.2.1,
        zero "horizontal" directions.1, zero "vertical" directions.2]

theorem sided_eq_zero_iff : sidedInsets (insetSide fields "left") (insetSide fields "top") (insetSide fields "right")
    (insetSide fields "bottom") = zeroInsets ↔ ¬ HasWidth sideNames fields := by
  simp [sidedInsets_eq_zero_iff, HasWidth, sideNames]
  tauto

theorem directed_eq_zero_iff : sidedInsets (insetSide fields "horizontal") (insetSide fields "vertical")
    (insetSide fields "horizontal") (insetSide fields "vertical") = zeroInsets ↔
      ¬ HasWidth directionNames fields := by
  simp [sidedInsets_eq_zero_iff, HasWidth, directionNames]
  tauto

theorem not_hasWidth_sides (sideless : IsSideless fields) : ¬ HasWidth sideNames fields := by
  rintro ⟨name, member, width⟩
  rw [insetSide_eq_zero (sideless name member)] at width
  exact absurd width (by decide)

theorem isSideless_iff (once : (Fields.names fields).Nodup) :
    IsSideless fields ↔ ¬ (sideNames.any fun name => Fields.has name fields.present) = true := by
  simp only [IsSideless, List.any_eq_true, Fields.has_present_iff once, not_exists, not_and]

theorem insetSide_present (once : (Fields.names fields).Nodup) (name : String) :
    insetSide fields.present name = insetSide fields name :=
  congrArg (·.getD .zero) (Value.bind_present numberOf?_of_isNull once name)

theorem insetsOf_present_eq_zero_iff (once : (Fields.names fields).Nodup) (noAll : ¬ fields.Holds "all") :
    insetsOf (.map fields.present) = zeroInsets ↔ ¬ GivesWidth fields := by
  have missing : Fields.get? "all" fields.present = none := by
    rw [Fields.get?_present once, Option.filter_eq_none_iff]
    exact fun value all set => noAll ⟨value, all, by simpa using set⟩
  rw [insetsOf_eq_sided missing, GivesWidth]
  simp only [insetSide_present once]
  by_cases sideless : IsSideless fields
  · rw [if_neg ((isSideless_iff once).mp sideless), directed_eq_zero_iff]
    have := not_hasWidth_sides sideless
    tauto
  · rw [if_pos (by_contra fun none => sideless ((isSideless_iff once).mpr none)), sided_eq_zero_iff]
    tauto

theorem insetsOf_eq_zero_of_misled (misled : IsMisled fields) : insetsOf (.map fields) = zeroInsets := by
  rcases misled with ⟨value, all, null⟩ | ⟨noAll, ⟨name, member, cleared⟩, sideless⟩
  · simp [insetsOf, all, insetsOrZero, numberOf?_of_isNull value null]
  · have given : (sideNames.any fun name => Fields.has name fields) = true :=
      List.any_eq_true.mpr ⟨name, member, Fields.has_iff.mpr (.inr cleared)⟩
    rw [insetsOf_eq_sided noAll, if_pos given, sided_eq_zero_iff]
    exact not_hasWidth_sides sideless

theorem not_holds_of_misled (misled : IsMisled fields) : ¬ fields.Holds "all" := by
  rintro ⟨value, all, set⟩
  rcases misled with ⟨other, found, null⟩ | ⟨noAll, _⟩
  · rw [all] at found
    cases found
    exact Bool.noConfusion (set.symm.trans null)
  · rw [all] at noAll
    cases noAll

theorem insetsOf_present (once : (Fields.names fields).Nodup) (guided : ¬ IsMisled fields) :
    insetsOf (.map fields.present) = insetsOf (.map fields) := by
  have all_present := Fields.get?_present once "all"
  cases all : Fields.get? "all" fields with
  | some value =>
    have set : value.isNull = false := by
      by_contra null
      exact guided (.inl ⟨value, all, by simpa using null⟩)
    rw [all, Option.filter_some_pos (by simp [set])] at all_present
    simp [insetsOf, all, all_present]
  | none =>
    rw [all, Option.filter_none] at all_present
    rw [insetsOf_eq_sided all_present, insetsOf_eq_sided all]
    simp only [insetSide_present once]
    -- A side is set as soon as one is there, for else the fields would be misled.
    have sides : (sideNames.any fun name => Fields.has name fields.present) =
        sideNames.any fun name => Fields.has name fields := by
      by_cases sideless : IsSideless fields
      · have missing : ¬ (sideNames.any fun name => Fields.has name fields) = true := by
          rw [List.any_eq_true]
          rintro ⟨name, member, has⟩
          exact (Fields.has_iff.mp has).elim (sideless name member) fun cleared =>
            guided (.inr ⟨all, ⟨name, member, cleared⟩, sideless⟩)
        rw [Bool.eq_false_iff.mpr ((isSideless_iff once).mp sideless), Bool.eq_false_iff.mpr missing]
      · simp only [IsSideless, not_forall, not_not] at sideless
        obtain ⟨name, member, holds⟩ := sideless
        rw [List.any_eq_true.mpr ⟨name, member, (Fields.has_present_iff once).mpr holds⟩,
          List.any_eq_true.mpr ⟨name, member, Fields.has_iff.mpr (.inl holds)⟩]
    rw [sides]

theorem insetsOf_present_iff (once : (Fields.names fields).Nodup) :
    insetsOf (.map fields.present) = insetsOf (.map fields) ↔ ¬ (IsMisled fields ∧ GivesWidth fields) := by
  by_cases misled : IsMisled fields
  · rw [insetsOf_eq_zero_of_misled misled, insetsOf_present_eq_zero_iff once (not_holds_of_misled misled)]
    simp [misled]
  · exact iff_of_true (insetsOf_present once misled) fun hidden => misled hidden.1

/-! ## Gradients -/

def gradientWord (fields : Fields Value) (name fallback : String) : String :=
  ((Fields.get? name fields).bind Value.text?).getD fallback

def gradientColors (fields : Fields Value) : String :=
  let given := (((Fields.get? "colors" fields).bind Value.list?).getD []).filterMap colorOf?
  "colors: [" ++ ", ".intercalate (if given.isEmpty then defaultGradient else given) ++ "]"

def gradientText (type start stop colors : String) : String :=
  match type with
  | "radial" => "RadialGradient(" ++ colors ++ ")"
  | "linear" =>
    "LinearGradient(begin: " ++ alignments.read start ++ ", end: " ++ alignments.read stop ++ ", " ++ colors ++ ")"
  | _ => "LinearGradient(" ++ colors ++ ")"

theorem gradientOf_eq (fields : Fields Value) : gradientOf (.map fields) =
    gradientText (gradientWord fields "type" "linear") (gradientWord fields "begin" "topLeft")
      (gradientWord fields "end" "bottomRight") (gradientColors fields) :=
  rfl

def SaysNull (name : String) (fields : Fields Value) : Prop :=
  Fields.get? name fields = some (.text "null")

/-- The word for a cleared field is read as a type, or as an end where a gradient has ends. -/
def IsMisread (fields : Fields Value) : Prop :=
  SaysNull "type" fields ∨
    gradientWord fields "type" "linear" = "linear" ∧ (SaysNull "begin" fields ∨ SaysNull "end" fields)

theorem gradientWord_of_saysNull {name : String} (null : SaysNull name fields) (fallback : String) :
    gradientWord fields name fallback = "null" := by
  rw [gradientWord, null]
  rfl

theorem gradientWord_present_of_saysNull (once : (Fields.names fields).Nodup) {name : String} (null : SaysNull name fields)
    (fallback : String) : gradientWord fields.present name fallback = fallback := by
  rw [gradientWord, Fields.get?_present once, null]
  rfl

theorem gradientWord_present (once : (Fields.names fields).Nodup) {name : String} (other : ¬ SaysNull name fields)
    (fallback : String) : gradientWord fields.present name fallback = gradientWord fields name fallback := by
  rw [gradientWord, gradientWord, Fields.get?_present once]
  cases found : Fields.get? name fields with
  | none => rfl
  | some value =>
    cases value with
    | text s =>
      have set : (Value.text s).isNull = false := by
        rw [Value.isNull, beq_eq_false_iff_ne]
        rintro rfl
        exact other found
      rw [Option.filter_some_pos (by simp [set])]
    | null | bool | number | list | map => rfl

theorem gradientColors_present (once : (Fields.names fields).Nodup) :
    gradientColors fields.present = gradientColors fields := by
  have list := Value.bind_present list?_of_isNull once "colors"
  simp only [Value.field?] at list
  rw [gradientColors, gradientColors, list]

theorem gradientText_linear (start stop colors : String) : gradientText "linear" start stop colors =
    "LinearGradient(begin: " ++ alignments.read start ++ ", end: " ++ alignments.read stop ++ ", " ++ colors ++ ")" :=
  rfl

theorem gradientText_null (start stop colors : String) :
    gradientText "null" start stop colors = "LinearGradient(" ++ colors ++ ")" :=
  rfl

theorem gradientText_type_ne (start stop other another colors : String) :
    gradientText "linear" start stop colors ≠ gradientText "null" other another (gradientColors fields) := by
  intro same
  have chars := congrArg String.toList same
  simp [gradientText_linear, gradientText_null, gradientColors] at chars

theorem gradientText_begin_ne (stop another colors : String) :
    gradientText "linear" "topLeft" stop colors ≠ gradientText "linear" "null" another colors := by
  have corner : alignments.read "topLeft" = "Alignment.topLeft" := by decide
  have center : alignments.read "null" = "Alignment.center" := by decide
  intro same
  have chars := congrArg String.toList same
  simp [gradientText_linear, corner, center] at chars

theorem gradientText_end_ne (start colors : String) :
    gradientText "linear" start "bottomRight" colors ≠ gradientText "linear" start "null" colors := by
  have corner : alignments.read "bottomRight" = "Alignment.bottomRight" := by decide
  have center : alignments.read "null" = "Alignment.center" := by decide
  intro same
  have chars := congrArg String.toList same
  simp [gradientText_linear, corner, center] at chars

theorem gradientText_ends {type : String} (unlined : type ≠ "linear") (start stop other another colors : String) :
    gradientText type start stop colors = gradientText type other another colors := by
  unfold gradientText
  split
  · rfl
  · exact absurd rfl unlined
  · rfl

theorem gradientOf_present_iff (once : (Fields.names fields).Nodup) :
    gradientOf (.map fields.present) = gradientOf (.map fields) ↔ ¬ IsMisread fields := by
  rw [gradientOf_eq, gradientOf_eq, gradientColors_present once]
  by_cases untyped : SaysNull "type" fields
  · rw [gradientWord_present_of_saysNull once untyped, gradientWord_of_saysNull untyped]
    exact iff_of_false (gradientText_type_ne _ _ _ _ _) fun kept => kept (.inl untyped)
  rw [gradientWord_present once untyped]
  by_cases lined : gradientWord fields "type" "linear" = "linear"
  · rw [lined]
    by_cases start : SaysNull "begin" fields
    · rw [gradientWord_present_of_saysNull once start, gradientWord_of_saysNull start]
      exact iff_of_false (gradientText_begin_ne _ _ _) fun kept => kept (.inr ⟨lined, .inl start⟩)
    rw [gradientWord_present once start]
    by_cases stop : SaysNull "end" fields
    · rw [gradientWord_present_of_saysNull once stop, gradientWord_of_saysNull stop]
      exact iff_of_false (gradientText_end_ne _ _) fun kept => kept (.inr ⟨lined, .inr stop⟩)
    rw [gradientWord_present once stop]
    refine iff_of_true rfl ?_
    rintro (type | ⟨_, first | last⟩)
    · exact untyped type
    · exact start first
    · exact stop last
  · refine iff_of_true (gradientText_ends lined _ _ _ _ _) ?_
    rintro (type | ⟨line, _⟩)
    · exact untyped type
    · exact lined line

/-! ## Properties -/

def ShowsCleared (name : String) (fields : Fields Value) : Prop :=
  (name = "padding" ∨ name = "margin") ∧ IsMisled fields ∧ GivesWidth fields ∨ name = "gradient" ∧ IsMisread fields

theorem propertyOf?_present (once : (Fields.names fields).Nodup) {name : String}
    (other : name ∈ ["decoration", "border", "borderRadius", "boxShadow", "constraints", "transform"]) :
    propertyOf? name (.map fields.present) = propertyOf? name (.map fields) := by
  simp only [List.mem_cons, List.not_mem_nil, or_false] at other
  rcases other with rfl | rfl | rfl | rfl | rfl | rfl
  · exact congrArg some (decorationOf_present once)
  · exact congrArg (fun s => some (Expr.text s)) (borderOf_present once)
  · exact congrArg (fun s => some (Expr.text s)) (borderRadiusOf_present once)
  · exact congrArg some (boxShadowOf_present once)
  · exact congrArg (fun s => some (Expr.text s)) (constraintsOf_present once)
  · exact congrArg (fun s => some (Expr.text s)) (transformOf_present once)

/-- A map under a name for values is written the same without its cleared fields, on every level, exactly if it is not
one of insets that are misled by a cleared field, or of a gradient that misreads one. -/
theorem propertyOf?_present_iff (layout : Layout) (level : Nat) {name : String} (isValue : isValueName name = true)
    {fields : Fields Value} (once : (Fields.names fields).Nodup) :
    (propertyOf? name (.map fields.present)).map (·.render layout level) =
        (propertyOf? name (.map fields)).map (·.render layout level) ↔ ¬ ShowsCleared name fields := by
  have known : name ∈ valueNames := List.contains_iff_mem.mp isValue
  by_cases isInsets : name = "padding" ∨ name = "margin"
  · have text (fields : Fields Value) : (propertyOf? name (.map fields)).map (·.render layout level) =
        some (insetsOf (.map fields)) := by
      rcases isInsets with rfl | rfl <;> rfl
    have noGradient : name ≠ "gradient" := by
      rcases isInsets with rfl | rfl <;> decide
    simp [text, ShowsCleared, insetsOf_present_iff once, isInsets, noGradient]
  by_cases isGradient : name = "gradient"
  · subst isGradient
    have text (fields : Fields Value) : (propertyOf? "gradient" (.map fields)).map (·.render layout level) =
        some (gradientOf (.map fields)) := rfl
    simp [text, ShowsCleared, gradientOf_present_iff once]
  · rw [propertyOf?_present once]
    · simp [ShowsCleared, isInsets, isGradient]
    · simp only [valueNames, List.mem_cons] at known ⊢
      tauto

def openGradient : Fields Value :=
  [("type", .text "linear"), ("begin", .text "null"), ("colors", .null)]

theorem openGradient_present : isValueName "gradient" = true ∧ (Fields.names openGradient).Nodup ∧
    ((propertyOf? "gradient" (.map openGradient.present)).map (·.render ⟨2, .compact⟩ 3) =
        (propertyOf? "gradient" (.map openGradient)).map (·.render ⟨2, .compact⟩ 3) ↔
      ¬ ShowsCleared "gradient" openGradient) :=
  have isValue : isValueName "gradient" = true := by decide
  have once : (Fields.names openGradient).Nodup := by decide
  ⟨isValue, once, propertyOf?_present_iff ⟨2, .compact⟩ 3 isValue once⟩

def leftPadding : Fields Value :=
  [("all", .null), ("left", .number (.ofInt 4))]

theorem leftPadding_lost :
    (propertyOf? "padding" (.map leftPadding)).map (·.render ⟨2, .expanded⟩ 0) = some "EdgeInsets.zero" ∧
      (propertyOf? "padding" (.map leftPadding.present)).map (·.render ⟨2, .expanded⟩ 0) =
        some "const EdgeInsets.fromLTRB(4.0, 0.0, 0.0, 0.0)" := by
  decide +kernel

end Dart

end WidgetSource
