import WidgetSource.Proofs.ClearedFields
import WidgetSource.Proofs.Numerals
import WidgetSource.Proofs.Occurrences

/-!
# Insets read back

A reader of literals of insets, which finds the widths on the four sides. Main statement: the literal that is written for
a value stands for the sides that the value gives, and it depends on nothing else.
-/
namespace WidgetSource

namespace Double

def Agrees (x y : Double) : Prop :=
  x.same y = true ∨ x = .nan ∧ y = .nan

variable {x y z : Double}

theorem same_self_iff : x.same x = true ↔ x ≠ .nan := by
  rw [Dart.same_iff]
  cases x <;> simp [place?]

theorem Agrees.refl (x : Double) : x.Agrees x := by
  by_cases isNan : x = .nan
  · exact .inr ⟨isNan, isNan⟩
  · exact .inl (same_self_iff.mpr isNan)

theorem same_comm : x.same y = y.same x := by
  rw [Bool.eq_iff_iff, Dart.same_iff, Dart.same_iff]
  simp only [and_comm]

theorem same_trans (first : x.same y = true) (second : y.same z = true) : x.same z = true := by
  obtain ⟨i, left, middle⟩ := Dart.same_iff.mp first
  obtain ⟨j, middle', right⟩ := Dart.same_iff.mp second
  rw [middle] at middle'
  cases middle'
  exact Dart.same_iff.mpr ⟨i, left, right⟩

theorem Agrees.trans (first : x.Agrees y) (second : y.Agrees z) : x.Agrees z := by
  rcases first with same | ⟨rfl, rfl⟩
  · rcases second with next | ⟨rfl, rfl⟩
    · exact .inl (same_trans same next)
    · obtain ⟨_, _, noPlace⟩ := Dart.same_iff.mp same
      cases noPlace
  · exact second

end Double

namespace Dart

structure Sides where
  left : Double
  top : Double
  right : Double
  bottom : Double
  deriving DecidableEq

namespace Sides

def uniform (all : Double) : Sides :=
  ⟨all, all, all, all⟩

def directed (horizontal vertical : Double) : Sides :=
  ⟨horizontal, vertical, horizontal, vertical⟩

structure Agree (sides others : Sides) : Prop where
  left : sides.left.Agrees others.left
  top : sides.top.Agrees others.top
  right : sides.right.Agrees others.right
  bottom : sides.bottom.Agrees others.bottom

theorem Agree.trans {sides others more : Sides} (first : sides.Agree others) (second : others.Agree more) :
    sides.Agree more :=
  ⟨first.left.trans second.left, first.top.trans second.top, first.right.trans second.right,
    first.bottom.trans second.bottom⟩

theorem Agree.refl (sides : Sides) : sides.Agree sides :=
  ⟨.refl _, .refl _, .refl _, .refl _⟩

def Numeric (sides : Sides) : Prop :=
  ∀ x ∈ [sides.left, sides.top, sides.right, sides.bottom], x ≠ .nan

instance (sides : Sides) : Decidable sides.Numeric :=
  inferInstanceAs (Decidable (∀ x ∈ [sides.left, sides.top, sides.right, sides.bottom], x ≠ .nan))

end Sides

/-- The doubles in a text that consists of these marks with a literal between every two of them. -/
def readBetween? : List String → List Char → Option (List Double)
  | [], _ => none
  | [last], cs => if cs = last.toList then some [] else none
  | mark :: marks, cs => do
    let (x, rest) ← readDouble? (← Text.afterPrefix? mark.toList cs)
    return x :: (← readBetween? marks rest)

def uniformMarks : List String := ["const EdgeInsets.all(", ")"]

def directedMarks : List String := ["const EdgeInsets.symmetric(horizontal: ", ", vertical: ", ")"]

def sidedMarks : List String := ["const EdgeInsets.fromLTRB(", ", ", ", ", ", ", ")"]

def readInsets? (cs : List Char) : Option Sides :=
  if cs = zeroInsets.toList then some (.uniform .zero)
  else
    match readBetween? uniformMarks cs, readBetween? directedMarks cs, readBetween? sidedMarks cs with
    | some [all], _, _ => some (.uniform all)
    | none, some [horizontal, vertical], _ => some (.directed horizontal vertical)
    | none, none, some [left, top, right, bottom] => some ⟨left, top, right, bottom⟩
    | _, _, _ => none

/-- The sides that a value gives: a number or the width under `all` for every side; else the sides by their names, where
one of them is there; else the directions, where one of them is there. -/
def givenSides : Value → Sides
  | .map fields =>
    match Fields.get? "all" fields with
    | some all => .uniform ((numberOf? all).getD .zero)
    | none =>
      let side := insetSide fields
      if sideNames.any (Fields.has · fields) then ⟨side "left", side "top", side "right", side "bottom"⟩
      else if directionNames.any (Fields.has · fields) then .directed (side "horizontal") (side "vertical")
      else .uniform .zero
  | value => .uniform ((numberOf? value).getD .zero)

def between : List String → List Double → List Char
  | [], _ => []
  | mark :: _, [] => mark.toList
  | mark :: marks, x :: xs => mark.toList ++ (doubleLiteral x).toList ++ between marks xs

def endsLiteral (mark : String) : Bool :=
  mark.toList.head?.any fun c => !isDoubleChar c

theorem between_ends {mark : String} {marks : List String} (ends : endsLiteral mark = true) (xs : List Double) :
    ∀ c ∈ (between (mark :: marks) xs).head?, isDoubleChar c = false := by
  unfold endsLiteral at ends
  cases chars : mark.toList with
  | nil => simp [chars] at ends
  | cons c rest =>
    have noDouble : isDoubleChar c = false := by simpa [chars] using ends
    cases xs <;> simp [between, chars, noDouble]

theorem readBetween?_between {marks : List String} {xs : List Double} (count : marks.length = xs.length + 1)
    (ends : ∀ mark ∈ marks.tail, endsLiteral mark = true) : readBetween? marks (between marks xs) = some xs := by
  induction marks generalizing xs with
  | nil => cases count
  | cons mark marks ih =>
    cases xs with
    | nil =>
      obtain rfl : marks = [] := by simpa using count
      simp [readBetween?, between]
    | cons x xs =>
      obtain ⟨next, others, rfl⟩ := List.exists_cons_of_length_pos (l := marks) (by simp at count; omega)
      have rest : readBetween? (next :: others) (between (next :: others) xs) = some xs :=
        ih (by simpa using count) fun other member => ends other (List.mem_cons_of_mem _ member)
      have ended : ∀ c ∈ (between (next :: others) xs).head?, isDoubleChar c = false :=
        between_ends (ends next List.mem_cons_self) xs
      have double := readDouble?_doubleLiteral x ended
      rw [between, List.append_assoc, readBetween?, Text.afterPrefix?_append]
      · simp only [Option.bind_eq_bind, Option.bind_some, double, rest]
        rfl
      · simp

theorem readBetween?_of_other {mark next : String} {marks : List String} {cs : List Char}
    (other : mark.toList.isPrefixOf cs = false) : readBetween? (mark :: next :: marks) cs = none := by
  simp [readBetween?, Text.afterPrefix?, other]

theorem marks_end : ∀ marks ∈ [uniformMarks, directedMarks, sidedMarks], ∀ mark ∈ marks.tail, endsLiteral mark = true := by
  decide

theorem readInsets?_uniform (x : Double) : readInsets? (between uniformMarks [x]) = some (.uniform x) := by
  have read : readBetween? uniformMarks (between uniformMarks [x]) = some [x] :=
    readBetween?_between rfl (marks_end _ (by simp))
  have notZero : between uniformMarks [x] ≠ zeroInsets.toList := by
    simp [between, uniformMarks, zeroInsets]
  simp only [readInsets?, if_neg notZero, read]

theorem readInsets?_directed (horizontal vertical : Double) :
    readInsets? (between directedMarks [horizontal, vertical]) = some (.directed horizontal vertical) := by
  have read : readBetween? directedMarks (between directedMarks [horizontal, vertical]) = some [horizontal, vertical] :=
    readBetween?_between rfl (marks_end _ (by simp))
  have notZero : between directedMarks [horizontal, vertical] ≠ zeroInsets.toList := by
    simp [between, directedMarks, zeroInsets]
  have notUniform : readBetween? uniformMarks (between directedMarks [horizontal, vertical]) = none :=
    readBetween?_of_other (by simp [between, directedMarks, List.isPrefixOf])
  simp only [readInsets?, if_neg notZero, notUniform, read]

theorem readInsets?_sided (left top right bottom : Double) :
    readInsets? (between sidedMarks [left, top, right, bottom]) = some ⟨left, top, right, bottom⟩ := by
  have read : readBetween? sidedMarks (between sidedMarks [left, top, right, bottom]) =
      some [left, top, right, bottom] :=
    readBetween?_between rfl (marks_end _ (by simp))
  have notZero : between sidedMarks [left, top, right, bottom] ≠ zeroInsets.toList := by
    simp [between, sidedMarks, zeroInsets]
  have notUniform : readBetween? uniformMarks (between sidedMarks [left, top, right, bottom]) = none :=
    readBetween?_of_other (by simp [between, sidedMarks, List.isPrefixOf])
  have notDirected : readBetween? directedMarks (between sidedMarks [left, top, right, bottom]) = none :=
    readBetween?_of_other (by simp [between, sidedMarks, List.isPrefixOf])
  simp only [readInsets?, if_neg notZero, notUniform, notDirected, read]

/-- What a text stands for as insets, up to equality of numbers. -/
def StandsFor (text : String) (sides : Sides) : Prop :=
  ∃ read, readInsets? text.toList = some read ∧ read.Agree sides

theorem StandsFor.of_agree {text : String} {sides others : Sides} (stands : StandsFor text sides)
    (agree : sides.Agree others) : StandsFor text others := by
  obtain ⟨read, found, same⟩ := stands
  exact ⟨read, found, same.trans agree⟩

theorem StandsFor.of_between {text : String} {marks : List String} {xs : List Double} {sides : Sides}
    (shape : text.toList = between marks xs) (read : readInsets? (between marks xs) = some sides) : StandsFor text sides :=
  ⟨sides, by rw [shape, read], .refl sides⟩

theorem uniformInsets_standsFor (x : Double) : StandsFor (uniformInsets x) (.uniform x) := by
  unfold uniformInsets
  split
  · rename_i zero
    have agrees : Double.zero.Agrees x := .inl (Double.same_comm.trans zero)
    exact ⟨.uniform .zero, by simp [readInsets?], ⟨agrees, agrees, agrees, agrees⟩⟩
  · exact .of_between (by simp [between, uniformMarks]) (readInsets?_uniform x)

theorem sidedInsets_standsFor (left top right bottom : Double) :
    StandsFor (sidedInsets left top right bottom) ⟨left, top, right, bottom⟩ := by
  unfold sidedInsets
  split
  · rename_i equal
    simp only [Bool.and_eq_true] at equal
    obtain ⟨⟨toTop, toRight⟩, toBottom⟩ := equal
    refine (uniformInsets_standsFor left).of_agree ⟨.refl left, .inl toTop, .inl ?_, .inl ?_⟩
    · exact Double.same_trans toTop toRight
    · exact Double.same_trans (Double.same_trans toTop toRight) toBottom
  · split
    · rename_i directed
      rw [Bool.and_eq_true] at directed
      refine (StandsFor.of_between ?_ (readInsets?_directed left top)).of_agree
        ⟨.refl left, .refl top, .inl directed.1, .inl directed.2⟩
      simp [between, directedMarks]
    · refine .of_between ?_ (readInsets?_sided left top right bottom)
      simp [between, sidedMarks]

theorem insetsOrZero_standsFor (value : Value) :
    StandsFor (insetsOrZero value) (.uniform ((numberOf? value).getD .zero)) := by
  unfold insetsOrZero
  cases numberOf? value with
  | none => exact ⟨.uniform .zero, by simp [readInsets?], .refl _⟩
  | some x => exact uniformInsets_standsFor x

theorem givenSides_map (fields : Fields Value) (noAll : Fields.get? "all" fields = none) :
    givenSides (.map fields) =
      if sideNames.any (Fields.has · fields) then
        ⟨insetSide fields "left", insetSide fields "top", insetSide fields "right", insetSide fields "bottom"⟩
      else .directed (insetSide fields "horizontal") (insetSide fields "vertical") := by
  simp only [givenSides, noAll]
  split
  · rfl
  · split
    · rfl
    · -- Without directions their widths are zero.
      rename_i undirected
      have zero (name : String) (member : name ∈ directionNames) : insetSide fields name = .zero := by
        have missing : Fields.get? name fields = none := by
          simp only [List.any_eq_true, not_exists, not_and, Fields.has, Bool.not_eq_true,
            Option.isSome_eq_false_iff, Option.isNone_iff_eq_none] at undirected
          exact undirected name member
        rw [insetSide, missing, Option.bind_none, Option.getD_none]
      rw [zero "horizontal" (by simp [directionNames]), zero "vertical" (by simp [directionNames])]
      rfl

theorem insetsOf_standsFor (value : Value) : StandsFor (insetsOf value) (givenSides value) := by
  cases value with
  | map fields =>
    cases all : Fields.get? "all" fields with
    | some width =>
      simp only [insetsOf, givenSides, all]
      exact insetsOrZero_standsFor width
    | none =>
      rw [insetsOf_eq_sided all, givenSides_map fields all]
      split <;> exact sidedInsets_standsFor _ _ _ _
  | null | bool | number | text | list => exact insetsOrZero_standsFor _

def Sides.literal (sides : Sides) : String :=
  sidedInsets sides.left sides.top sides.right sides.bottom

theorem uniformInsets_eq_literal {x : Double} (number : x ≠ .nan) : uniformInsets x = (Sides.uniform x).literal := by
  have self := Double.same_self_iff.mpr number
  simp [Sides.literal, Sides.uniform, sidedInsets, self]

theorem insetsOrZero_eq_literal (value : Value) (numeric : (Sides.uniform ((numberOf? value).getD .zero)).Numeric) :
    insetsOrZero value = (Sides.uniform ((numberOf? value).getD .zero)).literal := by
  have number : (numberOf? value).getD .zero ≠ .nan := numeric _ List.mem_cons_self
  rw [← uniformInsets_eq_literal number, insetsOrZero]
  cases numberOf? value with
  | none => exact (uniformInsets_eq_zero_iff.mpr (by decide)).symm
  | some x => rfl

theorem insetsOf_eq_literal (value : Value) (numeric : (givenSides value).Numeric) :
    insetsOf value = (givenSides value).literal := by
  cases value with
  | map fields =>
    cases all : Fields.get? "all" fields with
    | some width =>
      simp only [insetsOf, givenSides, all] at numeric ⊢
      exact insetsOrZero_eq_literal width numeric
    | none =>
      rw [insetsOf_eq_sided all, givenSides_map fields all]
      split <;> rfl
  | null | bool | number | text | list =>
    simp only [insetsOf, givenSides] at numeric ⊢
    exact insetsOrZero_eq_literal _ numeric

/-- The literal of insets is read back as the sides that the value gives, and two values that give the same sides, all
of them numbers, have the same literal. -/
theorem insetsOf_denotes (value : Value) :
    (∃ sides, readInsets? (insetsOf value).toList = some sides ∧ sides.Agree (givenSides value)) ∧
      ∀ other, givenSides other = givenSides value → (givenSides value).Numeric → insetsOf other = insetsOf value := by
  refine ⟨insetsOf_standsFor value, fun other same numeric => ?_⟩
  rw [insetsOf_eq_literal value numeric, insetsOf_eq_literal other (same ▸ numeric), same]

def evenPadding : Value :=
  .map [("horizontal", .text " 8.0"), ("vertical", .number (.ofInt 8))]

theorem evenPadding_shared : givenSides evenPadding = givenSides (.number (.ofInt 8)) ∧
    (givenSides (.number (.ofInt 8))).Numeric ∧ insetsOf evenPadding = insetsOf (.number (.ofInt 8)) :=
  have same : givenSides evenPadding = givenSides (.number (.ofInt 8)) := by decide
  have numeric : (givenSides (.number (.ofInt 8))).Numeric := by decide
  ⟨same, numeric, (insetsOf_denotes (.number (.ofInt 8))).2 evenPadding same numeric⟩

end Dart

end WidgetSource
