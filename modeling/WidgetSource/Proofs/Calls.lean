import WidgetSource.Dart.Property

namespace WidgetSource.Dart

/-- The expression or a part of it is a call of that name, marked as a constant or not. -/
inductive Expr.HasCall (constant : Bool) (name : String) : Expr → Prop
  | here {positional : Option Expr} {named : List (Label × Expr)} :
      Expr.HasCall constant name (.call constant name positional named)
  | positional {mark : Bool} {other : String} {value : Expr} {named : List (Label × Expr)} :
      Expr.HasCall constant name value → Expr.HasCall constant name (.call mark other (some value) named)
  | named {mark : Bool} {other : String} {positional : Option Expr} {named : List (Label × Expr)}
      {entry : Label × Expr} : entry ∈ named → Expr.HasCall constant name entry.2 →
      Expr.HasCall constant name (.call mark other positional named)
  | item {items : List Expr} {item : Expr} : item ∈ items → Expr.HasCall constant name item →
      Expr.HasCall constant name (.list items)

namespace Expr

theorem hasCall_call_iff {constant mark : Bool} {name other : String} {positional : Option Expr}
    {named : List (Label × Expr)} :
    (call mark other positional named).HasCall constant name ↔ (mark = constant ∧ other = name) ∨
      (∃ value ∈ positional, value.HasCall constant name) ∨ ∃ entry ∈ named, entry.2.HasCall constant name := by
  constructor
  · intro inside
    cases inside with
    | here => exact .inl ⟨rfl, rfl⟩
    | positional inside => exact .inr (.inl ⟨_, rfl, inside⟩)
    | named member inside => exact .inr (.inr ⟨_, member, inside⟩)
  · rintro (⟨rfl, rfl⟩ | ⟨value, rfl, inside⟩ | ⟨entry, member, inside⟩)
    · exact .here
    · exact .positional inside
    · exact .named member inside

def Unmarked (expr : Expr) : Prop :=
  ∀ name, ¬ expr.HasCall true name

theorem text_unmarked (s : String) : (text s).Unmarked := by
  intro name marked
  cases marked

theorem list_unmarked {items : List Expr} (unmarked : ∀ item ∈ items, item.Unmarked) : (list items).Unmarked := by
  intro name marked
  cases marked with
  | item member inside => exact unmarked _ member name inside

theorem ofArgs_unmarked {name : String} {args : List (String × Expr)} (unmarked : ∀ arg ∈ args, arg.2.Unmarked) :
    (ofArgs name args).Unmarked := by
  intro other marked
  cases marked with
  | named member inside =>
    obtain ⟨arg, given, rfl⟩ := List.mem_map.mp member
    exact unmarked arg given other inside

end Expr

open WidgetSource.Dart.Expr (Unmarked text_unmarked list_unmarked ofArgs_unmarked)

theorem given_unmarked {args : List (Option (String × Expr))}
    (unmarked : ∀ arg ∈ args, ∀ field ∈ arg, field.2.Unmarked) : ∀ field ∈ given args, field.2.Unmarked := by
  intro field member
  obtain ⟨arg, inside, found⟩ := List.mem_filterMap.mp member
  exact unmarked arg inside field found

theorem argument?_unmarked (name : String) (value : Option String) :
    ∀ field ∈ argument? name value, field.2.Unmarked := by
  intro field member
  obtain ⟨s, _, rfl⟩ := Option.map_eq_some_iff.mp member
  exact text_unmarked s

theorem boxShadowOf_unmarked (value : Value) : (boxShadowOf value).Unmarked := by
  unfold boxShadowOf
  split
  · exact text_unmarked _
  · exact list_unmarked (List.forall_mem_map.mpr fun shadow _ => text_unmarked _)

theorem decorationOf_unmarked (value : Value) : (decorationOf value).Unmarked := by
  have shadows (given : Option Value) :
      ∀ field ∈ given.map fun value => ("boxShadow", boxShadowOf value), field.2.Unmarked := by
    intro field member
    obtain ⟨value, _, rfl⟩ := Option.map_eq_some_iff.mp member
    exact boxShadowOf_unmarked value
  unfold decorationOf
  generalize (fun name => (value.field? name).filter (·.isTruthy)) = set
  dsimp only
  split
  · exact text_unmarked _
  · refine ofArgs_unmarked (given_unmarked ?_)
    simp only [List.forall_mem_cons]
    exact ⟨argument?_unmarked _ _, argument?_unmarked _ _, argument?_unmarked _ _, shadows (set "boxShadow"),
      argument?_unmarked _ _, fun _ none => absurd none List.not_mem_nil⟩

theorem styleArgs_unmarked (properties : Fields Value) : ∀ field ∈ styleArgs properties, field.2.Unmarked := by
  unfold styleArgs
  generalize styleField properties = field
  refine given_unmarked fun arg member => ?_
  simp only [List.mem_cons, List.not_mem_nil, or_false] at member
  rcases member with rfl | rfl | rfl | rfl | rfl | rfl | rfl | rfl | rfl | rfl <;> exact argument?_unmarked _ _

theorem textStyleOf?_unmarked {properties : Fields Value} {expr : Expr} (found : textStyleOf? properties = some expr) :
    expr.Unmarked := by
  have args := styleArgs_unmarked properties
  unfold textStyleOf? at found
  generalize styleArgs properties = fields at args found
  cases fields with
  | nil => cases found
  | cons field fields =>
    cases found
    exact ofArgs_unmarked args

theorem propertyOf?_unmarked {name : String} {value : Value} {expr : Expr}
    (found : propertyOf? name value = some expr) : expr.Unmarked := by
  have text {written : Option String} (same : written.map .text = some expr) : expr.Unmarked := by
    obtain ⟨s, _, rfl⟩ := Option.map_eq_some_iff.mp same
    exact text_unmarked s
  unfold propertyOf? at found
  split at found
  · cases found
  · split at found
    case h_10 | h_11 => exact text found
    case h_12 => split at found <;> exact text found
    all_goals cases found
    case h_3 => exact decorationOf_unmarked _
    case h_6 => exact boxShadowOf_unmarked _
    all_goals exact text_unmarked _

end WidgetSource.Dart
