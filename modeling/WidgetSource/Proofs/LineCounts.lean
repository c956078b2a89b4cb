import WidgetSource.Dart.Expr
import Mathlib.Algebra.Ring.Nat
import Mathlib.Data.List.Forall2

namespace WidgetSource.Dart

def breaks (s : String) : Nat :=
  s.toList.count '\n'

theorem breaks_append (s t : String) : breaks (s ++ t) = breaks s + breaks t := by
  rw [breaks, String.toList_append, List.count_append, breaks, breaks]

theorem breaks_spaces (n : Nat) : breaks (spaces n) = 0 := by
  simp [breaks, spaces, List.count_replicate]

theorem isOneLine_iff {s : String} : isOneLine s = true ↔ breaks s = 0 := by
  simp [isOneLine, breaks, List.count_eq_zero]

/-- As many parts, and none of them with more breaks. -/
abbrev NoLonger (parts others : List String) : Prop :=
  List.Forall₂ (fun part other => breaks part ≤ breaks other) parts others

theorem NoLonger.sum {parts others : List String} (noLonger : NoLonger parts others) :
    (parts.map breaks).sum ≤ (others.map breaks).sum := by
  induction noLonger with
  | nil => exact Nat.le_refl _
  | cons first _ ih =>
    simp only [List.map_cons, List.sum_cons]
    omega

theorem NoLonger.isEmpty_eq {parts others : List String} (noLonger : NoLonger parts others) :
    parts.isEmpty = others.isEmpty := by
  cases noLonger <;> rfl

theorem breaks_intercalate (separator : String) (part : String) (parts : List String) :
    breaks (separator.intercalate (part :: parts)) =
      ((part :: parts).map breaks).sum + parts.length * breaks separator := by
  induction parts generalizing part with
  | nil => simp
  | cons next parts ih =>
    simp only [String.intercalate_cons_cons, breaks_append, ih, List.map_cons, List.sum_cons, List.length_cons,
      Nat.succ_mul]
    omega

theorem Layout.breaks_enclose (layout : Layout) (level : Nat) (inline : Bool) (opening closing : String)
    (parts : List String) :
    breaks (layout.enclose level inline opening closing parts) =
      breaks opening + (parts.map breaks).sum + breaks closing + if inline then 0 else parts.length + 1 := by
  cases inline with
  | true =>
    cases parts with
    | nil => simp [enclose, breaks]
    | cons part parts =>
      have comma : breaks ", " = 0 := by decide
      simp [enclose, breaks_append, breaks_intercalate, comma, Nat.add_assoc]
  | false =>
    have line : breaks "\n" = 1 := by decide
    have comma : breaks "," = 0 := by decide
    have lines : (parts.map fun part => breaks (layout.pad (level + 1) ++ part ++ ",")) = parts.map breaks := by
      refine List.map_congr_left fun part _ => ?_
      simp [breaks_append, pad, breaks_spaces, comma]
    simp only [enclose, Bool.false_eq_true, if_false, List.cons_append, breaks_intercalate, line, List.map_cons,
      List.map_append, List.map_map, Function.comp_def, lines]
    simp [breaks_append, pad, breaks_spaces]
    omega

theorem Layout.enclose_noLonger (layout other : Layout) (level otherLevel : Nat) {inline otherInline : Bool}
    (opening closing : String) {parts others : List String} (noLonger : NoLonger parts others)
    (joined : otherInline = true → inline = true) :
    breaks (layout.enclose level inline opening closing parts) ≤
      breaks (other.enclose otherLevel otherInline opening closing others) := by
  have sums := noLonger.sum
  have lengths := noLonger.length_eq
  rw [breaks_enclose, breaks_enclose]
  cases otherInline with
  | true =>
    rw [joined rfl]
    simp only [if_true]
    omega
  | false =>
    cases inline <;> simp <;> omega

theorem NoLonger.oneLine {parts others : List String} (noLonger : NoLonger parts others)
    (oneLine : others.all isOneLine = true) : parts.all isOneLine = true := by
  induction noLonger with
  | nil => rfl
  | cons first _ ih =>
    simp only [List.all_cons, Bool.and_eq_true, isOneLine_iff] at oneLine ⊢
    exact ⟨by omega, ih oneLine.2⟩

theorem Label.write_noLonger (label : Label) {value otherValue : String} (noLonger : breaks value ≤ breaks otherValue) :
    breaks (label.write value) ≤ breaks (label.write otherValue) := by
  cases label with
  | named name =>
    simp only [write, breaks_append]
    omega
  | spelled name => exact noLonger

section

variable {layout other : Layout} (compact : layout.format = .compact) (expanded : other.format = .expanded)
include compact expanded

theorem Layout.call_noLonger (level otherLevel : Nat) (name : String) {positional otherPositional : Option String}
    {named otherNamed : List String}
    (noLonger : NoLonger (positional.toList ++ named) (otherPositional.toList ++ otherNamed)) :
    breaks (layout.call name positional named level) ≤ breaks (other.call name otherPositional otherNamed otherLevel) := by
  have empties := noLonger.isEmpty_eq
  cases empty : (otherPositional.toList ++ otherNamed).isEmpty with
  | true =>
    rw [empty] at empties
    simp [call, empty, empties]
  | false =>
    rw [empty] at empties
    simp only [call, empty, empties, Bool.false_eq_true, if_false, compact, expanded]
    refine layout.enclose_noLonger other level otherLevel _ _ noLonger fun joined => ?_
    -- The expanded call has no named arguments, hence at most one argument.
    obtain ⟨oneLine, noNames⟩ := Bool.and_eq_true_iff.mp joined
    have single : (otherPositional.toList ++ otherNamed).length ≤ 1 := by
      rw [List.isEmpty_iff.mp noNames]
      cases otherPositional <;> simp
    refine Bool.and_eq_true_iff.mpr ⟨noLonger.oneLine oneLine, decide_eq_true ?_⟩
    rw [noLonger.length_eq]
    exact Nat.le_trans single (by decide)

omit compact in
theorem Layout.list_noLonger (level otherLevel : Nat) {items others : List String} (noLonger : NoLonger items others) :
    breaks (layout.list none items level) ≤ breaks (other.list none others otherLevel) := by
  cases noLonger with
  | nil => simp [list]
  | @cons item other' items others first rest =>
    simp only [list, List.isEmpty_cons, Bool.false_eq_true, if_false]
    refine layout.enclose_noLonger other level otherLevel _ _ (.cons first rest) fun joined => ?_
    simp [expanded] at joined

end

namespace Expr

variable {layout other : Layout}

mutual

theorem render_noLonger (compact : layout.format = .compact) (expanded : other.format = .expanded)
    (level otherLevel : Nat) : ∀ expr : Expr,
    breaks (expr.render layout level) ≤ breaks (expr.render other otherLevel)
  | .text _ => Nat.le_refl _
  | .call constant name positional named => by
    have args := List.rel_append (renderPositional_noLonger compact expanded (level + 1) (otherLevel + 1) positional)
      (renderNamed_noLonger compact expanded (level + 1) (otherLevel + 1) named)
    have call := Layout.call_noLonger compact expanded level otherLevel name args
    simp only [render, breaks_append]
    omega
  | .list items => Layout.list_noLonger expanded level otherLevel
      (renderItems_noLonger compact expanded (level + 1) (otherLevel + 1) items)

theorem renderPositional_noLonger (compact : layout.format = .compact) (expanded : other.format = .expanded)
    (level otherLevel : Nat) : ∀ positional : Option Expr,
    NoLonger (renderPositional layout level positional).toList (renderPositional other otherLevel positional).toList
  | none => .nil
  | some value => .cons (render_noLonger compact expanded level otherLevel value) .nil

theorem renderNamed_noLonger (compact : layout.format = .compact) (expanded : other.format = .expanded)
    (level otherLevel : Nat) : ∀ named : List (Label × Expr),
    NoLonger (renderNamed layout level named) (renderNamed other otherLevel named)
  | [] => .nil
  | (label, value) :: named => .cons (label.write_noLonger (render_noLonger compact expanded level otherLevel value))
      (renderNamed_noLonger compact expanded level otherLevel named)

theorem renderItems_noLonger (compact : layout.format = .compact) (expanded : other.format = .expanded)
    (level otherLevel : Nat) : ∀ items : List Expr,
    NoLonger (renderItems layout level items) (renderItems other otherLevel items)
  | [] => .nil
  | item :: items => .cons (render_noLonger compact expanded level otherLevel item)
      (renderItems_noLonger compact expanded level otherLevel items)

end

end Expr

end WidgetSource.Dart
