import WidgetSource.Text.Search
import Mathlib.Data.List.Basic

/-!
# A pattern that occurs once

The pieces around the occurrences of a pattern are the text again when the pattern is put between them. A pattern of
which no end is also a beginning does not overlap itself, so when it is found once there is one place where it stands.
-/
namespace WidgetSource.Text

variable {pattern text before after : List Char}

theorem splitFrom_ne_nil (pattern : List Char) (skip : Nat) (text : List Char) : splitFrom pattern skip text ≠ [] := by
  fun_induction splitFrom pattern skip text <;> simp_all

theorem splitFrom_length_append (pattern skipped text : List Char) :
    splitFrom pattern skipped.length (skipped ++ text) = splitFrom pattern 0 text := by
  induction skipped with
  | nil => rfl
  | cons c skipped ih => exact ih

theorem intercalate_splitFrom (nonempty : pattern ≠ []) (skip : Nat) (text : List Char) :
    pattern.intercalate (splitFrom pattern skip text) = text.drop skip := by
  fun_induction splitFrom pattern skip text with
  | case1 => simp
  | case2 skip c rest ih => exact ih
  | case3 c rest found ih =>
    obtain ⟨after, same⟩ := List.isPrefixOf_iff_prefix.mp found
    obtain ⟨first, others, rfl⟩ := List.exists_cons_of_ne_nil nonempty
    obtain ⟨rfl, rfl⟩ : first = c ∧ others ++ after = rest := by simpa using same
    rw [List.intercalate_cons_of_ne_nil (splitFrom_ne_nil _ _ _), ih]
    simp
  | case4 c rest absent none ih => exact absurd none (splitFrom_ne_nil _ _ _)
  | case5 c rest absent piece pieces found ih =>
    rw [found] at ih
    cases pieces <;> simp_all [List.intercalate]

theorem eq_of_splitAround_eq (nonempty : pattern ≠ []) (split : splitAround pattern text = [before, after]) :
    text = before ++ pattern ++ after := by
  have whole := intercalate_splitFrom nonempty 0 text
  rw [← splitAround, split] at whole
  simpa [List.intercalate] using whole.symm

theorem replaceAll_of_splitAround_eq (split : splitAround pattern text = [before, after]) (replacement : List Char) :
    replaceAll pattern replacement text = before ++ replacement ++ after := by
  simp [replaceAll, split, List.intercalate]

theorem exists_splitAround_eq (once : occurrences pattern text = 1) :
    ∃ before after, splitAround pattern text = [before, after] := by
  match found : splitAround pattern text with
  | [before, after] => exact ⟨before, after, rfl⟩
  | [] | [_] | _ :: _ :: _ :: _ => simp [occurrences, found] at once

theorem afterPrefix?_append (start rest : List Char) : afterPrefix? start (start ++ rest) = some rest := by
  rw [afterPrefix?, if_pos (List.isPrefixOf_iff_prefix.mpr (List.prefix_append start rest)), List.drop_left]

/-- No end of the pattern is a beginning of it, apart from the whole. -/
def Unbordered (pattern : List Char) : Prop :=
  ∀ k < pattern.length, 0 < k → ¬ pattern.drop k <+: pattern

instance (pattern : List Char) : Decidable (Unbordered pattern) :=
  inferInstanceAs (Decidable (∀ k < pattern.length, 0 < k → ¬ pattern.drop k <+: pattern))

theorem Unbordered.length_le {first : Char} (unbordered : Unbordered pattern)
    (found : pattern <+: first :: before ++ pattern ++ after) : pattern.length ≤ (first :: before).length := by
  by_contra short
  rw [Nat.not_le] at short
  apply unbordered _ short (Nat.succ_pos _)
  have ending : pattern.drop (first :: before).length <+: pattern ++ after := by
    obtain ⟨rest, same⟩ := found
    have dropped := congrArg (List.drop (first :: before).length) same
    rw [List.drop_append_of_le_length (Nat.le_of_lt short), List.append_assoc, List.drop_left] at dropped
    exact ⟨rest, dropped⟩
  exact List.prefix_of_prefix_length_le ending (List.prefix_append _ _) (by simp)

theorem splitFrom_pattern_append (nonempty : pattern ≠ []) (after : List Char) :
    splitFrom pattern 0 (pattern ++ after) = [] :: splitFrom pattern 0 after := by
  obtain ⟨c, rest, rfl⟩ := List.exists_cons_of_ne_nil nonempty
  have found : (c :: rest).isPrefixOf (c :: (rest ++ after)) = true :=
    List.isPrefixOf_iff_prefix.mpr (List.prefix_append (c :: rest) after)
  rw [List.cons_append, splitFrom, if_pos found, List.length_cons, Nat.add_sub_cancel, splitFrom_length_append]

theorem two_le_length_splitFrom (nonempty : pattern ≠ []) (before after : List Char) :
    2 ≤ (splitFrom pattern 0 (before ++ pattern ++ after)).length := by
  have pieces (skip : Nat) (text : List Char) : 1 ≤ (splitFrom pattern skip text).length :=
    List.length_pos_iff.mpr (splitFrom_ne_nil pattern skip text)
  induction before with
  | nil =>
    rw [List.nil_append, splitFrom_pattern_append nonempty, List.length_cons]
    exact Nat.succ_le_succ (pieces _ _)
  | cons c before ih =>
    simp only [List.cons_append, splitFrom]
    split
    · exact Nat.succ_le_succ (pieces _ _)
    · split
      · rename_i none
        exact absurd none (splitFrom_ne_nil _ _ _)
      · rename_i found
        rwa [found] at ih

theorem splitAround_append {first second : List Char} (nonempty : pattern ≠ []) (unbordered : Unbordered pattern)
    (once : splitAround pattern (before ++ pattern ++ after) = [first, second]) :
    before = first ∧ after = second := by
  rw [splitAround] at once
  induction before generalizing first with
  | nil =>
    rw [List.nil_append, splitFrom_pattern_append nonempty] at once
    obtain ⟨rfl, rest⟩ : [] = first ∧ splitFrom pattern 0 after = [second] := by simpa using once
    have whole := intercalate_splitFrom nonempty 0 after
    rw [rest] at whole
    exact ⟨rfl, by simpa [List.intercalate] using whole.symm⟩
  | cons c before ih =>
    simp only [List.cons_append, splitFrom] at once
    split at once
    · -- An occurrence that begins earlier lies before this one, so there would be two.
      rename_i found
      have room := unbordered.length_le (List.isPrefixOf_iff_prefix.mp found)
      have twice := two_le_length_splitFrom nonempty (before.drop (pattern.length - 1)) after
      have skipped := splitFrom_length_append pattern (before.take (pattern.length - 1))
        (before.drop (pattern.length - 1) ++ pattern ++ after)
      have length : (before.take (pattern.length - 1)).length = pattern.length - 1 := by
        simp only [List.length_cons] at room
        simp
        omega
      rw [length, ← List.append_assoc, ← List.append_assoc, List.take_append_drop, (List.cons.inj once).2] at skipped
      rw [← skipped] at twice
      simp at twice
    · split at once
      · rename_i none
        exact absurd none (splitFrom_ne_nil _ _ _)
      · rename_i piece pieces found
        obtain ⟨rfl, rfl⟩ := List.cons.inj once
        obtain ⟨rfl, rfl⟩ := ih found
        exact ⟨rfl, rfl⟩

end WidgetSource.Text
