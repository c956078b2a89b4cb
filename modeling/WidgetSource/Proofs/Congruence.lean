import WidgetSource.Proofs.Indentation

/-!
# Layout keeps relations of texts

Two lists of arguments that are related one by one are laid out as related texts, perhaps some levels apart, whatever
the relation is, as long as it holds between texts put together and does not tell where the lines break.
-/
namespace WidgetSource.Dart

/-- A relation of texts that layout keeps if the second text stands some levels deeper. -/
structure Layout.Keeps (layout : Layout) (deeper : Nat) (R : List Char → List Char → Prop) : Prop where
  line {cs : List Char} : '\n' ∉ cs → R cs cs
  append {cs ds more others : List Char} : R cs ds → R more others → R (cs ++ more) (ds ++ others)
  pad (level : Nat) : R ('\n' :: List.replicate (layout.indent * level) ' ')
    ('\n' :: List.replicate (layout.indent * (level + deeper)) ' ')
  breaks {cs ds : List Char} : R cs ds → ('\n' ∈ cs ↔ '\n' ∈ ds)

abbrev Related (R : List Char → List Char → Prop) : List String → List String → Prop :=
  List.Forall₂ fun s t => R s.toList t.toList

theorem Related.isEmpty_eq {R : List Char → List Char → Prop} {parts others : List String}
    (related : Related R parts others) : others.isEmpty = parts.isEmpty := by
  cases related <;> rfl

namespace Layout.Keeps

variable {layout : Layout} {deeper : Nat} {R : List Char → List Char → Prop} (keeps : layout.Keeps deeper R)
  {parts others : List String}
include keeps

theorem oneLine_eq (related : Related R parts others) : parts.all isOneLine = others.all isOneLine := by
  induction related with
  | nil => rfl
  | @cons part other _ _ first _ ih =>
    have same : isOneLine part = isOneLine other := by
      rw [Bool.eq_iff_iff]
      simp [isOneLine, keeps.breaks first]
    rw [List.all_cons, List.all_cons, same, ih]

theorem intercalate {separator : String} (same : R separator.toList separator.toList)
    (related : Related R parts others) :
    R (separator.intercalate parts).toList (separator.intercalate others).toList := by
  induction related with
  | nil => exact keeps.line List.not_mem_nil
  | cons first rest ih =>
    cases rest with
    | nil => simpa using first
    | cons next rest =>
      rw [String.intercalate_cons_cons, String.intercalate_cons_cons]
      simpa using keeps.append first (keeps.append same ih)

theorem lines (related : Related R parts others) (level : Nat) :
    R (parts.flatMap fun part => '\n' :: (List.replicate (layout.indent * level) ' ' ++ (part.toList ++ [','])))
      (others.flatMap fun other =>
        '\n' :: (List.replicate (layout.indent * (level + deeper)) ' ' ++ (other.toList ++ [',']))) := by
  have comma : R [','] [','] := keeps.line (by decide)
  induction related with
  | nil => exact keeps.line List.not_mem_nil
  | cons first _ ih =>
    rw [List.flatMap_cons, List.flatMap_cons]
    exact keeps.append (keeps.append (keeps.pad level) (keeps.append first comma)) ih

theorem enclose (related : Related R parts others) (level : Nat) (inline : Bool) {opening other : String} {close : Char}
    (opens : R opening.toList other.toList) (closes : close ≠ '\n') :
    R (layout.enclose level inline opening (String.singleton close) parts).toList
      (layout.enclose (level + deeper) inline other (String.singleton close) others).toList := by
  have closing : R [close] [close] := keeps.line (by simpa using closes.symm)
  cases inline with
  | true =>
    have joined := keeps.intercalate (keeps.line (by decide : '\n' ∉ ", ".toList)) related
    rw [enclose_joined, enclose_joined]
    exact keeps.append opens (keeps.append joined closing)
  | false =>
    have lines := keeps.lines related (level + 1)
    rw [Nat.add_right_comm] at lines
    rw [enclose_lines, enclose_lines]
    exact keeps.append opens (keeps.append lines (keeps.append (keeps.pad level) closing))

theorem call {name other : String} {positional otherPositional : Option String} {named otherNamed : List String}
    (names : R name.toList other.toList) (first : Related R positional.toList otherPositional.toList)
    (more : Related R named otherNamed) (level : Nat) :
    R (layout.call name positional named level).toList
      (layout.call other otherPositional otherNamed (level + deeper)).toList := by
  have related : Related R (positional.toList ++ named) (otherPositional.toList ++ otherNamed) :=
    List.rel_append first more
  have bracket : String.singleton ')' = ")" := by decide
  -- Both calls are joined, or both take lines of their own.
  simp only [Layout.call, related.isEmpty_eq, more.isEmpty_eq, ← keeps.oneLine_eq related, ← related.length_eq]
  split
  · have brackets : R "()".toList "()".toList := keeps.line (by decide)
    simpa using keeps.append names brackets
  · generalize (_ && _ : Bool) = inline
    have opening : R "(".toList "(".toList := keeps.line (by decide)
    have opens : R (name ++ "(").toList (other ++ "(").toList := by simpa using keeps.append names opening
    have enclosed := keeps.enclose related level inline opens (by decide : ')' ≠ '\n')
    rw [bracket] at enclosed
    exact enclosed

theorem list (related : Related R parts others) (level : Nat) :
    R (layout.list none parts level).toList (layout.list none others (level + deeper)).toList := by
  have bracket : String.singleton ']' = "]" := by decide
  simp only [Layout.list, related.isEmpty_eq, ← keeps.oneLine_eq related, ← related.length_eq]
  split
  · exact keeps.line (by decide)
  · generalize (_ && _ : Bool) = inline
    have opens : R "[".toList "[".toList := keeps.line (by decide)
    have enclosed := keeps.enclose related level inline opens (by decide : ']' ≠ '\n')
    rw [bracket] at enclosed
    exact enclosed

theorem constant {text other : String} (related : R text.toList other.toList) (marked : Bool) :
    R ((if marked then "const " else "") ++ text).toList ((if marked then "const " else "") ++ other).toList := by
  cases marked with
  | false => simpa using related
  | true =>
    have mark : R "const ".toList "const ".toList := keeps.line (by decide)
    simpa using keeps.append mark related

end Layout.Keeps

end WidgetSource.Dart
