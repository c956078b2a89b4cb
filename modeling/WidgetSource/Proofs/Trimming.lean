import WidgetSource.Text.Space
import Mathlib.Data.List.DropRight
import Mathlib.Data.List.TakeWhile

namespace WidgetSource.Text

variable {c : Char} {p : Char → Bool} {cs front back : List Char}

theorem trimWhile_prefix (p : Char → Bool) (cs : List Char) : trimWhile p cs <+: cs.dropWhile p :=
  List.rdropWhile_prefix p (cs.dropWhile p)

theorem trimWhile_idempotent (p : Char → Bool) (cs : List Char) : trimWhile p (trimWhile p cs) = trimWhile p cs := by
  have front : (trimWhile p cs).dropWhile p = trimWhile p cs := by
    have inside := trimWhile_prefix p cs
    rw [List.dropWhile_eq_self_iff]
    intro nonempty starts
    have noStart := List.dropWhile_get_zero_not p cs (nonempty.trans_le inside.length_le)
    rw [inside.getElem nonempty] at starts
    exact noStart starts
  calc trimWhile p (trimWhile p cs)
    _ = dropEndWhile p (trimWhile p cs) := by rw [trimWhile, front]
    _ = trimWhile p cs := List.rdropWhile_idempotent p (cs.dropWhile p)

theorem mem_dropWhile (member : c ∈ cs) (kept : p c = false) : c ∈ cs.dropWhile p := by
  rw [← List.takeWhile_append_dropWhile (p := p) (l := cs)] at member
  refine (List.mem_append.mp member).resolve_left fun dropped => ?_
  have wrong := List.mem_takeWhile_imp dropped
  rw [kept] at wrong
  cases wrong

theorem mem_trimWhile (member : c ∈ cs) (kept : p c = false) : c ∈ trimWhile p cs :=
  List.mem_reverse.mpr (mem_dropWhile (List.mem_reverse.mpr (mem_dropWhile member kept)) kept)

theorem dropWhile_append_of_head (leads : ∀ c ∈ front, p c = true) (first : ∀ c ∈ cs.head?, p c = false) :
    (front ++ cs).dropWhile p = cs := by
  rw [List.dropWhile_append_of_pos leads]
  cases cs with
  | nil => rfl
  | cons c cs => exact List.dropWhile_cons_of_neg (by simp [first c rfl])

theorem dropEndWhile_append_of_last (trails : ∀ c ∈ back, p c = true) (last : ∀ c ∈ cs.getLast?, p c = false) :
    dropEndWhile p (cs ++ back) = cs := by
  rw [dropEndWhile, List.reverse_append, dropWhile_append_of_head, List.reverse_reverse]
  · exact fun c member => trails c (List.mem_reverse.mp member)
  · rw [List.head?_reverse]
    exact last

theorem trimWhile_around (leads : ∀ c ∈ front, p c = true) (trails : ∀ c ∈ back, p c = true)
    (first : ∀ c ∈ cs.head?, p c = false) (last : ∀ c ∈ cs.getLast?, p c = false) :
    trimWhile p (front ++ cs ++ back) = cs := by
  cases cs with
  | nil =>
    have all : ∀ c ∈ front ++ [] ++ back, p c = true := by
      rw [List.append_nil]
      exact List.forall_mem_append.mpr ⟨leads, trails⟩
    rw [trimWhile, List.dropWhile_eq_nil_iff.mpr all]
    rfl
  | cons c cs =>
    have kept : (front ++ (c :: cs ++ back)).dropWhile p = c :: cs ++ back :=
      dropWhile_append_of_head leads first
    rw [trimWhile, List.append_assoc, kept]
    exact dropEndWhile_append_of_last trails last

theorem trimChars_around (leads : front.all isSpace = true) (trails : back.all isSpace = true)
    (first : ∀ c ∈ cs.head?, isSpace c = false) (last : ∀ c ∈ cs.getLast?, isSpace c = false) :
    trimChars (front ++ cs ++ back) = cs :=
  trimWhile_around (List.all_eq_true.mp leads) (List.all_eq_true.mp trails) first last

theorem trimChars_around_solid (leads : front.all isSpace = true) (trails : back.all isSpace = true)
    (solid : ∀ c ∈ cs, isSpace c = false) : trimChars (front ++ cs ++ back) = cs :=
  trimChars_around leads trails (fun c first => solid c (List.mem_of_mem_head? first))
    fun c last => solid c (List.mem_of_getLast? last)

theorem trimChars_eq_self (solid : ∀ c ∈ cs, isSpace c = false) : trimChars cs = cs := by
  have around : trimChars ([] ++ cs ++ []) = cs := trimChars_around_solid rfl rfl solid
  rwa [List.append_nil] at around

theorem trim_eq_empty_iff {s : String} : trim s = "" ↔ isBlank s = true := by
  have chars : trimChars s.toList = [] ↔ ∀ c ∈ s.toList, isSpace c = true := by
    rw [trimChars, trimWhile, dropEndWhile, List.reverse_eq_nil_iff, List.dropWhile_eq_nil_iff]
    simp only [List.mem_reverse]
    constructor
    · intro spaces c member
      cases space : isSpace c with
      | true => rfl
      | false => exact space ▸ spaces c (mem_dropWhile member space)
    · exact fun spaces c member => spaces c ((List.dropWhile_suffix isSpace).subset member)
  rw [trim, isBlank, List.all_eq_true, ← chars, ← String.toList_inj, String.toList_ofList]
  rfl

end WidgetSource.Text
