import WidgetSource.Proofs.Names

/-!
# Brackets and literals

A reader of code knows whether it stands in a literal and which brackets are open. It gets stuck at a literal that goes
on to another line and at a bracket that closes the wrong one. A phrase leaves a reader as it found it.
-/
namespace WidgetSource.Dart

def closingOf : Char → Option Char
  | '(' => some ')'
  | '[' => some ']'
  | '{' => some '}'
  | _ => none

def isClosing (c : Char) : Bool :=
  c == ')' || c == ']' || c == '}'

/-- The brackets that a reader waits for are pending, the innermost first. -/
structure Reader where
  mode : Mode
  pending : List Char
  deriving DecidableEq

namespace Reader

def start : Reader :=
  ⟨.code, []⟩

def step (reader : Reader) (c : Char) : Option Reader :=
  match reader.mode with
  | .code =>
    match closingOf c with
    | some close => some ⟨.code, close :: reader.pending⟩
    | none =>
      if isClosing c then
        if reader.pending.head? = some c then some ⟨.code, reader.pending.tail⟩ else none
      else some ⟨Mode.code.next c, reader.pending⟩
  | mode => if c = '\n' then none else some ⟨mode.next c, reader.pending⟩

def read (reader : Reader) (cs : List Char) : Option Reader :=
  cs.foldlM step reader

@[simp] theorem read_nil (reader : Reader) : reader.read [] = some reader := rfl

@[simp] theorem read_cons (reader : Reader) (c : Char) (cs : List Char) :
    reader.read (c :: cs) = (reader.step c).bind (·.read cs) := rfl

theorem read_append (reader : Reader) (cs ds : List Char) :
    reader.read (cs ++ ds) = (reader.read cs).bind (·.read ds) := by
  induction cs generalizing reader with
  | nil => rfl
  | cons c cs ih =>
    rw [List.cons_append, read_cons, read_cons]
    cases reader.step c with
    | none => rfl
    | some next => exact ih next

def isQuiet (c : Char) : Bool :=
  (closingOf c).isNone && !isClosing c && c != '\''

theorem step_quiet {c : Char} (quiet : isQuiet c = true) (pending : List Char) :
    step ⟨.code, pending⟩ c = some ⟨.code, pending⟩ := by
  simp only [isQuiet, Bool.and_eq_true, Option.isNone_iff_eq_none, Bool.not_eq_true', bne_iff_ne] at quiet
  obtain ⟨⟨noOpening, noClosing⟩, noQuote⟩ := quiet
  simp [step, noOpening, noClosing, Mode.next, noQuote]

theorem step_opening {c close : Char} (opens : closingOf c = some close) (pending : List Char) :
    step ⟨.code, pending⟩ c = some ⟨.code, close :: pending⟩ := by
  simp [step, opens]

theorem step_closing {c : Char} (closes : isClosing c = true) (pending : List Char) :
    step ⟨.code, c :: pending⟩ c = some ⟨.code, pending⟩ := by
  have noOpening : closingOf c = none := by
    simp only [isClosing, Bool.or_eq_true, beq_iff_eq] at closes
    rcases closes with (rfl | rfl) | rfl <;> rfl
  simp [step, noOpening, closes]

theorem step_frame {reader next : Reader} {c : Char} (stepped : reader.step c = some next) (outer : List Char) :
    step ⟨reader.mode, reader.pending ++ outer⟩ c = some ⟨next.mode, next.pending ++ outer⟩ := by
  obtain ⟨mode, pending⟩ := reader
  cases mode with
  | code =>
    simp only [step] at stepped ⊢
    split at stepped
    · cases stepped
      rfl
    · by_cases closes : isClosing c = true
      · simp only [closes, if_true] at stepped ⊢
        cases pending with
        | nil => simp at stepped
        | cons expected pending =>
          split at stepped
          · rename_i same
            cases stepped
            simpa using same
          · cases stepped
      · simp only [closes, Bool.false_eq_true, if_false] at stepped ⊢
        cases stepped
        rfl
  | literal | escape =>
    simp only [step] at stepped ⊢
    split at stepped
    · cases stepped
    · rename_i noBreak
      cases stepped
      simp [noBreak]

theorem read_frame {reader next : Reader} {cs : List Char} (reads : reader.read cs = some next) (outer : List Char) :
    read ⟨reader.mode, reader.pending ++ outer⟩ cs = some ⟨next.mode, next.pending ++ outer⟩ := by
  induction cs generalizing reader with
  | nil =>
    cases reads
    rfl
  | cons c cs ih =>
    rw [read_cons] at reads ⊢
    obtain ⟨between, stepped, reads⟩ := Option.bind_eq_some_iff.mp reads
    rw [step_frame stepped outer]
    exact ih reads

end Reader

theorem not_mem_of_isNameChar {c : Char} (isName : isNameChar c = true) {others : List Char}
    (noNames : others.any isNameChar = false) : c ∉ others := by
  intro member
  exact List.any_eq_false.mp noNames c member isName

/-- A text after which a reader of code is where it was before. -/
def Neutral (cs : List Char) : Prop :=
  ∀ pending, Reader.read ⟨.code, pending⟩ cs = some ⟨.code, pending⟩

namespace Neutral

variable {cs ds : List Char}

theorem nil : Neutral [] := fun _ => rfl

theorem append (first : Neutral cs) (second : Neutral ds) : Neutral (cs ++ ds) := by
  intro pending
  rw [Reader.read_append, first pending]
  exact second pending

theorem quiet (quiet : ∀ c ∈ cs, Reader.isQuiet c = true) : Neutral cs := by
  induction cs with
  | nil => exact nil
  | cons c cs ih =>
    intro pending
    rw [Reader.read_cons, Reader.step_quiet (quiet c List.mem_cons_self)]
    exact ih (fun d later => quiet d (List.mem_cons_of_mem c later)) pending

theorem cons {c : Char} (quiet : Reader.isQuiet c = true) (neutral : Neutral cs) : Neutral (c :: cs) :=
  append (.quiet (List.forall_mem_singleton.mpr quiet)) neutral

theorem of_read (reads : Reader.start.read cs = some .start) : Neutral cs :=
  Reader.read_frame reads

theorem name (names : ∀ c ∈ cs, isNameChar c = true) : Neutral cs := by
  refine quiet fun c member => ?_
  have other := not_mem_of_isNameChar (names c member)
    (by decide : ['(', '[', '{', ')', ']', '}', '\''].any isNameChar = false)
  simp only [List.mem_cons, List.not_mem_nil, or_false, not_or] at other
  simp [Reader.isQuiet, closingOf, isClosing, other]

theorem literal (escaped : Escaped cs) : Neutral ('\'' :: (cs ++ ['\''])) := by
  have inside (pending : List Char) : Reader.read ⟨.literal, pending⟩ (cs ++ ['\'']) = some ⟨.code, pending⟩ := by
    induction escaped with
    | nil => rfl
    | plain noQuote noBackslash noBreak _ ih => simpa [Reader.step, Mode.next, noQuote, noBackslash, noBreak] using ih
    | escape noBreak _ ih => simpa [Reader.step, Mode.next, noBreak] using ih
  exact inside

end Neutral

theorem IsGap.isQuiet {breaks : Prop} {gap : List Char} (isGap : IsGap breaks gap) :
    ∀ c ∈ gap, Reader.isQuiet c = true := by
  intro c member
  rcases isGap c member with rfl | rfl | ⟨rfl, _⟩ <;> decide

theorem Woven.read {breaks : Prop} {close : Char} {parts : List (List Char)} {cs : List Char}
    (woven : Woven breaks close parts cs) (closes : isClosing close = true) (neutral : ∀ part ∈ parts, Neutral part)
    (pending : List Char) : Reader.read ⟨.code, close :: pending⟩ cs = some ⟨.code, pending⟩ := by
  induction woven with
  | nil isGap =>
    rw [Reader.read_append, Neutral.quiet isGap.isQuiet, Option.bind_some, Reader.read_cons,
      Reader.step_closing closes]
    rfl
  | cons isGap _ _ ih =>
    have first := neutral _ List.mem_cons_self
    rw [Reader.read_append, Neutral.quiet isGap.isQuiet, Option.bind_some, Reader.read_append, first, Option.bind_some]
    exact ih fun part later => neutral part (List.mem_cons_of_mem _ later)

theorem labelled_neutral {runtime : Prop} {arg : Option String × List Char} (allowed : LabelAllowed runtime arg)
    (neutral : Neutral arg.2) : Neutral (labelled arg) := by
  obtain ⟨_ | name, value⟩ := arg
  · exact neutral
  · have label : Neutral name.toList := .name (isWord_iff.mp (isWord_of_isIdentifier allowed.1)).2
    exact label.append (.cons (by decide) (.cons (by decide) neutral))

theorem stubs_neutral : ∀ text ∈ stubs, Neutral text.toList := by
  simp only [stubs, List.forall_mem_cons]
  exact ⟨.of_read (by decide), .of_read (by decide), .of_read (by decide), fun _ none => absurd none List.not_mem_nil⟩

theorem Phrase.neutral {runtime breaks : Prop} {cs : List Char} (phrase : Phrase runtime breaks cs) : Neutral cs := by
  induction phrase with
  | word isName _ => exact .name (isWord_iff.mp isName).2
  | negative isName _ => exact .cons (by decide) (.name (isWord_iff.mp isName).2)
  | literal escaped => exact .literal escaped
  | constant _ ih => exact .append (.of_read (by decide)) ih
  | call isName _ labels _ woven ih =>
    have parts := woven.read (by decide) (List.forall_mem_map.mpr fun arg member =>
      labelled_neutral (labels arg member) (ih arg member))
    refine .append (.name (isWord_iff.mp isName).2) fun pending => ?_
    rw [Reader.read_cons, Reader.step_opening rfl]
    exact parts pending
  | list _ woven ih =>
    intro pending
    rw [Reader.read_cons, Reader.step_opening rfl]
    exact woven.read (by decide) ih pending
  | noItems isName _ =>
    exact .cons (by decide) (.append (.name (isWord_iff.mp isName).2) (.of_read (by decide)))
  | stub _ member => exact stubs_neutral _ member
  | translation _ isName => exact .append (.of_read (by decide)) (.name (isWord_iff.mp isName).2)

end WidgetSource.Dart
