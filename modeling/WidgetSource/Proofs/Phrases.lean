import WidgetSource.Analysis.Constness
import WidgetSource.Dart.Expr
import WidgetSource.Proofs.Lexis

/-!
# The grammar of what is written

Words, literals, calls with their arguments, and lists. Two things are left open: whether there may be values that are
known only at run time, and whether there may be line breaks between arguments.
-/
namespace WidgetSource.Dart

def isWord (cs : List Char) : Bool :=
  !cs.isEmpty && cs.all isNameChar

theorem isWord_iff {cs : List Char} : isWord cs = true ↔ cs ≠ [] ∧ ∀ c ∈ cs, isNameChar c = true := by
  simp [isWord]

def matrixName : List Char := ['M', 'a', 't', 'r', 'i', 'x', '4', '.']

def styleName : List Char := ['.', 's', 't', 'y', 'l', 'e', 'F', 'r', 'o', 'm']

def translationsName : List Char :=
  ['A', 'p', 'p', 'L', 'o', 'c', 'a', 'l', 'i', 'z', 'a', 't', 'i', 'o', 'n', 's', '.', 'o', 'f']

def IsMild (word : List Char) : Prop :=
  ¬ matrixName <:+: word

/-- A name whose call is no style and no translation. -/
structure IsMildCall (name : List Char) : Prop where
  mild : IsMild name
  noStyle : ¬ styleName <:+ name
  noTranslations : ¬ translationsName <:+ name

theorem isMild_of_missing {word : List Char} {c : Char} (expected : c ∈ matrixName) (missing : c ∉ word) :
    IsMild word := fun inside => missing (inside.subset expected)

theorem isMildCall_of_no_dot {name : List Char} (noDot : '.' ∉ name) : IsMildCall name where
  mild := isMild_of_missing (by decide) noDot
  noStyle ending := noDot (ending.subset (by decide))
  noTranslations ending := noDot (ending.subset (by decide))

def labelled : Option String × List Char → List Char
  | (none, value) => value
  | (some name, value) => name.toList ++ ':' :: ' ' :: value

/-- A label is an identifier. Without values of the run time a handler can only be missing. -/
def LabelAllowed (runtime : Prop) : Option String × List Char → Prop
  | (none, _) => True
  | (some name, value) =>
    isIdentifier name = true ∧ (runtime ∨ (isDynamicName name = true → name = "onPressed" ∧ value = "null".toList))

theorem allowed_of_static {runtime missing : Prop} {name : String} (static : runtime ∨ isDynamicName name = false) :
    runtime ∨ (isDynamicName name = true → missing) := by
  refine static.imp_right fun static dynamic => ?_
  rw [static] at dynamic
  cases dynamic

def IsGap (breaks : Prop) (gap : List Char) : Prop :=
  ∀ c ∈ gap, c = ',' ∨ c = ' ' ∨ (c = '\n' ∧ breaks)

/-- Parts with gaps between them, up to a closing bracket. After a part comes a comma or the bracket. -/
inductive Woven (breaks : Prop) (close : Char) : List (List Char) → List Char → Prop
  | nil {gap : List Char} : IsGap breaks gap → Woven breaks close [] (gap ++ [close])
  | cons {gap part cs : List Char} {parts : List (List Char)} : IsGap breaks gap → Woven breaks close parts cs →
      (∀ c ∈ cs.head?, c = ',' ∨ c = close) → Woven breaks close (part :: parts) (gap ++ (part ++ cs))

def stubs : List String :=
  ["() \x7b\x7d", "(value) \x7b\x7d", "(context, index) => const SizedBox.shrink()"]

inductive Phrase (runtime breaks : Prop) : List Char → Prop
  | word {cs : List Char} : isWord cs = true → (runtime ∨ IsMild cs) → Phrase runtime breaks cs
  | negative {cs : List Char} : isWord cs = true → (runtime ∨ IsMild cs) → Phrase runtime breaks ('-' :: cs)
  | literal {cs : List Char} : Escaped cs → Phrase runtime breaks ('\'' :: (cs ++ ['\'']))
  | constant {cs : List Char} : Phrase runtime breaks cs → Phrase runtime breaks ("const ".toList ++ cs)
  | call {name cs : List Char} {args : List (Option String × List Char)} : isWord name = true →
      (runtime ∨ IsMildCall name) → (∀ arg ∈ args, LabelAllowed runtime arg) →
      (∀ arg ∈ args, Phrase runtime breaks arg.2) → Woven breaks ')' (args.map labelled) cs →
      Phrase runtime breaks (name ++ '(' :: cs)
  | list {cs : List Char} {items : List (List Char)} : (∀ item ∈ items, Phrase runtime breaks item) →
      Woven breaks ']' items cs → Phrase runtime breaks ('[' :: cs)
  | noItems {type : List Char} : isWord type = true → (runtime ∨ IsMild type) →
      Phrase runtime breaks ('<' :: (type ++ ">[]".toList))
  | stub {text : String} : runtime → text ∈ stubs → Phrase runtime breaks text.toList
  | translation {name : List Char} : runtime → isWord name = true →
      Phrase runtime breaks ("AppLocalizations.of(context)!.".toList ++ name)

theorem IsGap.append {breaks : Prop} {first second : List Char} (h : IsGap breaks first) (k : IsGap breaks second) :
    IsGap breaks (first ++ second) := fun c member => (List.mem_append.mp member).elim (h c) (k c)

theorem Woven.mono {breaks more : Prop} (allowed : breaks → more) {close : Char} {parts : List (List Char)}
    {cs : List Char} (woven : Woven breaks close parts cs) : Woven more close parts cs := by
  have wider {gap : List Char} (isGap : IsGap breaks gap) : IsGap more gap := fun c member =>
    (isGap c member).imp_right (Or.imp_right (And.imp_right allowed))
  induction woven with
  | nil isGap => exact .nil (wider isGap)
  | cons isGap _ after ih => exact .cons (wider isGap) ih after

theorem Woven.joined {breaks : Prop} (close : Char) (parts : List (List Char)) {gap : List Char}
    (isGap : IsGap breaks gap) : Woven breaks close parts (gap ++ (", ".toList.intercalate parts ++ [close])) := by
  have comma : IsGap breaks ", ".toList := by
    intro c member
    simp only [String.reduceToList, List.mem_cons, List.not_mem_nil, or_false] at member
    exact member.imp_right .inl
  induction parts generalizing gap with
  | nil => exact .nil isGap
  | cons part parts ih =>
    cases parts with
    | nil =>
      have last : Woven breaks close [] ([] ++ [close]) := .nil fun c member => absurd member List.not_mem_nil
      rw [List.intercalate_singleton]
      exact .cons isGap last (by simp)
    | cons next parts =>
      rw [List.intercalate_cons_cons, List.append_assoc, List.append_assoc]
      exact .cons isGap (ih comma) (by simp)

inductive Arguments (runtime breaks : Prop) : List (Option String × String) → Prop
  | nil : Arguments runtime breaks []
  | positional {value : String} {rest : List (Option String × String)} : Phrase runtime breaks value.toList →
      Arguments runtime breaks rest → Arguments runtime breaks ((none, value) :: rest)
  | named {name value : String} {rest : List (Option String × String)} : isIdentifier name = true →
      isDynamicName name = false → Phrase runtime breaks value.toList → Arguments runtime breaks rest →
      Arguments runtime breaks ((some name, value) :: rest)

def callChars (name : String) (args : List (Option String × String)) : List Char :=
  name.toList ++ '(' :: (", ".toList.intercalate (args.map fun arg => labelled (arg.1, arg.2.toList)) ++ [')'])

theorem Arguments.allowed {runtime breaks : Prop} {args : List (Option String × String)}
    (arguments : Arguments runtime breaks args) :
    ∀ arg ∈ args.map (fun arg => (arg.1, arg.2.toList)),
      LabelAllowed runtime arg ∧ Phrase runtime breaks arg.2 := by
  induction arguments with
  | nil => exact fun _ member => absurd member List.not_mem_nil
  | positional value _ ih =>
    rw [List.map_cons]
    exact List.forall_mem_cons.mpr ⟨⟨trivial, value⟩, ih⟩
  | named identifier static value _ ih =>
    rw [List.map_cons]
    exact List.forall_mem_cons.mpr ⟨⟨⟨identifier, allowed_of_static (.inr static)⟩, value⟩, ih⟩

theorem Phrase.inline {runtime breaks : Prop} {name : String} {args : List (Option String × String)}
    (isName : isWord name.toList = true) (mild : runtime ∨ IsMildCall name.toList)
    (arguments : Arguments runtime breaks args) : Phrase runtime breaks (callChars name args) := by
  have allowed := arguments.allowed
  have woven : Woven breaks ')' ((args.map fun arg => (arg.1, arg.2.toList)).map labelled)
      ([] ++ (", ".toList.intercalate _ ++ [')'])) := .joined ')' _ fun c member => absurd member List.not_mem_nil
  have whole := Phrase.call isName mild (fun arg member => (allowed arg member).1)
    (fun arg member => (allowed arg member).2) woven
  rw [List.map_map] at whole
  exact whole

def EntryAllowed (runtime : Prop) : Label × Expr → Prop
  | (.named name, value) =>
    isIdentifier name = true ∧ (runtime ∨ (isDynamicName name = true → name = "onPressed" ∧ value = .text "null"))
  | (.spelled _, _) => False

/-- An expression whose texts are phrases on one line. -/
inductive Expr.Phrased (runtime : Prop) : Expr → Prop
  | text {s : String} : Phrase runtime False s.toList → Expr.Phrased runtime (.text s)
  | call {constant : Bool} {name : String} {positional : Option Expr} {named : List (Label × Expr)} :
      isWord name.toList = true → (runtime ∨ IsMildCall name.toList) →
      (∀ value ∈ positional, Expr.Phrased runtime value) → (∀ entry ∈ named, EntryAllowed runtime entry) →
      (∀ entry ∈ named, Expr.Phrased runtime entry.2) → Expr.Phrased runtime (.call constant name positional named)
  | list {items : List Expr} : (∀ item ∈ items, Expr.Phrased runtime item) → Expr.Phrased runtime (.list items)

theorem Phrase.mono {runtime breaks more : Prop} (allowed : breaks → more) {cs : List Char}
    (phrase : Phrase runtime breaks cs) : Phrase runtime more cs := by
  induction phrase with
  | word isName mild => exact .word isName mild
  | negative isName mild => exact .negative isName mild
  | literal escaped => exact .literal escaped
  | constant _ ih => exact .constant ih
  | call isName mild labels _ woven ih => exact .call isName mild labels ih (woven.mono allowed)
  | list _ woven ih => exact .list ih (woven.mono allowed)
  | noItems isName mild => exact .noItems isName mild
  | stub known member => exact .stub known member
  | translation known isName => exact .translation known isName

theorem isGap_spaces {breaks : Prop} (n : Nat) : IsGap breaks (spaces n).toList := by
  intro c member
  simp only [spaces, String.toList_ofList, List.mem_replicate] at member
  exact .inr (.inl member.2)

theorem Woven.lines {close : Char} (pad padClose : List Char) (padIsGap : IsGap True pad)
    (closeIsGap : IsGap True padClose) (parts : List (List Char)) {gap : List Char} (isGap : IsGap True gap) :
    Woven True close parts
      (gap ++ ((parts.flatMap fun part => '\n' :: (pad ++ (part ++ [',']))) ++ '\n' :: (padClose ++ [close]))) := by
  have newLine : IsGap True ['\n'] := by simp [IsGap]
  have comma : IsGap True [','] := by simp [IsGap]
  induction parts generalizing gap with
  | nil =>
    have last : Woven True close [] (((gap ++ ['\n']) ++ padClose) ++ [close]) :=
      .nil ((isGap.append newLine).append closeIsGap)
    simpa using last
  | cons part parts ih =>
    have first : Woven True close (part :: parts) (((gap ++ ['\n']) ++ pad) ++ (part ++ _)) :=
      .cons ((isGap.append newLine).append padIsGap) (ih comma) (by simp)
    simpa using first

theorem intercalate_lines (opening closing pad : List Char) (parts : List (List Char)) :
    ['\n'].intercalate (opening :: (parts.map (fun part => pad ++ (part ++ [','])) ++ [closing])) =
      opening ++ ((parts.flatMap fun part => '\n' :: (pad ++ (part ++ [',']))) ++ '\n' :: closing) := by
  induction parts generalizing opening with
  | nil => simp [List.intercalate_cons_cons]
  | cons part parts ih =>
    rw [List.map_cons, List.cons_append, List.intercalate_cons_cons, ih]
    simp

theorem Layout.enclose_woven (layout : Layout) (level : Nat) (inline : Bool) (opening : String) (close : Char)
    (parts : List String) :
    ∃ cs, (layout.enclose level inline opening (String.singleton close) parts).toList = opening.toList ++ cs ∧
      Woven True close (parts.map String.toList) cs := by
  have noGap : IsGap True [] := fun c member => absurd member List.not_mem_nil
  cases inline with
  | true =>
    refine ⟨_, ?_, .joined close (parts.map String.toList) noGap⟩
    simp [enclose, String.toList_intercalate]
  | false =>
    have pad (level : Nat) : IsGap True (layout.pad level).toList := isGap_spaces _
    refine ⟨_, ?_, .lines (layout.pad (level + 1)).toList (layout.pad level).toList (pad _) (pad _)
      (parts.map String.toList) noGap⟩
    have lines := intercalate_lines opening.toList ((layout.pad level).toList ++ [close])
      (layout.pad (level + 1)).toList (parts.map String.toList)
    simpa [enclose, String.toList_intercalate, Function.comp_def] using lines

theorem Layout.call_woven (layout : Layout) (name : String) (positional : Option String) (named : List String)
    (level : Nat) :
    ∃ cs, (layout.call name positional named level).toList = name.toList ++ '(' :: cs ∧
      Woven True ')' ((positional.toList ++ named).map String.toList) cs := by
  cases empty : (positional.toList ++ named).isEmpty with
  | true =>
    refine ⟨[')'], by simp only [call, empty]; simp, ?_⟩
    rw [List.isEmpty_iff.mp empty]
    exact .nil fun c member => absurd member List.not_mem_nil
  | false =>
    simp only [call, empty, Bool.false_eq_true, if_false]
    generalize (_ && _ : Bool) = inline
    obtain ⟨cs, text, woven⟩ := layout.enclose_woven level inline (name ++ "(") ')' (positional.toList ++ named)
    exact ⟨cs, by simpa using text, woven⟩

theorem Layout.list_woven (layout : Layout) (items : List String) (level : Nat) :
    ∃ cs, (layout.list none items level).toList = '[' :: cs ∧ Woven True ']' (items.map String.toList) cs := by
  cases empty : items.isEmpty with
  | true =>
    refine ⟨[']'], by simp only [list, empty]; simp, ?_⟩
    rw [List.isEmpty_iff.mp empty]
    exact .nil fun c member => absurd member List.not_mem_nil
  | false =>
    simp only [list, empty, Bool.false_eq_true, if_false]
    generalize (_ && _ : Bool) = inline
    obtain ⟨cs, text, woven⟩ := layout.enclose_woven level inline "[" ']' items
    exact ⟨cs, by simpa using text, woven⟩

def argumentOf (layout : Layout) (level : Nat) : Label × Expr → Option String × List Char
  | (.named name, value) => (some name, (value.render layout level).toList)
  | (.spelled _, value) => (none, (value.render layout level).toList)

theorem labelled_argumentOf (layout : Layout) (level : Nat) (entry : Label × Expr) :
    labelled (argumentOf layout level entry) = (entry.1.write (entry.2.render layout level)).toList := by
  obtain ⟨label, value⟩ := entry
  cases label with
  | named name => simp [argumentOf, labelled, Label.write]
  | spelled name => rfl

theorem argumentOf_allowed {runtime : Prop} (layout : Layout) (level : Nat) {entry : Label × Expr}
    (allowed : EntryAllowed runtime entry) : LabelAllowed runtime (argumentOf layout level entry) := by
  obtain ⟨label, value⟩ := entry
  cases label with
  | named name =>
    refine ⟨allowed.1, allowed.2.imp_right fun onlyMissing dynamic => ?_⟩
    obtain ⟨isTap, isMissing⟩ := onlyMissing dynamic
    exact ⟨isTap, by rw [isMissing]; rfl⟩
  | spelled name => cases allowed

theorem Expr.Phrased.render {runtime : Prop} {expr : Expr} (phrased : expr.Phrased runtime) (layout : Layout)
    (level : Nat) : Phrase runtime True (expr.render layout level).toList := by
  induction phrased generalizing level with
  | text phrase => exact phrase.mono False.elim
  | @call constant name positional named isName mild _ allowed _ positional_ih named_ih =>
    obtain ⟨cs, text, woven⟩ := layout.call_woven name (renderPositional layout (level + 1) positional)
      (renderNamed layout (level + 1) named) level
    have parts : ((renderPositional layout (level + 1) positional).toList ++
        renderNamed layout (level + 1) named).map String.toList =
        (positional.toList.map (fun value : Expr => (none, (value.render layout (level + 1)).toList)) ++
          named.map (argumentOf layout (level + 1))).map labelled := by
      have entries : (renderNamed layout (level + 1) named).map String.toList =
          (named.map (argumentOf layout (level + 1))).map labelled := by
        simp only [renderNamed_eq_map, List.map_map, Function.comp_def, labelled_argumentOf]
      rw [List.map_append, List.map_append, entries]
      cases positional <;> rfl
    rw [parts] at woven
    have call : Phrase runtime True (layout.call name (renderPositional layout (level + 1) positional)
        (renderNamed layout (level + 1) named) level).toList := by
      rw [text]
      refine .call isName mild (fun arg member => ?_) (fun arg member => ?_) woven
      · rcases List.mem_append.mp member with first | later
        · obtain ⟨value, _, rfl⟩ := List.mem_map.mp first
          trivial
        · obtain ⟨entry, inside, rfl⟩ := List.mem_map.mp later
          exact argumentOf_allowed layout (level + 1) (allowed entry inside)
      · rcases List.mem_append.mp member with first | later
        · obtain ⟨value, inside, rfl⟩ := List.mem_map.mp first
          exact positional_ih value (Option.mem_toList.mp inside) (level + 1)
        · obtain ⟨entry, inside, rfl⟩ := List.mem_map.mp later
          have value := named_ih entry inside (level + 1)
          obtain ⟨label, expr⟩ := entry
          cases label <;> exact value
    rw [Expr.render]
    cases constant with
    | false => simpa using call
    | true => simpa using Phrase.constant call
  | @list items _ ih =>
    obtain ⟨cs, text, woven⟩ := layout.list_woven (renderItems layout (level + 1) items) level
    rw [Expr.render, text]
    refine .list (fun part member => ?_) woven
    rw [renderItems_eq_map] at member
    obtain ⟨written, place, rfl⟩ := List.mem_map.mp member
    obtain ⟨item, inside, rfl⟩ := List.mem_map.mp place
    exact ih item inside (level + 1)

end WidgetSource.Dart
