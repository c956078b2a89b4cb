import WidgetSource.Proofs.Brackets

/-!
# Indentation

A text is laid out if every line in it begins with the space of the brackets that are open there. An expression that is
made of phrases is laid out on every level, whether its arguments share a line or not.
-/
namespace WidgetSource.Dart

/-- The line begins with the space of its depth. A closing bracket in front stands on the depth outside. -/
def Indented (indent depth : Nat) (line : List Char) : Prop :=
  ∃ c rest, line = List.replicate (indent * if isClosing c then depth - 1 else depth) ' ' ++ c :: rest ∧
    c ≠ ' ' ∧ c ≠ '\n'

theorem Indented.firstLine {indent depth : Nat} {cs : List Char} (indented : Indented indent depth cs) :
    Indented indent depth (cs.takeWhile (· != '\n')) := by
  obtain ⟨c, rest, rfl, noSpace, noBreak⟩ := indented
  refine ⟨c, rest.takeWhile (· != '\n'), ?_, noSpace, noBreak⟩
  rw [List.takeWhile_append_of_pos]
  · simp [noBreak]
  · intro d member
    rw [(List.mem_replicate.mp member).2]
    rfl

def LineFollows (indent depth : Nat) (rest : List Char) : Prop :=
  (∀ c ∈ rest.head?, c = '\n') ∨ Indented indent depth rest

/-- A reader gets through the text, finds every line indented and closes all brackets. -/
inductive LaidOut (indent : Nat) : Reader → List Char → Prop
  | nil : LaidOut indent .start []
  | cons {reader next : Reader} {c : Char} {rest : List Char} : reader.step c = some next →
      (c = '\n' → LineFollows indent next.pending.length rest) → LaidOut indent next rest →
      LaidOut indent reader (c :: rest)

variable {indent : Nat}

theorem LaidOut.read {reader : Reader} {cs : List Char} (laidOut : LaidOut indent reader cs) :
    reader.read cs = some .start := by
  induction laidOut with
  | nil => rfl
  | cons stepped _ _ ih => rw [Reader.read_cons, stepped, Option.bind_some, ih]

theorem Reader.inCode_of_break {reader next : Reader} (stepped : reader.step '\n' = some next) :
    reader.mode = .code ∧ next.mode = .code := by
  obtain ⟨mode, pending⟩ := reader
  cases mode with
  | code =>
    cases stepped
    exact ⟨rfl, rfl⟩
  | literal | escape => simp [step] at stepped

theorem LaidOut.line {reader : Reader} {before rest : List Char} (laidOut : LaidOut indent reader (before ++ rest))
    (broken : before.getLast? = some '\n') :
    ∃ next, reader.read before = some next ∧ next.mode = .code ∧ LineFollows indent next.pending.length rest := by
  induction before generalizing reader with
  | nil => cases broken
  | cons c before ih =>
    cases laidOut with
    | @cons _ next _ _ stepped follows laidOut =>
      cases before with
      | nil =>
        have same : c = '\n' := by simpa using broken
        subst same
        refine ⟨next, ?_, (Reader.inCode_of_break stepped).2, follows rfl⟩
        rw [Reader.read_cons, stepped]
        rfl
      | cons d before =>
        obtain ⟨last, reads, rest⟩ := ih laidOut (by simpa using broken)
        exact ⟨last, by rw [Reader.read_cons, stepped, Option.bind_some, reads], rest⟩

/-- The part takes a reader from some open brackets to others. What is laid out behind it is laid out together with it. -/
def Leads (indent : Nat) (outer inner cs : List Char) : Prop :=
  ∀ rest, LaidOut indent ⟨.code, inner⟩ rest → LaidOut indent ⟨.code, outer⟩ (cs ++ rest)

namespace Leads

variable {outer between inner cs ds : List Char}

theorem nil : Leads indent outer outer [] := fun _ laidOut => laidOut

theorem append (first : Leads indent outer between cs) (second : Leads indent between inner ds) :
    Leads indent outer inner (cs ++ ds) := by
  intro rest laidOut
  rw [List.append_assoc]
  exact first _ (second rest laidOut)

theorem of_read (reads : Reader.read ⟨.code, outer⟩ cs = some ⟨.code, inner⟩) (oneLine : '\n' ∉ cs) :
    Leads indent outer inner cs := by
  intro rest laidOut
  generalize Reader.mk .code outer = reader at reads
  induction cs generalizing reader with
  | nil =>
    cases reads
    exact laidOut
  | cons c cs ih =>
    obtain ⟨next, stepped, reads⟩ := Option.bind_eq_some_iff.mp reads
    rw [List.mem_cons, not_or] at oneLine
    exact .cons stepped (fun isBreak => absurd isBreak.symm oneLine.1) (ih oneLine.2 next reads)

theorem of_neutral (neutral : Neutral cs) (oneLine : '\n' ∉ cs) : Leads indent outer outer cs :=
  of_read (neutral outer) oneLine

theorem line (indented : Indented indent outer.length cs) (leads : Leads indent outer inner cs) :
    Leads indent outer inner ('\n' :: cs) := by
  intro rest laidOut
  obtain ⟨c, tail, same, noSpace, noBreak⟩ := indented
  refine .cons rfl (fun _ => .inr ⟨c, tail ++ rest, ?_, noSpace, noBreak⟩) (leads rest laidOut)
  subst same
  simp

theorem emptyLine (leads : Leads indent outer inner ('\n' :: cs)) : Leads indent outer inner ('\n' :: '\n' :: cs) := by
  intro rest laidOut
  refine .cons rfl (fun _ => .inl fun c first => ?_) (leads rest laidOut)
  cases first
  rfl

theorem spaces (n : Nat) : Leads indent outer outer (List.replicate n ' ') := by
  refine of_neutral (.quiet fun c member => ?_) fun member => ?_
  · rw [(List.mem_replicate.mp member).2]
    decide
  · exact absurd (List.mem_replicate.mp member).2 (by decide)

end Leads

def isLead (c : Char) : Bool :=
  c != ' ' && c != '\n' && !isClosing c

def Begins (cs : List Char) : Prop :=
  ∃ c rest, cs = c :: rest ∧ isLead c = true

namespace Begins

variable {cs ds : List Char}

theorem append (begins : Begins cs) (ds : List Char) : Begins (cs ++ ds) := by
  obtain ⟨c, rest, rfl, lead⟩ := begins
  exact ⟨c, rest ++ ds, rfl, lead⟩

theorem name (isName : isWord cs = true) : Begins cs := by
  obtain ⟨nonempty, names⟩ := isWord_iff.mp isName
  obtain ⟨c, rest, rfl⟩ := List.exists_cons_of_ne_nil nonempty
  have other := not_mem_of_isNameChar (names c List.mem_cons_self)
    (by decide : [' ', '\n', ')', ']', '}'].any isNameChar = false)
  simp only [List.mem_cons, List.not_mem_nil, or_false, not_or] at other
  exact ⟨c, rest, rfl, by simp [isLead, isClosing, other]⟩

theorem indented (begins : Begins cs) (depth : Nat) :
    Indented indent depth (List.replicate (indent * depth) ' ' ++ cs) := by
  obtain ⟨c, rest, rfl, lead⟩ := begins
  simp only [isLead, Bool.and_eq_true, bne_iff_ne, Bool.not_eq_true'] at lead
  obtain ⟨⟨noSpace, noBreak⟩, noClosing⟩ := lead
  exact ⟨c, rest, by simp [noClosing], noSpace, noBreak⟩

end Begins

theorem indented_closing {close : Char} (closes : isClosing close = true) (depth : Nat) (rest : List Char) :
    Indented indent (depth + 1) (List.replicate (indent * depth) ' ' ++ close :: rest) := by
  refine ⟨close, rest, by simp [closes], ?_, ?_⟩ <;>
    · rintro rfl
      revert closes
      decide

theorem stubs_begin : ∀ text ∈ stubs, Begins text.toList := by
  intro text member
  simp only [stubs, List.mem_cons, List.not_mem_nil, or_false] at member
  rcases member with rfl | rfl | rfl <;> exact ⟨'(', _, rfl, by decide⟩

theorem Phrase.begins {runtime breaks : Prop} {cs : List Char} (phrase : Phrase runtime breaks cs) : Begins cs := by
  cases phrase with
  | word isName _ => exact .name isName
  | negative _ _ | literal _ | constant _ | list _ _ | noItems _ _ | translation _ _ => exact ⟨_, _, rfl, by decide⟩
  | call isName _ _ _ _ => exact (Begins.name isName).append _
  | stub _ member => exact stubs_begin _ member

theorem name_oneLine {cs : List Char} (names : ∀ c ∈ cs, isNameChar c = true) : '\n' ∉ cs := by
  intro member
  exact not_mem_of_isNameChar (names '\n' member) (by decide : ['\n'].any isNameChar = false) List.mem_cons_self

theorem Escaped.oneLine {cs : List Char} (escaped : Escaped cs) : '\n' ∉ cs := by
  induction escaped with
  | nil => exact List.not_mem_nil
  | plain _ _ noBreak _ ih => simp [noBreak.symm, ih]
  | escape noBreak _ ih => simp [noBreak.symm, ih]

theorem Woven.oneLine {close : Char} {parts : List (List Char)} {cs : List Char} (woven : Woven False close parts cs)
    (closes : isClosing close = true) (oneLine : ∀ part ∈ parts, '\n' ∉ part) : '\n' ∉ cs := by
  have noBreak {gap : List Char} (isGap : IsGap False gap) : '\n' ∉ gap := by
    intro member
    have wrong := isGap '\n' member
    simp at wrong
  induction woven with
  | nil isGap =>
    have noClose : '\n' ≠ close := by
      rintro rfl
      revert closes
      decide
    simpa [noBreak isGap] using noClose
  | cons isGap _ _ ih =>
    rw [List.forall_mem_cons] at oneLine
    simp [noBreak isGap, oneLine.1, ih oneLine.2]

theorem labelled_oneLine {runtime : Prop} {arg : Option String × List Char} (allowed : LabelAllowed runtime arg)
    (oneLine : '\n' ∉ arg.2) : '\n' ∉ labelled arg := by
  obtain ⟨_ | name, value⟩ := arg
  · exact oneLine
  · have label := name_oneLine (isWord_iff.mp (isWord_of_isIdentifier allowed.1)).2
    simpa [labelled, label] using oneLine

theorem Phrase.oneLine {runtime : Prop} {cs : List Char} (phrase : Phrase runtime False cs) : '\n' ∉ cs := by
  induction phrase with
  | word isName _ => exact name_oneLine (isWord_iff.mp isName).2
  | negative isName _ => simpa using name_oneLine (isWord_iff.mp isName).2
  | literal escaped => simpa using escaped.oneLine
  | constant _ ih => simpa using ih
  | call isName _ labels _ woven ih =>
    have name := name_oneLine (isWord_iff.mp isName).2
    have inside := woven.oneLine (by decide) (List.forall_mem_map.mpr fun arg member =>
      labelled_oneLine (labels arg member) (ih arg member))
    simpa [name] using inside
  | list _ woven ih => simpa using woven.oneLine (by decide) ih
  | noItems isName _ => simpa using name_oneLine (isWord_iff.mp isName).2
  | stub _ member =>
    simp only [stubs, List.mem_cons, List.not_mem_nil, or_false] at member
    rcases member with rfl | rfl | rfl <;> decide
  | translation _ isName => simpa using name_oneLine (isWord_iff.mp isName).2

theorem Leads.name {pending cs : List Char} (isName : isWord cs = true) : Leads indent pending pending cs :=
  .of_neutral (.name (isWord_iff.mp isName).2) (name_oneLine (isWord_iff.mp isName).2)

structure Inside (indent : Nat) (pending : List Char) (part : String) : Prop where
  leads : Leads indent pending pending part.toList
  begins : Begins part.toList

theorem Layout.enclose_joined (layout : Layout) (level : Nat) (opening : String) (close : Char) (parts : List String) :
    (layout.enclose level true opening (String.singleton close) parts).toList =
      opening.toList ++ ((", ".intercalate parts).toList ++ [close]) := by
  simp [enclose]

theorem Layout.enclose_lines (layout : Layout) (level : Nat) (opening : String) (close : Char) (parts : List String) :
    (layout.enclose level false opening (String.singleton close) parts).toList =
      opening.toList ++ ((parts.flatMap fun part =>
        '\n' :: (List.replicate (layout.indent * (level + 1)) ' ' ++ (part.toList ++ [',']))) ++
        '\n' :: (List.replicate (layout.indent * level) ' ' ++ [close])) := by
  have lines := intercalate_lines opening.toList (List.replicate (layout.indent * level) ' ' ++ [close])
    (List.replicate (layout.indent * (level + 1)) ' ') (parts.map String.toList)
  rw [List.flatMap_map] at lines
  rw [← lines]
  simp [enclose, pad, spaces, String.toList_intercalate, Function.comp_def]

theorem joined_leads {pending : List Char} {parts : List String} (inside : ∀ part ∈ parts, Inside indent pending part) :
    Leads indent pending pending (", ".intercalate parts).toList := by
  induction parts with
  | nil => exact .nil
  | cons part parts ih =>
    rw [List.forall_mem_cons] at inside
    cases parts with
    | nil => simpa using inside.1.leads
    | cons next parts =>
      have comma : Leads indent pending pending ", ".toList := .of_neutral (.of_read (by decide)) (by decide)
      rw [String.intercalate_cons_cons, String.toList_append, String.toList_append]
      exact (inside.1.leads.append comma).append (ih inside.2)

theorem lines_lead {pending : List Char} {parts : List String} (inside : ∀ part ∈ parts, Inside indent pending part) :
    Leads indent pending pending (parts.flatMap fun part =>
      '\n' :: (List.replicate (indent * pending.length) ' ' ++ (part.toList ++ [',']))) := by
  induction parts with
  | nil => exact .nil
  | cons part parts ih =>
    rw [List.forall_mem_cons] at inside
    have comma : Leads indent pending pending [','] := .of_neutral (.of_read (by decide)) (by decide)
    exact (Leads.line ((inside.1.begins.append [',']).indented pending.length)
      (.append (.spaces _) (inside.1.leads.append comma))).append (ih inside.2)

theorem Layout.enclose_leads (layout : Layout) (inline : Bool) {opening : String} {close : Char} {parts : List String}
    {pending : List Char} (opens : Leads layout.indent pending (close :: pending) opening.toList)
    (closes : isClosing close = true) (inside : ∀ part ∈ parts, Inside layout.indent (close :: pending) part) :
    Leads layout.indent pending pending
      (layout.enclose pending.length inline opening (String.singleton close) parts).toList := by
  have noBreak : '\n' ∉ [close] := by
    rw [List.mem_singleton]
    rintro rfl
    revert closes
    decide
  have closing : Leads layout.indent (close :: pending) pending [close] := by
    refine .of_read ?_ noBreak
    rw [Reader.read_cons, Reader.step_closing closes]
    rfl
  cases inline with
  | true =>
    rw [enclose_joined]
    exact opens.append ((joined_leads inside).append closing)
  | false =>
    have last : Leads layout.indent (close :: pending) pending
        ('\n' :: (List.replicate (layout.indent * pending.length) ' ' ++ [close])) :=
      .line (indented_closing closes pending.length []) (.append (.spaces _) closing)
    rw [enclose_lines]
    exact opens.append ((lines_lead inside).append last)

theorem Layout.call_leads (layout : Layout) {name : String} {positional : Option String} {named : List String}
    {pending : List Char} (isName : isWord name.toList = true)
    (inside : ∀ part ∈ positional.toList ++ named, Inside layout.indent (')' :: pending) part) :
    Leads layout.indent pending pending (layout.call name positional named pending.length).toList := by
  have leads : Leads layout.indent pending pending name.toList := .name isName
  cases empty : (positional.toList ++ named).isEmpty with
  | true =>
    have brackets : Leads layout.indent pending pending "()".toList := .of_neutral (.of_read (by decide)) (by decide)
    simpa [call, empty] using leads.append brackets
  | false =>
    have opening : Leads layout.indent pending (')' :: pending) ['('] := .of_read rfl (by decide)
    have opens : Leads layout.indent pending (')' :: pending) (name ++ "(").toList := by
      simpa using leads.append opening
    simp only [call, empty, Bool.false_eq_true, if_false]
    generalize (_ && _ : Bool) = inline
    simpa using layout.enclose_leads inline opens rfl inside

theorem Layout.list_leads (layout : Layout) {items : List String} {pending : List Char}
    (inside : ∀ item ∈ items, Inside layout.indent (']' :: pending) item) :
    Leads layout.indent pending pending (layout.list none items pending.length).toList := by
  cases empty : items.isEmpty with
  | true =>
    have brackets : Leads layout.indent pending pending "[]".toList := .of_neutral (.of_read (by decide)) (by decide)
    simpa [list, empty] using brackets
  | false =>
    have opens : Leads layout.indent pending (']' :: pending) "[".toList := .of_read rfl (by decide)
    simp only [list, empty, Bool.false_eq_true, if_false]
    generalize (_ && _ : Bool) = inline
    simpa using layout.enclose_leads inline opens rfl inside

theorem Inside.labelled {indent : Nat} {pending : List Char} {part name : String} (inside : Inside indent pending part)
    (identifier : isIdentifier name = true) : Inside indent pending ((Label.named name).write part) := by
  have isName := isWord_of_isIdentifier identifier
  have label : Leads indent pending pending name.toList := .name isName
  have colon : Leads indent pending pending ": ".toList := .of_neutral (.of_read (by decide)) (by decide)
  refine ⟨?_, ?_⟩
  · simpa [Label.write] using label.append (colon.append inside.leads)
  · simpa [Label.write] using (Begins.name isName).append (": ".toList ++ part.toList)

theorem Expr.Phrased.inside {runtime : Prop} {expr : Expr} (phrased : expr.Phrased runtime) (layout : Layout)
    (pending : List Char) : Inside layout.indent pending (expr.render layout pending.length) := by
  refine ⟨?_, (phrased.render layout _).begins⟩
  -- What is inside a call or a list stands behind one more bracket, and on the next level.
  induction phrased generalizing pending with
  | text phrase => exact .of_neutral phrase.neutral phrase.oneLine
  | @call constant name positional named isName _ values allowed entries positional_ih named_ih =>
    have parts : ∀ part ∈ (renderPositional layout (pending.length + 1) positional).toList ++
        renderNamed layout (pending.length + 1) named, Inside layout.indent (')' :: pending) part := by
      refine List.forall_mem_append.mpr ⟨?_, ?_⟩
      · cases positional with
        | none => exact fun _ none => absurd none List.not_mem_nil
        | some value =>
          have begins := ((values value rfl).render layout (pending.length + 1)).begins
          exact List.forall_mem_singleton.mpr ⟨positional_ih value rfl (')' :: pending), begins⟩
      · rw [renderNamed_eq_map]
        refine List.forall_mem_map.mpr fun ⟨label, value⟩ member => ?_
        have begins := ((entries _ member).render layout (pending.length + 1)).begins
        have inside : Inside layout.indent (')' :: pending) (value.render layout (pending.length + 1)) :=
          ⟨named_ih _ member (')' :: pending), begins⟩
        cases label with
        | named label => exact inside.labelled (allowed _ member).1
        | spelled label => exact inside
    have call := layout.call_leads isName parts
    rw [Expr.render]
    cases constant with
    | false => simpa using call
    | true =>
      have const : Leads layout.indent pending pending "const ".toList := .of_neutral (.of_read (by decide)) (by decide)
      simpa using const.append call
  | @list items phrased ih =>
    have parts : ∀ part ∈ renderItems layout (pending.length + 1) items, Inside layout.indent (']' :: pending) part := by
      rw [renderItems_eq_map]
      exact List.forall_mem_map.mpr fun item member =>
        ⟨ih item member (']' :: pending), ((phrased item member).render layout _).begins⟩
    exact layout.list_leads parts

end WidgetSource.Dart
