import WidgetSource.Proofs.Indentation

/-!
# What a layout adds

Space and breaks outside literals belong to the layout, and so does a comma in front of the bracket that ends arguments
or a list. What is left of an expression without them is the same in every layout.
-/
namespace WidgetSource.Dart

def isBlank (c : Char) : Bool :=
  c == ' ' || c == '\n'

def endsNext : List Char → Bool
  | [] => false
  | c :: rest => if isBlank c then endsNext rest else c == ')' || c == ']'

def isAdded (c : Char) (rest : List Char) : Bool :=
  isBlank c || (c == ',' && endsNext rest)

def squeezeFrom (mode : Mode) : List Char → List Char
  | [] => []
  | c :: rest =>
    if mode = .code ∧ isAdded c rest then squeezeFrom .code rest else c :: squeezeFrom (mode.next c) rest

/-- A text without what a layout adds. -/
def squeeze (cs : List Char) : List Char :=
  squeezeFrom .code cs

variable {cs ds gap rest : List Char} {mode : Mode} {c close : Char}

theorem squeeze_added (added : isAdded c rest = true) : squeeze (c :: rest) = squeeze rest := by
  simp [squeeze, squeezeFrom, added]

theorem squeeze_blanks (blank : ∀ c ∈ gap, isBlank c = true) (rest : List Char) :
    squeeze (gap ++ rest) = squeeze rest ∧ endsNext (gap ++ rest) = endsNext rest := by
  induction gap with
  | nil => exact ⟨rfl, rfl⟩
  | cons c gap ih =>
    rw [List.forall_mem_cons] at blank
    obtain ⟨squeezed, next⟩ := ih blank.2
    constructor
    · rw [List.cons_append, squeeze_added (by simp [isAdded, blank.1]), squeezed]
    · simpa [endsNext, blank.1] using next

/-- A text that is squeezed in the same way whatever comes after it. -/
def Solid (cs : List Char) : Prop :=
  ∀ rest, squeeze (cs ++ rest) = squeeze cs ++ squeeze rest

def isFirm (c : Char) : Bool :=
  !isBlank c && c != ','

def EndsFirmly (cs : List Char) : Prop :=
  ∃ front c, cs = front ++ [c] ∧ isFirm c = true

theorem not_added (firm : isFirm c = true) (rest : List Char) : isAdded c rest = false := by
  simp only [isFirm, Bool.and_eq_true, Bool.not_eq_true', bne_iff_ne] at firm
  simp [isAdded, firm.1, firm.2]

theorem next_of_added (added : isAdded c rest = true) : Mode.code.next c = .code := by
  rw [Mode.next, if_neg]
  rintro rfl
  simp [isAdded, isBlank] at added

theorem endsNext_append (firm : isFirm c = true) (front rest : List Char) :
    endsNext (front ++ c :: rest) = endsNext (front ++ [c]) := by
  induction front with
  | nil =>
    simp only [isFirm, Bool.and_eq_true, Bool.not_eq_true'] at firm
    simp [endsNext, firm.1]
  | cons d front ih => rw [List.cons_append, List.cons_append, endsNext, endsNext, ih]

theorem squeezeFrom_append (firm : isFirm c = true) {front : List Char}
    (inCode : (front ++ [c]).foldl Mode.next mode = .code) (rest : List Char) :
    squeezeFrom mode (front ++ c :: rest) = squeezeFrom mode (front ++ [c]) ++ squeeze rest := by
  induction front generalizing mode with
  | nil =>
    have after : mode.next c = .code := inCode
    simp [squeezeFrom, not_added firm, after, squeeze]
  | cons d front ih =>
    -- Whether a comma stays is decided by the text itself, since its last character is firm.
    have added : isAdded d (front ++ c :: rest) = isAdded d (front ++ [c]) := by
      rw [isAdded, isAdded, endsNext_append firm]
    rw [List.cons_append, List.cons_append, squeezeFrom, squeezeFrom, added]
    rw [List.cons_append, List.foldl_cons] at inCode
    split
    · rename_i here
      rw [here.1, next_of_added here.2] at inCode
      exact ih inCode
    · rw [ih inCode, List.cons_append]

namespace Solid

theorem nil : Solid [] := fun _ => rfl

theorem append (first : Solid cs) (second : Solid ds) : Solid (cs ++ ds) := by
  intro rest
  rw [List.append_assoc, first, second, first, List.append_assoc]

theorem blanks (blank : ∀ c ∈ gap, isBlank c = true) : Solid gap := by
  intro rest
  have alone := (squeeze_blanks blank []).1
  rw [List.append_nil] at alone
  rw [(squeeze_blanks blank rest).1, alone]
  rfl

theorem of_ends (ends : EndsFirmly cs) (inCode : cs.foldl Mode.next .code = .code) : Solid cs := by
  obtain ⟨front, c, rfl, firm⟩ := ends
  intro rest
  rw [List.append_assoc]
  exact squeezeFrom_append firm inCode rest

end Solid

theorem Reader.step_mode {reader next : Reader} (stepped : reader.step c = some next) :
    reader.mode.next c = next.mode := by
  obtain ⟨mode, pending⟩ := reader
  cases mode with
  | code =>
    have noQuote (bracket : c ≠ '\'') : Mode.code.next c = .code := by rw [Mode.next, if_neg bracket]
    simp only [step] at stepped
    split at stepped
    · rename_i opens
      cases stepped
      refine noQuote ?_
      rintro rfl
      cases opens
    · split at stepped
      · rename_i closes
        split at stepped <;> cases stepped
        refine noQuote ?_
        rintro rfl
        cases closes
      · cases stepped
        rfl
  | literal | escape =>
    simp only [step] at stepped
    split at stepped <;> cases stepped
    rfl

theorem Reader.read_mode {reader next : Reader} (reads : reader.read cs = some next) :
    cs.foldl Mode.next reader.mode = next.mode := by
  induction cs generalizing reader with
  | nil =>
    cases reads
    rfl
  | cons c cs ih =>
    obtain ⟨between, stepped, reads⟩ := Option.bind_eq_some_iff.mp reads
    rw [List.foldl_cons, step_mode stepped, ih reads]

theorem Neutral.inCode (neutral : Neutral cs) : cs.foldl Mode.next .code = .code :=
  Reader.read_mode (neutral [])

theorem EndsFirmly.after (ends : EndsFirmly cs) (front : List Char) : EndsFirmly (front ++ cs) := by
  obtain ⟨middle, c, rfl, firm⟩ := ends
  exact ⟨front ++ middle, c, by rw [List.append_assoc], firm⟩

theorem EndsFirmly.of_last (nonempty : cs ≠ []) (firm : isFirm (cs.getLast nonempty) = true) : EndsFirmly cs :=
  ⟨cs.dropLast, cs.getLast nonempty, (List.dropLast_append_getLast nonempty).symm, firm⟩

theorem EndsFirmly.name (isName : isWord cs = true) : EndsFirmly cs := by
  obtain ⟨nonempty, names⟩ := isWord_iff.mp isName
  have other := not_mem_of_isNameChar (names _ (List.getLast_mem nonempty))
    (by decide : [' ', '\n', ','].any isNameChar = false)
  simp only [List.mem_cons, List.not_mem_nil, or_false, not_or] at other
  exact .of_last nonempty (by simp [isFirm, isBlank, other])

theorem Solid.name (isName : isWord cs = true) : Solid cs :=
  .of_ends (.name isName) (Neutral.name (isWord_iff.mp isName).2).inCode

theorem Solid.keyword (isName : isWord cs = true) : Solid (cs ++ [' ']) :=
  (Solid.name isName).append (.blanks (List.forall_mem_singleton.mpr rfl))

theorem Woven.endsFirmly {breaks : Prop} {parts : List (List Char)} (woven : Woven breaks close parts cs)
    (firm : isFirm close = true) : EndsFirmly cs := by
  induction woven with
  | @nil gap _ => exact ⟨gap, close, rfl, firm⟩
  | cons _ _ _ ih => exact (ih.after _).after _

theorem stubs_endFirmly : ∀ text ∈ stubs, EndsFirmly text.toList := by
  intro text member
  simp only [stubs, List.mem_cons, List.not_mem_nil, or_false] at member
  rcases member with rfl | rfl | rfl <;> exact .of_last (by decide) (by decide)

theorem Phrase.endsFirmly {runtime breaks : Prop} (phrase : Phrase runtime breaks cs) : EndsFirmly cs := by
  induction phrase with
  | word isName _ => exact .name isName
  | negative isName _ => exact (EndsFirmly.name isName).after ['-']
  | @literal cs _ => exact ⟨'\'' :: cs, '\'', rfl, rfl⟩
  | constant _ ih => exact ih.after _
  | @call name cs _ _ _ _ _ woven _ => exact ((woven.endsFirmly rfl).after ['(']).after name
  | list _ woven _ => exact (woven.endsFirmly rfl).after ['[']
  | @noItems type _ _ => exact ⟨'<' :: (type ++ ['>', '[']), ']', by simp, rfl⟩
  | stub _ member => exact stubs_endFirmly _ member
  | translation _ isName => exact (EndsFirmly.name isName).after _

theorem Phrase.solid {runtime breaks : Prop} (phrase : Phrase runtime breaks cs) : Solid cs :=
  .of_ends phrase.endsFirmly phrase.neutral.inCode

structure Part (part : String) : Prop where
  solid : Solid part.toList
  begins : Begins part.toList

theorem Begins.endsNext (begins : Begins cs) (rest : List Char) : endsNext (cs ++ rest) = false := by
  obtain ⟨c, tail, rfl, lead⟩ := begins
  simp only [isLead, isClosing, Bool.and_eq_true, bne_iff_ne, Bool.not_eq_true', Bool.or_eq_false_iff] at lead
  simp [Dart.endsNext, isBlank, lead]

theorem squeeze_comma (cs : List Char) :
    squeeze (',' :: cs) = if endsNext cs then squeeze cs else ',' :: squeeze cs := by
  cases next : endsNext cs <;> simp [squeeze, squeezeFrom, isAdded, isBlank, next, Mode.next]

def dense (parts : List String) : List Char :=
  [','].intercalate (parts.map fun part => squeeze part.toList)

theorem dense_cons (part next : String) (parts : List String) :
    dense (part :: next :: parts) = squeeze part.toList ++ ',' :: dense (next :: parts) := by
  simp [dense, List.intercalate_cons_cons]

theorem joined_begins {part : String} (begins : Begins part.toList) (parts : List String) :
    Begins (", ".intercalate (part :: parts)).toList := by
  cases parts with
  | nil => simpa using begins
  | cons next parts =>
    rw [String.intercalate_cons_cons, String.toList_append, String.toList_append, List.append_assoc]
    exact begins.append _

theorem squeeze_joined {parts : List String} (each : ∀ part ∈ parts, Part part) (rest : List Char) :
    squeeze ((", ".intercalate parts).toList ++ rest) = dense parts ++ squeeze rest := by
  induction parts with
  | nil => rfl
  | cons part parts ih =>
    rw [List.forall_mem_cons] at each
    cases parts with
    | nil => simpa [dense] using each.1.solid rest
    | cons next parts =>
      have later := (joined_begins (each.2 next List.mem_cons_self).begins parts).endsNext rest
      have blank : ∀ c ∈ [' '], isBlank c = true := List.forall_mem_singleton.mpr rfl
      obtain ⟨squeezed, follows⟩ := squeeze_blanks blank ((", ".intercalate (next :: parts)).toList ++ rest)
      have text : (", ".intercalate (part :: next :: parts)).toList ++ rest =
          part.toList ++ ',' :: ([' '] ++ ((", ".intercalate (next :: parts)).toList ++ rest)) := by
        rw [String.intercalate_cons_cons]
        simp
      rw [text, each.1.solid, squeeze_comma, follows, later, squeezed, ih each.2, dense_cons]
      simp

theorem squeeze_lines {parts : List String} (each : ∀ part ∈ parts, Part part) (closes : close = ')' ∨ close = ']')
    (n m : Nat) :
    let lines := (parts.flatMap fun part => '\n' :: (List.replicate n ' ' ++ (part.toList ++ [',']))) ++
      '\n' :: (List.replicate m ' ' ++ [close])
    squeeze lines = dense parts ++ [close] ∧ endsNext lines = parts.isEmpty := by
  have blank (n : Nat) : ∀ c ∈ '\n' :: List.replicate n ' ', isBlank c = true := by
    refine List.forall_mem_cons.mpr ⟨rfl, fun c member => ?_⟩
    rw [(List.mem_replicate.mp member).2]
    rfl
  induction parts with
  | nil =>
    obtain ⟨squeezed, follows⟩ := squeeze_blanks (blank m) [close]
    refine ⟨squeezed.trans ?_, follows.trans ?_⟩ <;> rcases closes with rfl | rfl <;> rfl
  | cons part parts ih =>
    rw [List.forall_mem_cons] at each
    obtain ⟨ih_squeeze, ih_ends⟩ := ih each.2
    generalize later : (parts.flatMap fun part => '\n' :: (List.replicate n ' ' ++ (part.toList ++ [',']))) ++
      '\n' :: (List.replicate m ' ' ++ [close]) = rest at ih_squeeze ih_ends
    obtain ⟨squeezed, follows⟩ := squeeze_blanks (blank n) (part.toList ++ ',' :: rest)
    have text : ((part :: parts).flatMap fun part => '\n' :: (List.replicate n ' ' ++ (part.toList ++ [',']))) ++
        '\n' :: (List.replicate m ' ' ++ [close]) = ('\n' :: List.replicate n ' ') ++ (part.toList ++ ',' :: rest) := by
      simp [← later]
    intro lines
    refine ⟨(congrArg squeeze text).trans ?_, (congrArg endsNext text).trans ?_⟩
    · rw [squeezed, each.1.solid, squeeze_comma, ih_ends, ih_squeeze]
      cases parts with
      | nil => simp [dense]
      | cons next parts => simp [dense_cons]
    · rw [follows, each.1.begins.endsNext]
      rfl

theorem Layout.squeeze_enclose (layout : Layout) (level : Nat) (inline : Bool) {opening : String} {parts : List String}
    (opens : Solid opening.toList) (closes : close = ')' ∨ close = ']') (each : ∀ part ∈ parts, Part part) :
    squeeze (layout.enclose level inline opening (String.singleton close) parts).toList =
      squeeze opening.toList ++ (dense parts ++ [close]) := by
  cases inline with
  | true =>
    have alone : squeeze [close] = [close] := by rcases closes with rfl | rfl <;> rfl
    have joined := squeeze_joined each [close]
    rw [alone] at joined
    rw [enclose_joined, opens, joined]
  | false =>
    have lines := (squeeze_lines each closes (layout.indent * (level + 1)) (layout.indent * level)).1
    rw [enclose_lines, opens, lines]

theorem Layout.squeeze_call (layout : Layout) (level : Nat) {name : String} {positional : Option String}
    {named : List String} (isName : isWord name.toList = true)
    (each : ∀ part ∈ positional.toList ++ named, Part part) :
    squeeze (layout.call name positional named level).toList =
      squeeze name.toList ++ '(' :: (dense (positional.toList ++ named) ++ [')']) := by
  have solid : Solid name.toList := .name isName
  cases empty : (positional.toList ++ named).isEmpty with
  | true =>
    have text : (layout.call name positional named level).toList = name.toList ++ ['(', ')'] := by simp [call, empty]
    rw [text, solid, List.isEmpty_iff.mp empty]
    rfl
  | false =>
    have opens : Solid (name ++ "(").toList := by
      rw [String.toList_append]
      exact solid.append (.of_ends ⟨[], '(', rfl, rfl⟩ rfl)
    simp only [call, empty, Bool.false_eq_true, if_false]
    generalize (_ && _ : Bool) = inline
    have enclosed := layout.squeeze_enclose level inline opens (.inl rfl) each
    rw [String.toList_append, solid, List.append_assoc] at enclosed
    exact enclosed

theorem Layout.squeeze_list (layout : Layout) (level : Nat) {items : List String} (each : ∀ item ∈ items, Part item) :
    squeeze (layout.list none items level).toList = '[' :: (dense items ++ [']']) := by
  cases empty : items.isEmpty with
  | true =>
    have text : (layout.list none items level).toList = ['[', ']'] := by simp [list, empty]
    rw [text, List.isEmpty_iff.mp empty]
    rfl
  | false =>
    simp only [list, empty, Bool.false_eq_true, if_false]
    generalize (_ && _ : Bool) = inline
    have opens : Solid "[".toList := .of_ends ⟨[], '[', rfl, rfl⟩ rfl
    have enclosed := layout.squeeze_enclose level inline opens (.inr rfl) each
    have bracket : String.singleton ']' = "]" := by decide
    rw [bracket] at enclosed
    exact enclosed

def argumentsOf (layout : Layout) (level : Nat) (positional : Option Expr) (named : List (Label × Expr)) : List String :=
  positional.toList.map (·.render layout level) ++ named.map fun entry => entry.1.write (entry.2.render layout level)

theorem argumentsOf_eq (layout : Layout) (level : Nat) (positional : Option Expr) (named : List (Label × Expr)) :
    (Expr.renderPositional layout level positional).toList ++ Expr.renderNamed layout level named =
      argumentsOf layout level positional named := by
  rw [argumentsOf, Expr.renderNamed_eq_map]
  cases positional <;> rfl

theorem solid_label {name : String} (identifier : isIdentifier name = true) :
    Solid name.toList ∧ Solid (name.toList ++ [':', ' ']) := by
  have solid : Solid name.toList := .name (isWord_of_isIdentifier identifier)
  have mark : Solid [':'] := .of_ends ⟨[], ':', rfl, rfl⟩ rfl
  exact ⟨solid, solid.append (mark.append (.blanks (List.forall_mem_singleton.mpr rfl)))⟩

theorem labelled_text (name part : String) :
    ((Label.named name).write part).toList = (name.toList ++ [':', ' ']) ++ part.toList := by
  simp [Label.write]

theorem Part.labelled {name part : String} (inside : Part part) (identifier : isIdentifier name = true) :
    Part ((Label.named name).write part) := by
  constructor
  · rw [labelled_text]
    exact (solid_label identifier).2.append inside.solid
  · rw [labelled_text, List.append_assoc]
    exact (Begins.name (isWord_of_isIdentifier identifier)).append _

theorem squeeze_labelled {name : String} (identifier : isIdentifier name = true) (part : String) :
    squeeze ((Label.named name).write part).toList = squeeze name.toList ++ ':' :: squeeze part.toList := by
  rw [labelled_text, List.append_assoc, (solid_label identifier).1]
  rfl

theorem Expr.Phrased.part {runtime : Prop} {expr : Expr} (phrased : expr.Phrased runtime) (layout : Layout)
    (level : Nat) : Part (expr.render layout level) :=
  ⟨(phrased.render layout level).solid, (phrased.render layout level).begins⟩

theorem Expr.Phrased.squeeze_render {runtime : Prop} {expr : Expr} (phrased : expr.Phrased runtime)
    (layout other : Layout) (level otherLevel : Nat) :
    squeeze (expr.render layout level).toList = squeeze (expr.render other otherLevel).toList := by
  induction phrased generalizing level otherLevel with
  | text phrase => rfl
  | @call constant name positional named isName _ values allowed entries positional_ih named_ih =>
    have each (layout : Layout) (level : Nat) : ∀ part ∈ argumentsOf layout level positional named, Part part := by
      refine List.forall_mem_append.mpr ⟨?_, ?_⟩
      · exact List.forall_mem_map.mpr fun value member => (values value (Option.mem_toList.mp member)).part layout level
      · refine List.forall_mem_map.mpr fun ⟨label, value⟩ member => ?_
        have inside := (entries _ member).part layout level
        cases label with
        | named label => exact inside.labelled (allowed _ member).1
        | spelled label => exact inside
    have same : dense (argumentsOf layout (level + 1) positional named) =
        dense (argumentsOf other (otherLevel + 1) positional named) := by
      simp only [dense, argumentsOf, List.map_append, List.map_map]
      have firsts := List.map_congr_left fun value member =>
        positional_ih value (Option.mem_toList.mp member) (level + 1) (otherLevel + 1)
      have laters : named.map (fun entry => squeeze (entry.1.write (entry.2.render layout (level + 1))).toList) =
          named.map fun entry => squeeze (entry.1.write (entry.2.render other (otherLevel + 1))).toList := by
        refine List.map_congr_left fun ⟨label, value⟩ member => ?_
        have value_eq := named_ih _ member (level + 1) (otherLevel + 1)
        cases label with
        | named label =>
          have identifier := (allowed _ member).1
          dsimp only at value_eq ⊢
          rw [squeeze_labelled identifier, squeeze_labelled identifier, value_eq]
        | spelled label => exact value_eq
      exact congrArg _ (congr (congrArg _ firsts) laters)
    have calls : squeeze (layout.call name (renderPositional layout (level + 1) positional)
        (renderNamed layout (level + 1) named) level).toList = squeeze (other.call name
          (renderPositional other (otherLevel + 1) positional) (renderNamed other (otherLevel + 1) named) otherLevel).toList := by
      rw [Layout.squeeze_call _ _ isName (by rw [argumentsOf_eq]; exact each _ _),
        Layout.squeeze_call _ _ isName (by rw [argumentsOf_eq]; exact each _ _), argumentsOf_eq, argumentsOf_eq, same]
    rw [Expr.render, Expr.render]
    cases constant with
    | false => simpa using calls
    | true =>
      have const : Solid (['c', 'o', 'n', 's', 't'] ++ [' ']) := .keyword (by decide)
      have first := const (layout.call name (renderPositional layout (level + 1) positional)
        (renderNamed layout (level + 1) named) level).toList
      rw [calls, ← const] at first
      simpa using first
  | @list items phrased ih =>
    have each (layout : Layout) (level : Nat) : ∀ item ∈ items.map (·.render layout level), Part item :=
      List.forall_mem_map.mpr fun item member => (phrased item member).part layout level
    have same : dense (items.map (·.render layout (level + 1))) = dense (items.map (·.render other (otherLevel + 1))) := by
      simp only [dense, List.map_map]
      exact congrArg _ (List.map_congr_left fun item member => ih item member _ _)
    rw [Expr.render, Expr.render, renderItems_eq_map, renderItems_eq_map, Layout.squeeze_list _ _ (each _ _),
      Layout.squeeze_list _ _ (each _ _), same]

end WidgetSource.Dart
