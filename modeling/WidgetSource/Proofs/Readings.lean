import WidgetSource.Mapping.Template
import Mathlib.Data.List.Basic

/-!
# Templates as texts with marks

The grammar of templates for plain text, tags that show a field, comments, and braces behind backslashes. What a template
of these shows has as many braces as the template itself but for those that belong to its tags. So if it shows its text
with a value in one place, it has one tag, and nothing else in it is read in a way of its own.
-/
namespace WidgetSource.Template

def braces (cs : List Char) : Nat := cs.count '\x7b'

@[simp] theorem braces_nil : braces [] = 0 := rfl

@[simp] theorem braces_append (cs ds : List Char) : braces (cs ++ ds) = braces cs + braces ds := List.count_append

theorem braces_cons (c : Char) (cs : List Char) : braces (c :: cs) = braces cs + if c = '\x7b' then 1 else 0 := by
  simp [braces, List.count_cons]

theorem braces_eq_zero_iff {cs : List Char} : braces cs = 0 ↔ '\x7b' ∉ cs := List.count_eq_zero

@[simp] theorem braces_slashes (slashes : Nat) : braces (List.replicate slashes '\\') = 0 := by
  simp [braces, List.count_replicate]

def tagOpen : List Char := ['\x7b', '\x7b']

/-- An ASCII letter, a digit or an underscore. -/
def isFieldChar (c : Char) : Bool := isNameChar c && c != '-' && c < '\x80'

def reservedNames : List String := helperNames ++ ["this", "else", "as", "true", "false", "null"]

/-- A word that is the name of a field and has no meaning of its own. A word that begins like `else` is none, since it
may stand for the other branch of a block. -/
def isFieldName (name : List Char) : Bool :=
  name.head?.any (!isDigit ·) && name.all isFieldChar && !(['e', 'l', 's', 'e'].isPrefixOf name) &&
    !reservedNames.contains (String.ofList name)

def valueName : List Char := ['v', 'a', 'l', 'u', 'e']

/-- What is read between plain texts: a tag that shows a field, perhaps with three braces or behind several backslashes,
a comment, or braces that a backslash keeps as text. -/
inductive Mark
  | field (slashes : Nat) (tripled : Bool) (left name right : List Char)
  | comment (body : List Char)
  | kept

namespace Mark

def spelled : Mark → List Char
  | .field slashes false left name right =>
    List.replicate slashes '\\' ++ (tagOpen ++ (left ++ (name ++ (right ++ tagClose))))
  | .field slashes true left name right =>
    List.replicate slashes '\\' ++ (tagOpen ++ ('\x7b' :: (left ++ (name ++ (right ++ ('\x7d' :: tagClose))))))
  | .comment body => tagOpen ++ ('!' :: (body ++ tagClose))
  | .kept => '\\' :: tagOpen

/-- What is shown where `value` is the one field that is there. One of the backslashes before a tag is dropped. -/
def shown (value : List Char) : Mark → List Char
  | .field slashes _ _ name _ => List.replicate (slashes - 1) '\\' ++ if name = valueName then value else []
  | .comment _ => []
  | .kept => tagOpen

def Sound : Mark → Prop
  | .field slashes _ left name right =>
    slashes ≠ 1 ∧ (∀ c ∈ left ++ right, isTagSpace c = true) ∧ isFieldName name = true
  | .comment body => ¬ ['-', '-'] <+: body ∧ ¬ tagClose <:+: body ++ ['\x7d']
  | .kept => True

/-- Whether the mark is read so between two texts, of which the first is given from its end: a comment does not have a
line of its own, and no further brace comes after those that are kept. -/
def Fits (before after : List Char) : Mark → Prop
  | .field .. => True
  | .comment _ => (endsBlankLine before && beginsBlankLine after) = false
  | .kept => after.head? ≠ some '\x7b'

end Mark

inductive Reading
  | ends (cs : List Char)
  | goes (cs : List Char) (mark : Mark) (rest : Reading)

namespace Reading

def spelled : Reading → List Char
  | .ends cs => cs
  | .goes cs mark rest => cs ++ (mark.spelled ++ rest.spelled)

def shown (value : List Char) : Reading → List Char
  | .ends cs => cs
  | .goes cs mark rest => cs ++ (mark.shown value ++ rest.shown value)

/-- The plain texts open no tag, also not together with the next mark, and have no backslash before it. -/
inductive Sound : List Char → Reading → Prop
  | ends {before cs : List Char} (unopened : ¬ tagOpen <:+: cs) : Sound before (.ends cs)
  | goes {before cs : List Char} {mark : Mark} {rest : Reading}
    (unopened : ¬ tagOpen <:+: cs ++ mark.spelled.take 1) (unescaped : cs.getLast? ≠ some '\\') (sound : mark.Sound)
    (fits : mark.Fits (cs.reverse ++ before) rest.spelled)
    (later : Sound ((cs ++ mark.spelled).reverse ++ before) rest) : Sound before (.goes cs mark rest)

end Reading

/-- The engine has the grammar of templates: what a text shows that is made of plain texts and marks is what these show
one after the other. -/
def FollowsGrammar (engine : Engine) : Prop :=
  ∀ reading : Reading, reading.Sound [] → ∀ value : String,
    engine (String.ofList reading.spelled) (propertyData value) = some (String.ofList (reading.shown value.toList))

theorem isFieldChar_ne_brace {c : Char} (field : isFieldChar c = true) : c ≠ '\x7b' := by
  rintro rfl
  revert field
  decide

theorem isTagSpace_ne_brace {c : Char} (space : isTagSpace c = true) : c ≠ '\x7b' := by
  rintro rfl
  revert space
  decide

namespace Mark

/-- The braces of a mark that are not shown. -/
def openings : Mark → Nat
  | .field _ tripled .. => if tripled then 3 else 2
  | .comment body => 2 + Template.braces body
  | .kept => 0

theorem braces_spelled {mark : Mark} (sound : mark.Sound) :
    braces mark.spelled = braces (mark.shown []) + mark.openings := by
  cases mark with
  | field slashes tripled left name right =>
    obtain ⟨-, spaces, named⟩ := sound
    have word : braces name = 0 := by
      simp only [isFieldName, Bool.and_eq_true, List.all_eq_true] at named
      exact braces_eq_zero_iff.mpr fun inside => isFieldChar_ne_brace (named.1.1.2 _ inside) rfl
    have around : braces left = 0 ∧ braces right = 0 := by
      simp only [List.forall_mem_append] at spaces
      exact ⟨braces_eq_zero_iff.mpr fun inside => isTagSpace_ne_brace (spaces.1 _ inside) rfl,
        braces_eq_zero_iff.mpr fun inside => isTagSpace_ne_brace (spaces.2 _ inside) rfl⟩
    have close : braces tagClose = 0 := by decide
    cases tripled <;> simp [spelled, shown, openings, word, around, close, tagOpen, braces_cons]
  | comment body =>
    have close : braces tagClose = 0 := by decide
    simp [spelled, shown, openings, close, tagOpen, braces_cons]
    omega
  | kept => decide

end Mark

namespace Reading

def openings : Reading → Nat
  | .ends _ => 0
  | .goes _ mark rest => mark.openings + rest.openings

theorem braces_spelled {before : List Char} {reading : Reading} (sound : reading.Sound before) :
    braces reading.spelled = braces (reading.shown []) + reading.openings := by
  induction sound with
  | ends => rfl
  | goes _ _ sound _ _ ih =>
    have mark := Mark.braces_spelled sound
    simp only [spelled, shown, openings, braces_append]
    omega

/-- Without tags there are only braces that are kept. -/
theorem shown_of_tagless {reading : Reading} (tagless : reading.openings = 0) :
    (∀ value, reading.shown value = reading.shown []) ∧ (reading.shown []).length ≤ reading.spelled.length ∧
      ((reading.shown []).length = reading.spelled.length → ∃ cs, reading = .ends cs) := by
  induction reading with
  | ends cs => exact ⟨fun _ => rfl, Nat.le_refl _, fun _ => ⟨cs, rfl⟩⟩
  | goes cs mark rest ih =>
    obtain ⟨same, shorter, -⟩ := ih (Nat.eq_zero_of_add_eq_zero_left tagless)
    have none := Nat.eq_zero_of_add_eq_zero_right tagless
    cases mark with
    | field slashes tripled => cases tripled <;> simp [Mark.openings] at none
    | comment => simp [Mark.openings] at none
    | kept =>
      refine ⟨fun value => by simp only [shown, same value, Mark.shown], ?_, fun equal => ?_⟩
      · simp [shown, spelled, Mark.shown, Mark.spelled]
        omega
      · simp [shown, spelled, Mark.shown, Mark.spelled] at equal
        omega

/-- A text with the braces of one tag shows the value nowhere or in one place, and at most what stands around its tag.
If it loses nothing of that, it has nothing else in it. -/
theorem shown_of_one_tag {before : List Char} {reading : Reading} (sound : reading.Sound before)
    (single : reading.openings = 2) :
    (∀ value, reading.shown value = reading.shown []) ∨
    ∃ left right : List Char, (∀ value, reading.shown value = left ++ value ++ right) ∧
      left.length + 9 + right.length ≤ reading.spelled.length ∧
      (left.length + 9 + right.length = reading.spelled.length →
        reading = .goes left (.field 0 false [] valueName []) (.ends right)) := by
  induction sound with
  | ends => simp [openings] at single
  | @goes before cs mark rest unopened unescaped markSound fits later ih =>
    cases mark with
    | kept =>
      simp only [openings, Mark.openings, Nat.zero_add] at single
      rcases ih single with same | ⟨left, right, shows, room, -⟩
      · exact .inl fun value => by simp only [shown, same value, Mark.shown]
      · refine .inr ⟨cs ++ (tagOpen ++ left), right, fun value => by simp [shown, Mark.shown, shows], ?_, fun equal => ?_⟩
        · simp [spelled, Mark.spelled]
          omega
        · simp [spelled, Mark.spelled] at equal
          omega
    | comment body =>
      have tagless : rest.openings = 0 := by
        simp only [openings, Mark.openings] at single
        omega
      exact .inl fun value => by simp only [shown, (shown_of_tagless tagless).1 value, Mark.shown]
    | field slashes tripled left name right =>
      -- Three braces are too many for a text with the braces of one tag.
      obtain ⟨rfl, tagless⟩ : tripled = false ∧ rest.openings = 0 := by
        cases tripled with
        | false => simpa [openings, Mark.openings] using single
        | true =>
          simp only [openings, Mark.openings, if_true] at single
          omega
      obtain ⟨same, shorter, bare⟩ := shown_of_tagless tagless
      by_cases named : name = valueName
      · subst named
        refine .inr ⟨cs ++ List.replicate (slashes - 1) '\\', rest.shown [], fun value => ?_, ?_, fun equal => ?_⟩
        · simp [shown, Mark.shown, same value]
        · simp [spelled, Mark.spelled, tagOpen, tagClose, valueName]
          omega
        · have several := markSound.1
          simp [spelled, Mark.spelled, tagOpen, tagClose, valueName] at equal
          obtain ⟨text, rfl⟩ := bare (by omega)
          obtain rfl : left = [] := List.length_eq_zero_iff.mp (by omega)
          obtain rfl : right = [] := List.length_eq_zero_iff.mp (by omega)
          obtain rfl : slashes = 0 := by omega
          simp [shown]
      · exact .inl fun value => by simp only [shown, Mark.shown, if_neg named, same value]

end Reading

/-- Whether the text around a placeholder is plain: it opens no tag, also not with the first brace of the placeholder,
and no backslash stands before the placeholder. -/
structure Plain (before after : List Char) : Prop where
  unopened : ¬ tagOpen <:+: before ++ ['\x7b']
  unescaped : before.getLast? ≠ some '\\'
  uncontinued : ¬ tagOpen <:+: after

/-- Plain text around a placeholder, as the grammar has it. -/
def plainReading (before after : List Char) : Reading :=
  .goes before (.field 0 false [] valueName []) (.ends after)

theorem plainReading_sound_iff {before after : List Char} : (plainReading before after).Sound [] ↔ Plain before after := by
  constructor
  · rintro (_ | ⟨unopened, unescaped, -, -, ⟨uncontinued⟩⟩)
    exact ⟨unopened, unescaped, uncontinued⟩
  · rintro ⟨unopened, unescaped, uncontinued⟩
    refine .goes unopened unescaped ⟨by decide, by simp, by decide⟩ trivial (.ends uncontinued)

theorem placeholder_toList : placeholder.toList = tagOpen ++ (valueName ++ tagClose) := rfl

theorem sides_unique {left right before after : List Char}
    (same : ∀ value : List Char, left ++ value ++ right = before ++ value ++ after) :
    left = before ∧ right = after := by
  have length_le {left right before after : List Char}
      (same : ∀ value : List Char, left ++ value ++ right = before ++ value ++ after) :
      before.length ≤ left.length := by
    by_contra longer
    rw [Nat.not_le] at longer
    have here (c : Char) : before[left.length]? = some c := by
      simpa [List.getElem?_append, longer] using (congrArg (·[left.length]?) (same [c])).symm
    have equal := (here 'x').symm.trans (here 'y')
    simp at equal
  have lengths := Nat.le_antisymm (length_le fun value => (same value).symm) (length_le same)
  exact List.append_inj (by simpa using same []) lengths

/-- A template of marks that shows its text with the value in the place of the placeholder has plain text around it. -/
theorem plain_of_shown {reading : Reading} (sound : reading.Sound []) {before after : List Char}
    (spelled : reading.spelled = before ++ placeholder.toList ++ after)
    (shows : ∀ value, reading.shown value = before ++ value ++ after) : Plain before after := by
  have single : reading.openings = 2 := by
    have count := Reading.braces_spelled sound
    have inner : braces placeholder.toList = 2 := by decide
    simp only [spelled, shows, braces_append, braces_nil, inner] at count
    omega
  rcases Reading.shown_of_one_tag sound single with same | ⟨left, right, around, -, whole⟩
  · have equal := (same ['x']).trans (same ['y']).symm
    rw [shows, shows] at equal
    simp at equal
  · obtain ⟨rfl, rfl⟩ := sides_unique fun value => (around value).symm.trans (shows value)
    have inner : placeholder.toList.length = 9 := by decide
    refine plainReading_sound_iff.mp ?_
    rw [plainReading, ← whole (by simp [spelled, inner]; omega)]
    exact sound

end WidgetSource.Template
