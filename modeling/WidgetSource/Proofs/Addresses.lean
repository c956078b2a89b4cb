import WidgetSource.Mapping.Entry
import WidgetSource.Proofs.Trimming
import WidgetSource.Source

/-!
# Addresses of imports

An import gives its address bare, in quotes, or in a statement. One reader takes off what may stand around the address,
whichever of the three was given, and so it also takes the word of a statement off an address that begins with it.
-/
namespace WidgetSource

namespace Mapping

inductive Quote
  | single | double
  deriving DecidableEq

def Quote.text : Quote → String
  | .single => "'"
  | .double => "\""

def Quote.around (quote : Quote) (address : String) : String :=
  quote.text ++ address ++ quote.text

inductive ImportSpelling
  | bare
  | quoted (quote : Quote)
  | statement (quote : Quote)
  deriving DecidableEq

def ImportSpelling.write (address : String) : ImportSpelling → String
  | bare => address
  | quoted quote => quote.around address
  | statement quote => "import " ++ quote.around address ++ ";"

def standsAround (c : Char) : Bool :=
  Text.isSpace c || isQuote c || c == ';'

structure IsAddress (address : String) : Prop where
  nonempty : address ≠ ""
  bare : address.toList.any standsAround = false

variable {cs front back ends : List Char}

theorem IsAddress.apart {address : String} (plain : IsAddress address) :
    ∀ c ∈ address.toList, Text.isSpace c = false ∧ isQuote c = false ∧ c ≠ ';' := by
  intro c member
  have outside := Bool.eq_false_iff.mpr (List.any_eq_false.mp plain.bare c member)
  rw [standsAround, Bool.or_eq_false_iff, Bool.or_eq_false_iff, beq_eq_false_iff_ne] at outside
  exact ⟨outside.1.1, outside.1.2, outside.2⟩

theorem isQuote_apart {c : Char} (quotes : isQuote c = true) : Text.isSpace c = false ∧ c ≠ ';' := by
  rw [isQuote, Bool.or_eq_true, beq_iff_eq, beq_iff_eq] at quotes
  rcases quotes with rfl | rfl <;> decide

theorem Quote.isQuote_text (quote : Quote) : ∀ c ∈ quote.text.toList, isQuote c = true :=
  List.all_eq_true.mp (by cases quote <;> rfl)

def unwrap (body : List Char) : List Char :=
  Text.trimChars (Text.trimWhile isQuote (Text.trimChars (Text.dropEndWhile (· == ';') body)))

def given? (address : List Char) : Option String :=
  if address = [] then none else some (String.ofList address)

def withoutWord (line : List Char) : List Char :=
  ((Text.afterPrefix? "import".toList (Text.trimChars line)).map Text.trimChars).getD (Text.trimChars line)

theorem importAddress?_eq (line : String) : importAddress? line = given? (unwrap (withoutWord line.toList)) := by
  unfold importAddress? withoutWord unwrap given?
  dsimp only
  generalize Text.trimChars (Text.trimWhile isQuote _) = address
  cases address <;> rfl

theorem given?_eq_some {address : String} (nonempty : address ≠ "") : given? address.toList = some address := by
  have filled : address.toList ≠ [] := fun empty => nonempty (String.toList_eq_nil_iff.mp empty)
  rw [given?, if_neg filled, String.ofList_toList]

theorem given?_toList {address : String} (found : given? cs = some address) : address.toList = cs := by
  unfold given? at found
  split at found
  · cases found
  · obtain rfl := Option.some.inj found
    exact String.toList_ofList

theorem unwrap_around (apart : ∀ c ∈ cs, Text.isSpace c = false ∧ isQuote c = false ∧ c ≠ ';')
    (leads : ∀ c ∈ front, isQuote c = true) (trails : ∀ c ∈ back, isQuote c = true) (stops : ∀ c ∈ ends, c = ';') :
    unwrap (front ++ cs ++ back ++ ends) = cs := by
  have inside : ∀ c ∈ front ++ cs ++ back, Text.isSpace c = false ∧ c ≠ ';' := by
    intro c member
    rcases List.mem_append.mp member with member | last
    · rcases List.mem_append.mp member with first | middle
      · exact isQuote_apart (leads c first)
      · exact ⟨(apart c middle).1, (apart c middle).2.2⟩
    · exact isQuote_apart (trails c last)
  have unstopped : Text.dropEndWhile (· == ';') (front ++ cs ++ back ++ ends) = front ++ cs ++ back := by
    apply Text.dropEndWhile_append_of_last
    · exact fun c member => beq_iff_eq.mpr (stops c member)
    · exact fun c last => beq_eq_false_iff_ne.mpr (inside c (List.mem_of_getLast? last)).2
  have bare : Text.trimWhile isQuote (front ++ cs ++ back) = cs := by
    apply Text.trimWhile_around leads trails
    · exact fun c first => (apart c (List.mem_of_mem_head? first)).2.1
    · exact fun c last => (apart c (List.mem_of_getLast? last)).2.1
  rw [unwrap, unstopped, Text.trimChars_eq_self fun c member => (inside c member).1, bare,
    Text.trimChars_eq_self fun c member => (apart c member).1]

theorem unwrap_eq_self (apart : ∀ c ∈ cs, Text.isSpace c = false ∧ isQuote c = false ∧ c ≠ ';') : unwrap cs = cs := by
  have around : unwrap ([] ++ cs ++ [] ++ []) = cs := unwrap_around apart nofun nofun nofun
  rwa [List.append_nil, List.append_nil] at around

theorem withoutWord_eq_self {line : List Char} (trimmed : Text.trimChars line = cs)
    (other : "import".toList.isPrefixOf cs = false) : withoutWord line = cs := by
  rw [withoutWord, trimmed, Text.afterPrefix?, other]
  rfl

theorem withoutWord_word {line rest : List Char} (trimmed : Text.trimChars line = "import".toList ++ rest) :
    withoutWord line = Text.trimChars rest := by
  have begins : "import".toList.isPrefixOf ("import".toList ++ rest) = true :=
    List.isPrefixOf_iff_prefix.mpr (List.prefix_append _ _)
  rw [withoutWord, trimmed, Text.afterPrefix?, begins, if_pos rfl, List.drop_left]
  rfl

section

variable {address before after : String} (plain : IsAddress address) (leads : Text.isBlank before = true)
  (trails : Text.isBlank after = true)
include plain

theorem around_solid (quote : Quote) : ∀ c ∈ (quote.around address).toList, Text.isSpace c = false := by
  have quotes : ∀ c ∈ quote.text.toList, Text.isSpace c = false :=
    fun c member => (isQuote_apart (quote.isQuote_text c member)).1
  simp only [Quote.around, String.toList_append, List.mem_append, or_imp, forall_and]
  exact ⟨⟨quotes, fun c member => (plain.apart c member).1⟩, quotes⟩

theorem unwrap_quoted (quote : Quote) (stops : ∀ c ∈ ends, c = ';') :
    unwrap ((quote.around address).toList ++ ends) = address.toList := by
  rw [Quote.around, String.toList_append, String.toList_append]
  exact unwrap_around plain.apart quote.isQuote_text quote.isQuote_text stops

include leads trails

theorem importAddress?_bare (other : Text.beginsWith "import" address = false) :
    importAddress? (before ++ address ++ after) = some address := by
  have trimmed : Text.trimChars (before ++ address ++ after).toList = address.toList := by
    rw [String.toList_append, String.toList_append]
    exact Text.trimChars_around_solid leads trails fun c member => (plain.apart c member).1
  rw [importAddress?_eq, withoutWord_eq_self trimmed other, unwrap_eq_self plain.apart, given?_eq_some plain.nonempty]

theorem importAddress?_word {rest : List Char} (begins : address.toList = "import".toList ++ rest) :
    importAddress? (before ++ address ++ after) = given? rest := by
  have trimmed : Text.trimChars (before ++ address ++ after).toList = "import".toList ++ rest := by
    rw [String.toList_append, String.toList_append, ← begins]
    exact Text.trimChars_around_solid leads trails fun c member => (plain.apart c member).1
  have apart := plain.apart
  rw [begins] at apart
  replace apart := (List.forall_mem_append.mp apart).2
  rw [importAddress?_eq, withoutWord_word trimmed, Text.trimChars_eq_self fun c member => (apart c member).1,
    unwrap_eq_self apart]

theorem importAddress?_quoted (quote : Quote) :
    importAddress? (before ++ quote.around address ++ after) = some address := by
  have trimmed : Text.trimChars (before ++ quote.around address ++ after).toList = (quote.around address).toList := by
    rw [String.toList_append, String.toList_append]
    exact Text.trimChars_around_solid leads trails (around_solid plain quote)
  have other : "import".toList.isPrefixOf (quote.around address).toList = false := by
    rw [Quote.around, String.toList_append, String.toList_append]
    cases quote <;> rfl
  have reduced : unwrap ((quote.around address).toList ++ []) = address.toList := unwrap_quoted plain quote nofun
  rw [List.append_nil] at reduced
  -- A quote comes first, so that no word is taken off the address behind it.
  rw [importAddress?_eq, withoutWord_eq_self trimmed other, reduced, given?_eq_some plain.nonempty]

theorem importAddress?_statement (quote : Quote) :
    importAddress? (before ++ ("import " ++ quote.around address ++ ";") ++ after) = some address := by
  have word : ("import " ++ quote.around address ++ ";").toList =
      "import".toList ++ ([' '] ++ ((quote.around address).toList ++ [';']) ++ []) := by simp
  have trimmed : Text.trimChars (before ++ ("import " ++ quote.around address ++ ";") ++ after).toList =
      "import".toList ++ ([' '] ++ ((quote.around address).toList ++ [';']) ++ []) := by
    rw [String.toList_append, String.toList_append, ← word, String.toList_append]
    apply Text.trimChars_around leads trails
    · intro c first
      obtain rfl : 'i' = c := by simpa using first
      rfl
    · intro c last
      obtain rfl : ';' = c := Option.some.inj (List.getLast?_concat.symm.trans last)
      rfl
  have inside : Text.trimChars ([' '] ++ ((quote.around address).toList ++ [';']) ++ []) =
      (quote.around address).toList ++ [';'] := by
    apply Text.trimChars_around_solid rfl rfl
    exact List.forall_mem_append.mpr ⟨around_solid plain quote, List.forall_mem_singleton.mpr rfl⟩
  rw [importAddress?_eq, withoutWord_word trimmed, inside, unwrap_quoted plain quote (by simp),
    given?_eq_some plain.nonempty]

end

/-- An address is read back from every spelling, but for a bare one that begins with the word of a statement. So it is
from the line that a source has for it. -/
theorem importAddress?_spelled {address : String} (plain : IsAddress address) :
    (∀ spelling before after, Text.isBlank before = true → Text.isBlank after = true →
      (importAddress? (before ++ ImportSpelling.write address spelling ++ after) = some address ↔
        (spelling = .bare → Text.beginsWith "import" address = false))) ∧
    importAddress? (Source.importLine address) = some address := by
  refine ⟨fun spelling before after leads trails => ?_, ?_⟩
  · cases spelling with
    | bare =>
      refine ⟨fun same _ => ?_, fun other => importAddress?_bare plain leads trails (other rfl)⟩
      rw [Bool.eq_false_iff]
      intro begins
      obtain ⟨rest, split⟩ := List.isPrefixOf_iff_prefix.mp begins
      rw [ImportSpelling.write, importAddress?_word plain leads trails split.symm] at same
      have length := congrArg List.length (given?_toList same ▸ split)
      rw [List.length_append] at length
      exact absurd length (by simp)
    | quoted quote => exact iff_of_true (importAddress?_quoted plain leads trails quote) nofun
    | statement quote => exact iff_of_true (importAddress?_statement plain leads trails quote) nofun
  · have line : importAddress? ("" ++ ("import " ++ Quote.single.around address ++ ";") ++ "") = some address :=
      importAddress?_statement plain rfl rfl .single
    have start : "import " ++ "'" = "import '" := rfl
    have stop : "'" ++ ";" = "';" := rfl
    rw [String.empty_append, String.append_empty, Quote.around, Quote.text, ← String.append_assoc,
      ← String.append_assoc, start, String.append_assoc, stop] at line
    exact line

theorem imports_shortened : IsAddress "imports/a.dart" ∧
    importAddress? (ImportSpelling.write "imports/a.dart" .bare) = some "s/a.dart" :=
  ⟨⟨by decide, rfl⟩, rfl⟩

theorem intl_spelled : IsAddress "package:intl/intl.dart" ∧
    (∀ spelling before after, Text.isBlank before = true → Text.isBlank after = true →
      (importAddress? (before ++ ImportSpelling.write "package:intl/intl.dart" spelling ++ after) =
        some "package:intl/intl.dart" ↔
          (spelling = .bare → Text.beginsWith "import" "package:intl/intl.dart" = false))) ∧
    importAddress? (Source.importLine "package:intl/intl.dart") = some "package:intl/intl.dart" := by
  have plain : IsAddress "package:intl/intl.dart" := ⟨by decide, rfl⟩
  exact ⟨plain, importAddress?_spelled plain⟩

end Mapping

end WidgetSource
