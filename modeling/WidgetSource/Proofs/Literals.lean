import WidgetSource.Dart.Property
import WidgetSource.Proofs.Phrases

namespace WidgetSource.Dart

variable {runtime breaks : Prop}

def isPlainName (cs : List Char) : Bool :=
  isWord cs && !(cs.contains '4' && cs.contains 'x')

def isPlainCall (name : List Char) : Bool :=
  isPlainName name && !styleName.isSuffixOf name && !translationsName.isSuffixOf name

theorem isMild_of_plain {cs : List Char} (plain : isPlainName cs = true) : IsMild cs := by
  simp only [isPlainName, Bool.and_eq_true, Bool.not_eq_true', Bool.and_eq_false_iff] at plain
  have four : '4' ∈ matrixName := by decide
  have letter : 'x' ∈ matrixName := by decide
  rcases plain.2 with missing | missing
  · exact isMild_of_missing four (by simpa using missing)
  · exact isMild_of_missing letter (by simpa using missing)

theorem isMildCall_of_plain {name : List Char} (plain : isPlainCall name = true) : IsMildCall name := by
  simp only [isPlainCall, Bool.and_eq_true, Bool.not_eq_true'] at plain
  obtain ⟨⟨isName, noStyle⟩, noTranslations⟩ := plain
  refine ⟨isMild_of_plain isName, ?_, ?_⟩
  · rw [← List.isSuffixOf_iff_suffix, noStyle]
    exact Bool.false_ne_true
  · rw [← List.isSuffixOf_iff_suffix, noTranslations]
    exact Bool.false_ne_true

theorem isWord_of_plainCall {name : List Char} (plain : isPlainCall name = true) : isWord name = true := by
  simp only [isPlainCall, isPlainName, Bool.and_eq_true] at plain
  exact plain.1.1.1

namespace Phrase

theorem plain {cs : List Char} (plain : isPlainName cs = true) : Phrase runtime breaks cs :=
  .word (Bool.and_eq_true_iff.mp plain).1 (.inr (isMild_of_plain plain))

theorem plainCall (name : String) (args : List (Option String × String)) {text : String}
    (same : text.toList = callChars name args) (plain : isPlainCall name.toList = true)
    (arguments : Arguments runtime breaks args) : Phrase runtime breaks text.toList := by
  rw [same]
  exact .inline (isWord_of_plainCall plain) (.inr (isMildCall_of_plain plain)) arguments

theorem plainList {items : List String} (phrases : ∀ item ∈ items, Phrase runtime breaks item.toList) :
    Phrase runtime breaks ("[" ++ ", ".intercalate items ++ "]").toList := by
  have woven : Woven breaks ']' (items.map String.toList)
      ([] ++ (", ".toList.intercalate (items.map String.toList) ++ [']'])) :=
    .joined ']' _ fun c member => absurd member List.not_mem_nil
  have whole := Phrase.list (List.forall_mem_map.mpr phrases) woven
  simpa [String.toList_intercalate] using whole

theorem constantText {s text : String} (phrase : Phrase runtime breaks s.toList)
    (same : text.toList = "const ".toList ++ s.toList) : Phrase runtime breaks text.toList := by
  rw [same]
  exact .constant phrase

end Phrase

def IsNumeral (cs : List Char) : Prop :=
  cs ≠ [] ∧ ∀ c ∈ cs, isDigit c = true ∨ c = '.'

theorem IsNumeral.isWord {cs : List Char} (numeral : IsNumeral cs) : isWord cs = true := by
  refine isWord_iff.mpr ⟨numeral.1, fun c member => ?_⟩
  rcases numeral.2 c member with digit | rfl
  · simp [isNameChar, continuesIdentifier, digit]
  · rfl

theorem IsNumeral.isMild {cs : List Char} (numeral : IsNumeral cs) : IsMild cs := by
  have letter : 'x' ∈ matrixName := by decide
  refine isMild_of_missing letter fun member => ?_
  rcases numeral.2 'x' member with digit | point
  · revert digit; decide
  · revert point; decide

theorem IsNumeral.append {cs ds : List Char} (numeral : IsNumeral cs) (more : ∀ c ∈ ds, isDigit c = true ∨ c = '.') :
    IsNumeral (cs ++ ds) :=
  ⟨List.append_ne_nil_of_left_ne_nil numeral.1 ds,
    fun c member => (List.mem_append.mp member).elim (numeral.2 c) (more c)⟩

theorem natDigits_isDigit {n : Nat} {c : Char} (member : c ∈ natDigits n) : isDigit c = true := by
  have digit := Nat.isDigit_of_mem_toDigits (by decide) (by decide) member
  simpa [isDigit, Char.isDigit, Char.le_def] using digit

theorem natDigits_isNumeral (n : Nat) : IsNumeral (natDigits n) :=
  ⟨Nat.toDigits_ne_nil, fun _ member => .inl (natDigits_isDigit member)⟩

theorem zeros_isDigit {n : Nat} {c : Char} (member : c ∈ (zeros n).toList) : isDigit c = true := by
  simp only [zeros, String.toList_ofList, List.mem_replicate] at member
  rw [member.2]
  decide

theorem positional_isNumeral (d : ShortDecimal) : IsNumeral d.positional.toList := by
  have digit (c : Char) (member : c ∈ natDigits d.digits) : isDigit c = true ∨ c = '.' := .inl (natDigits_isDigit member)
  have zero (n : Nat) (c : Char) (member : c ∈ (zeros n).toList) : isDigit c = true ∨ c = '.' :=
    .inl (zeros_isDigit member)
  simp only [ShortDecimal.positional]
  split
  · rw [String.toList_append, String.toList_ofList]
    exact (natDigits_isNumeral d.digits).append (zero _)
  · split
    · refine ⟨by simp, fun c member => ?_⟩
      simp only [String.toList_append, String.toList_ofList, List.mem_append] at member
      rcases member with (whole | point) | fraction
      · exact digit c (List.mem_of_mem_take whole)
      · exact .inr (List.mem_singleton.mp point)
      · exact digit c (List.mem_of_mem_drop fraction)
    · have start : IsNumeral "0.".toList := ⟨by simp, by simp [isDigit]⟩
      rw [String.toList_append, String.toList_append]
      exact (start.append (zero _)).append (by simpa using digit)

theorem Phrase.numeral {cs : List Char} (numeral : IsNumeral cs) (negative : Bool) :
    Phrase runtime breaks ((Double.signText negative).toList ++ cs) := by
  cases negative with
  | false => simpa [Double.signText] using Phrase.word numeral.isWord (.inr numeral.isMild)
  | true => simpa [Double.signText] using Phrase.negative numeral.isWord (.inr numeral.isMild)

theorem intText_phrase (n : Int) : Phrase runtime breaks (intText n).toList := by
  have digits : Phrase runtime breaks ((Double.signText (decide (n < 0))).toList ++ natDigits n.natAbs) :=
    .numeral (natDigits_isNumeral n.natAbs) (decide (n < 0))
  by_cases negative : n < 0 <;> simpa [intText, negative, Double.signText] using digits

theorem integralText_phrase (negative : Bool) (exponent : Fin 2047) (fraction : Fin Double.fractionCount) :
    Phrase runtime breaks (Double.integralText (.finite negative exponent fraction)).toList := by
  have point (c : Char) (member : c ∈ ".0".toList) : isDigit c = true ∨ c = '.' := by
    simp only [String.reduceToList, List.mem_cons, List.not_mem_nil, or_false] at member
    rcases member with rfl | rfl <;> decide
  have digits := (natDigits_isNumeral
    ((Double.quotient exponent fraction).1 / (Double.quotient exponent fraction).2)).append point
  simpa [Double.integralText] using Phrase.numeral digits negative

theorem plainText_phrase (negative : Bool) (exponent : Fin 2047) (fraction : Fin Double.fractionCount) :
    Phrase runtime breaks (Double.plainText (.finite negative exponent fraction)).toList := by
  have zero : IsNumeral "0".toList := ⟨by simp, by simp [isDigit]⟩
  simp only [Double.plainText, String.toList_append]
  split
  · exact Phrase.numeral zero negative
  · exact Phrase.numeral (positional_isNumeral _) negative

theorem doubleLiteral_phrase (x : Double) : Phrase runtime breaks (doubleLiteral x).toList := by
  cases x with
  | nan => exact .plain (by decide)
  | infinite negative => cases negative <;> exact .plain (by decide)
  | finite negative exponent fraction =>
    cases integral : (Double.finite negative exponent fraction).isIntegral with
    | true => simpa [doubleLiteral, integral] using integralText_phrase negative exponent fraction
    | false => simpa [doubleLiteral, integral] using plainText_phrase negative exponent fraction

theorem numberLiteral_phrase (x : Double) : Phrase runtime breaks (numberLiteral x).toList := by
  unfold numberLiteral
  split
  · split
    · exact intText_phrase _
    · exact doubleLiteral_phrase x
  · exact doubleLiteral_phrase x

theorem doubleOf?_phrase {value : Value} {s : String} (written : doubleOf? value = some s) :
    Phrase runtime breaks s.toList := by
  obtain ⟨x, _, rfl⟩ := Option.map_eq_some_iff.mp written
  exact doubleLiteral_phrase x

theorem integerOf?_phrase {value : Value} {s : String} (written : integerOf? value = some s) :
    Phrase runtime breaks s.toList := by
  obtain ⟨n, _, rfl⟩ := Option.map_eq_some_iff.mp written
  exact intText_phrase _

theorem dimensionOf?_phrase {value : Value} {s : String} (written : dimensionOf? value = some s) :
    Phrase runtime breaks s.toList := by
  simp only [dimensionOf?] at written
  split at written
  · split at written
    · cases written
      exact .plain (by decide)
    · exact doubleOf?_phrase written
  · exact doubleOf?_phrase written

theorem boolText_phrase (b : Bool) : Phrase runtime breaks (boolText b).toList := by
  cases b <;> exact .plain (by decide)

theorem boolOf?_phrase {value : Value} {s : String} (written : boolOf? value = some s) :
    Phrase runtime breaks s.toList := by
  cases value with
  | bool b =>
    cases written
    exact boolText_phrase b
  | text word =>
    simp only [boolOf?] at written
    split at written <;> cases written <;> exact .plain (by decide)
  | _ => cases written

theorem textLiteral_phrase (s : String) : Phrase runtime breaks (textLiteral s).toList := by
  simpa [textLiteral] using Phrase.literal (escapeText_escaped s.toList)

theorem textOf_phrase (value : Value) : Phrase runtime breaks (textOf value).toList := by
  cases value with
  | text s =>
    simp only [textOf]
    split <;> exact textLiteral_phrase _
  | _ => exact textLiteral_phrase _

theorem TokenTable.mem_of_find? {table : TokenTable} {word literal : String} (found : table.find? word = some literal) :
    ∃ entry ∈ table.entries, entry.2 = literal := by
  simp only [TokenTable.find?, Option.map_eq_some_iff] at found
  obtain ⟨entry, known, same⟩ := found
  exact ⟨entry, List.mem_of_find?_eq_some known, same⟩

theorem read_phrase {table : TokenTable} (fallback : Phrase runtime breaks table.fallback.toList)
    (entries : ∀ entry ∈ table.entries, Phrase runtime breaks entry.2.toList) (word : String) :
    Phrase runtime breaks (table.read word).toList := by
  unfold TokenTable.read
  cases found : table.find? word with
  | none => exact fallback
  | some literal =>
    obtain ⟨entry, member, rfl⟩ := TokenTable.mem_of_find? found
    exact entries entry member

def TokenTable.isPlain (table : TokenTable) : Bool :=
  isPlainName table.fallback.toList && table.entries.all fun entry => isPlainName entry.2.toList

def plainTables : List TokenTable :=
  [alignments, mainAxisAlignments, crossAxisAlignments, mainAxisSizes, textAligns, textOverflows, fontWeights,
    fontStyles, textDecorations, boxFits, axes, stackFits, flexFits, wrapAlignments, keyboardTypes]

theorem plainTables_plain : ∀ table ∈ plainTables, table.isPlain = true := by
  simp only [plainTables, List.forall_mem_cons]
  refine ⟨?_, ?_, ?_, ?_, ?_, ?_, ?_, ?_, ?_, ?_, ?_, ?_, ?_, ?_, ?_, fun _ none => absurd none List.not_mem_nil⟩
  all_goals
    simp only [TokenTable.isPlain, alignments, mainAxisAlignments, crossAxisAlignments, mainAxisSizes, textAligns,
      textOverflows, fontWeights, fontStyles, textDecorations, boxFits, axes, stackFits, flexFits, wrapAlignments,
      keyboardTypes, members, weightNumbers, List.map_append, List.map_cons, List.map_nil, List.all_append,
      List.all_cons, List.all_nil, String.toList_append]
    -- The kernel is slow at reading the characters of a text; it is given them as a list.
    repeat rw [String.toList_ofList]
    decide +kernel

theorem word_phrase {table : TokenTable} (member : table ∈ plainTables) (word : String) :
    Phrase runtime breaks (table.read word).toList := by
  have plain := plainTables_plain table member
  simp only [TokenTable.isPlain, Bool.and_eq_true, List.all_eq_true] at plain
  exact read_phrase (.plain plain.1) (fun entry member => .plain (plain.2 entry member)) word

theorem emptyCall_phrase (name : String) (plain : isPlainCall name.toList = true) :
    Phrase runtime breaks (name ++ "()").toList :=
  .plainCall name [] (by simp [callChars]) plain .nil

theorem scrollPhysics_phrase (word : String) : Phrase runtime breaks (scrollPhysics.read word).toList := by
  refine read_phrase (emptyCall_phrase "BouncingScrollPhysics" (by decide)) (fun entry member => ?_) word
  simp only [scrollPhysics, List.mem_cons, List.not_mem_nil, or_false] at member
  rcases member with rfl | rfl | rfl | rfl
  · exact emptyCall_phrase "NeverScrollableScrollPhysics" (by decide)
  · exact emptyCall_phrase "BouncingScrollPhysics" (by decide)
  · exact emptyCall_phrase "ClampingScrollPhysics" (by decide)
  · exact emptyCall_phrase "AlwaysScrollableScrollPhysics" (by decide)

theorem tokensOf?_phrase {name : String} {table : TokenTable} (known : tokensOf? name = some table) (word : String) :
    Phrase runtime breaks (table.read word).toList := by
  unfold tokensOf? at known
  have plain (other : TokenTable) (member : other ∈ plainTables) (same : some other = some table) :
      Phrase runtime breaks (table.read word).toList := by
    cases same
    exact word_phrase member word
  split at known
  case h_13 =>
    cases known
    exact scrollPhysics_phrase word
  case h_14 => cases known
  all_goals exact plain _ (by simp [plainTables]) known

theorem fontWeightOf_phrase (value : Value) : Phrase runtime breaks (fontWeightOf value).toList := by
  have known : fontWeights ∈ plainTables := by simp [plainTables]
  cases value with
  | text s => exact word_phrase known s
  | number x => exact word_phrase known _
  | _ => exact Phrase.plain (show isPlainName fontWeights.fallback.toList = true by decide)

end WidgetSource.Dart
