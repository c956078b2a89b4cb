import WidgetSource.Proofs.Literals

namespace WidgetSource.Dart

variable {runtime breaks : Prop}

theorem isNameChar_of_isWordChar {c : Char} (wordChar : isWordChar c = true) : isNameChar c = true ∧ c ≠ '.' := by
  constructor
  · simp only [isWordChar, Bool.or_eq_true] at wordChar
    rcases wordChar with (letter | digit) | underscore
    · simp [isNameChar, continuesIdentifier, beginsIdentifier, letter]
    · simp [isNameChar, continuesIdentifier, digit]
    · simp [isNameChar, continuesIdentifier, beginsIdentifier, underscore]
  · rintro rfl
    revert wordChar
    decide

theorem isWord_of_wordChars {cs : List Char} (nonempty : cs ≠ []) (wordChars : ∀ c ∈ cs, isWordChar c = true) :
    isWord cs = true ∧ '.' ∉ cs :=
  ⟨isWord_iff.mpr ⟨nonempty, fun c member => (isNameChar_of_isWordChar (wordChars c member)).1⟩,
    fun member => (isNameChar_of_isWordChar (wordChars '.' member)).2 rfl⟩

/-- Hexadecimal digits are among the first characters, which can be checked one by one. -/
theorem forall_hexDigit {P : Char → Prop} (all : ∀ n < 128, isHexDigit (Char.ofNat n) = true → P (Char.ofNat n)) {c : Char}
    (digit : isHexDigit c = true) : P c := by
  have small : c.toNat < 128 := by
    have bounds := digit
    simp only [isHexDigit, isDigit, Bool.or_eq_true, Bool.and_eq_true, decide_eq_true_eq, Char.le_def,
      UInt32.le_iff_toNat_le] at bounds
    rcases bounds with (⟨_, top⟩ | ⟨_, top⟩) | ⟨_, top⟩ <;> exact Nat.lt_of_le_of_lt top (by decide)
  have here := all c.toNat small
  rw [Char.ofNat_toNat] at here
  exact here digit

theorem asciiUpper_isWordChar {c : Char} (digit : isHexDigit c = true) : isWordChar (asciiUpper c) = true :=
  forall_hexDigit (P := fun c => isWordChar (asciiUpper c) = true) (by decide) digit

theorem packedColor_phrase {digits : List Char} (wordChars : ∀ c ∈ digits, isWordChar c = true) :
    Phrase runtime breaks (packedColor digits).toList := by
  have number : Phrase runtime breaks ("0x" ++ String.ofList digits).toList := by
    have all : ∀ c ∈ ("0x" ++ String.ofList digits).toList, isWordChar c = true := by
      simp only [String.toList_append, String.toList_ofList, String.reduceToList, List.forall_mem_append]
      exact ⟨List.all_eq_true.mp (by decide), wordChars⟩
    obtain ⟨isWord, noDot⟩ := isWord_of_wordChars (by simp) all
    exact .word isWord (.inr (isMildCall_of_no_dot noDot).mild)
  have call : Phrase runtime breaks ("Color(0x" ++ String.ofList digits ++ ")").toList :=
    .plainCall "Color" [(none, "0x" ++ String.ofList digits)] (by simp [callChars, labelled]) (by decide)
      (.positional number .nil)
  unfold packedColor
  exact call.constantText (by simp)

theorem fallbackColor_phrase : Phrase runtime breaks fallbackColor.toList := by
  have black : Phrase runtime breaks (packedColor ['F', 'F', '0', '0', '0', '0', '0', '0']).toList :=
    packedColor_phrase (List.all_eq_true.mp (by decide))
  exact black

theorem expandHex_forall {P : Char → Prop} {cs digits : List Char} (full : P 'F')
    (each : ∀ c, isHexDigit c = true → P (asciiUpper c)) (expanded : expandHex cs = some digits) :
    digits.length = 8 ∧ ∀ c ∈ digits, P c := by
  unfold expandHex at expanded
  split at expanded
  · cases expanded
  · rename_i hex
    have upper : ∀ c ∈ cs.map asciiUpper, P c := by
      simp only [Bool.not_eq_true', Bool.not_eq_false, List.all_eq_true] at hex
      exact List.forall_mem_map.mpr fun c member => each c (hex c member)
    split at expanded <;> cases expanded <;> rename_i same <;> rw [same] at upper <;> refine ⟨rfl, ?_⟩
    · simpa [full] using upper
    · simpa [full] using upper
    · simpa using upper

theorem expandHex_wordChars {cs digits : List Char} (expanded : expandHex cs = some digits) :
    ∀ c ∈ digits, isWordChar c = true :=
  (expandHex_forall (P := fun c => isWordChar c = true) (by decide) (fun _ => asciiUpper_isWordChar) expanded).2

theorem toDigits_digitChar (n : Nat) : ∀ c ∈ Nat.toDigits 16 n, ∃ d < 16, c = Nat.digitChar d := by
  induction n using Nat.strongRecOn with
  | _ n ih =>
    rw [Nat.toDigits_eq_if (by decide)]
    split
    · rename_i small
      exact fun c member => ⟨n, small, List.mem_singleton.mp member⟩
    · rename_i large
      refine List.forall_mem_append.mpr ⟨ih (n / 16) (by omega), fun c member => ?_⟩
      exact ⟨n % 16, Nat.mod_lt n (by decide), List.mem_singleton.mp member⟩

theorem packedDigits_wordChars (n : Nat) : ∀ c ∈ packedDigits n, isWordChar c = true := by
  have digit : ∀ d < 16, isWordChar (asciiUpper (Nat.digitChar d)) = true := by decide
  simp only [packedDigits, List.forall_mem_append, List.forall_mem_map]
  refine ⟨fun c member => (List.mem_replicate.mp member).2 ▸ by decide, fun c member => ?_⟩
  obtain ⟨d, small, rfl⟩ := toDigits_digitChar n c member
  exact digit d small

theorem channels_phrase (r g b : Nat) (opacity : Double) :
    Phrase runtime breaks ("const Color.fromRGBO(" ++ ", ".intercalate ([r, g, b].map (fun n : Nat => intText n) ++
      [doubleLiteral opacity]) ++ ")").toList := by
  have parts : [r, g, b].map (fun n : Nat => intText n) ++ [doubleLiteral opacity] =
      [intText r, intText g, intText b, doubleLiteral opacity] := rfl
  rw [parts]
  have call : Phrase runtime breaks ("Color.fromRGBO(" ++
      ", ".intercalate [intText r, intText g, intText b, doubleLiteral opacity] ++ ")").toList :=
    .plainCall "Color.fromRGBO" [(none, intText r), (none, intText g), (none, intText b), (none, doubleLiteral opacity)]
      (by simp [callChars, labelled]) (by decide)
      (.positional (intText_phrase _) (.positional (intText_phrase _) (.positional (intText_phrase _)
        (.positional (doubleLiteral_phrase _) .nil))))
  exact call.constantText (by simp)

theorem channelColor?_cases {token : List Char} {s : String} (found : channelColor? token = some s) :
    ∃ (r g b : Nat) (opacity : Double), (∃ cs rest, scanChannel cs = some (r, rest)) ∧
      (∃ cs rest, scanChannel cs = some (g, rest)) ∧ (∃ cs rest, scanChannel cs = some (b, rest)) ∧
      ((∃ cs rest, scanOpacity cs = some (opacity, rest)) ∨ opacity = .ofInt 1) ∧
      s = "const Color.fromRGBO(" ++ ", ".intercalate ([r, g, b].map (fun n : Nat => intText n) ++
        [doubleLiteral (clampOpacity opacity)]) ++ ")" := by
  simp only [channelColor?, Option.bind_eq_bind, Option.bind_eq_some_iff] at found
  obtain ⟨_, _, ⟨r, _⟩, red, _, _, ⟨g, _⟩, green, _, _, ⟨b, _⟩, blue, color⟩ := found
  split at color
  all_goals
    simp only [Option.bind_eq_some_iff] at color
    obtain ⟨⟨opacity, _⟩, given, color⟩ := color
    split at color
    · cases color
      refine ⟨r, g, b, opacity, ⟨_, _, red⟩, ⟨_, _, green⟩, ⟨_, _, blue⟩, ?_, rfl⟩
      first
      | exact .inl ⟨_, _, given⟩
      | cases given; exact .inr rfl
    · cases color

theorem mem_of_lookup {β : Type} {name : String} {b : β} {entries : List (String × β)}
    (found : entries.lookup name = some b) : ∃ key, (key, b) ∈ entries := by
  obtain ⟨front, back, rfl, _⟩ := List.lookup_eq_some_iff.mp found
  exact ⟨name, List.mem_append_right _ List.mem_cons_self⟩

theorem palette_plain : ∀ entry ∈ palette, isPlainName entry.2.toList = true := by
  refine List.all_eq_true.mp ?_
  simp only [palette, List.all_cons, List.all_nil]
  repeat rw [String.toList_ofList]
  decide +kernel

theorem palette_phrase {name color : String} (found : palette.lookup name = some color) :
    Phrase runtime breaks color.toList := by
  obtain ⟨key, member⟩ := mem_of_lookup found
  have plain := palette_plain (key, color) member
  exact .plain plain

theorem colorOfToken?_cases {text s : String} (written : colorOfToken? text = some s) :
    s = fallbackColor ∨ (∃ cs digits, expandHex cs = some digits ∧ s = packedColor digits) ∨
      (∃ token, channelColor? token = some s) ∨ ∃ name, palette.lookup name = some s := by
  have orFallback {found : Option String} (same : found.getD fallbackColor = s) : s = fallbackColor ∨ found = some s := by
    cases found with
    | none => exact .inl same.symm
    | some color => exact .inr (congrArg some same)
  simp only [colorOfToken?] at written
  split at written
  · cases written
  · split at written
    · cases written
    · split at written <;> have fall := orFallback (Option.some.inj written)
      · refine fall.imp_right fun found => .inl ?_
        obtain ⟨digits, expanded, rfl⟩ := Option.map_eq_some_iff.mp found
        exact ⟨_, digits, expanded, rfl⟩
      · refine fall.imp_right fun found => .inr ?_
        rcases Option.or_eq_some_iff.mp found with channels | ⟨_, named⟩
        · exact .inl ⟨_, channels⟩
        · exact .inr ⟨_, named⟩

theorem colorOfToken?_phrase {text s : String} (written : colorOfToken? text = some s) :
    Phrase runtime breaks s.toList := by
  obtain rfl | ⟨cs, digits, expanded, rfl⟩ | ⟨token, channels⟩ | ⟨name, named⟩ := colorOfToken?_cases written
  · exact fallbackColor_phrase
  · exact packedColor_phrase (expandHex_wordChars expanded)
  · obtain ⟨r, g, b, opacity, -, -, -, -, rfl⟩ := channelColor?_cases channels
    exact channels_phrase r g b (clampOpacity opacity)
  · exact palette_phrase named

theorem colorOf?_phrase {value : Value} {s : String} (written : colorOf? value = some s) :
    Phrase runtime breaks s.toList := by
  cases value with
  | null => cases written
  | text t => exact colorOfToken?_phrase written
  | number x =>
    simp only [colorOf?] at written
    split at written
    · split at written <;> cases written
      · exact packedColor_phrase (packedDigits_wordChars _)
      · exact fallbackColor_phrase
    · cases written
      exact fallbackColor_phrase
  | bool | list | map =>
    cases written
    exact fallbackColor_phrase

theorem uniformInsets_phrase (all : Double) : Phrase runtime breaks (uniformInsets all).toList := by
  unfold uniformInsets
  split
  · exact Phrase.plain (show isPlainName zeroInsets.toList = true by decide)
  · have call : Phrase runtime breaks ("EdgeInsets.all(" ++ doubleLiteral all ++ ")").toList :=
      .plainCall "EdgeInsets.all" [(none, doubleLiteral all)] (by simp [callChars, labelled]) (by decide)
        (.positional (doubleLiteral_phrase all) .nil)
    exact call.constantText (by simp)

theorem sidedInsets_phrase (left top right bottom : Double) :
    Phrase runtime breaks (sidedInsets left top right bottom).toList := by
  have double (x : Double) : Phrase runtime breaks (doubleLiteral x).toList := doubleLiteral_phrase x
  unfold sidedInsets
  split
  · exact uniformInsets_phrase left
  · split
    · have call : Phrase runtime breaks ("EdgeInsets.symmetric(horizontal: " ++ doubleLiteral left ++ ", vertical: " ++
          doubleLiteral top ++ ")").toList :=
        .plainCall "EdgeInsets.symmetric" [(some "horizontal", doubleLiteral left), (some "vertical", doubleLiteral top)]
          (by simp [callChars, labelled]) (by decide)
          (.named (by decide) (by decide) (double left) (.named (by decide) (by decide) (double top) .nil))
      exact call.constantText (by simp)
    · have call : Phrase runtime breaks ("EdgeInsets.fromLTRB(" ++
          ", ".intercalate ([left, top, right, bottom].map doubleLiteral) ++ ")").toList :=
        .plainCall "EdgeInsets.fromLTRB" [(none, doubleLiteral left), (none, doubleLiteral top),
            (none, doubleLiteral right), (none, doubleLiteral bottom)]
          (by simp [callChars, labelled]) (by decide)
          (.positional (double left) (.positional (double top) (.positional (double right)
            (.positional (double bottom) .nil))))
      exact call.constantText (by simp)

theorem insetsOrZero_phrase (value : Value) : Phrase runtime breaks (insetsOrZero value).toList := by
  unfold insetsOrZero
  split
  · exact uniformInsets_phrase _
  · exact .plain (by decide)

theorem insetsOf_phrase (value : Value) : Phrase runtime breaks (insetsOf value).toList := by
  cases value with
  | map fields =>
    simp only [insetsOf]
    split
    · exact insetsOrZero_phrase _
    · split <;> exact sidedInsets_phrase _ _ _ _
  | _ => exact insetsOrZero_phrase _

theorem infix_of_missing_head {d : Char} {ds front rest : List Char} (missing : d ∉ front)
    (inside : d :: ds <:+: front ++ rest) : d :: ds <:+: rest := by
  induction front with
  | nil => exact inside
  | cons c front ih =>
    rw [List.mem_cons, not_or] at missing
    rcases List.infix_cons_iff.mp inside with start | later
    · exact absurd (List.cons_prefix_cons.mp start).1 missing.1
    · exact ih missing.2 later

theorem iconName_phrase {name : List Char} (wordChars : ∀ c ∈ name, isWordChar c = true) :
    Phrase runtime breaks ("Icons.".toList ++ name) := by
  have noDot : '.' ∉ name := fun member => (isNameChar_of_isWordChar (wordChars '.' member)).2 rfl
  have names : ∀ c ∈ "Icons.".toList ++ name, isNameChar c = true := by
    simp only [List.forall_mem_append]
    exact ⟨List.all_eq_true.mp (by decide), fun c member => (isNameChar_of_isWordChar (wordChars c member)).1⟩
  have mild : IsMild ("Icons.".toList ++ name) := fun inside =>
    have behind : matrixName <:+: name := infix_of_missing_head (by decide) inside
    noDot (behind.subset (by decide))
  exact .word (isWord_iff.mpr ⟨by simp, names⟩) (.inr mild)

theorem iconAliases_wordChars : ∀ entry ∈ iconAliases, entry.2.toList.all isWordChar = true := by
  refine List.all_eq_true.mp ?_
  simp only [iconAliases, List.all_cons, List.all_nil]
  repeat rw [String.toList_ofList]
  decide +kernel

theorem iconOf_phrase (name : String) : Phrase runtime breaks (iconOf name).toList := by
  have aliases : ∀ entry ∈ (TokenTable.mk iconAliases "").entries, entry.2.toList.all isWordChar = true :=
    iconAliases_wordChars
  unfold iconOf
  -- Nothing below is to look into the table.
  generalize TokenTable.mk iconAliases "" = table at aliases ⊢
  generalize withoutCollection (Text.trimChars name.toList) = bare
  dsimp only
  split
  · rename_i icon found
    obtain ⟨entry, member, rfl⟩ := TokenTable.mem_of_find? found
    rw [String.toList_append]
    exact iconName_phrase (List.all_eq_true.mp (aliases entry member))
  · split
    · exact Phrase.plain (show isPlainName defaultIcon.toList = true by decide)
    · rename_i c rest kept
      split
      · exact Phrase.plain (show isPlainName defaultIcon.toList = true by decide)
      · have wordChars : ∀ d ∈ c :: rest, isWordChar d = true := by
          rw [← kept]
          exact fun d member => (List.mem_filter.mp member).2
        simpa using iconName_phrase wordChars

theorem identifierOf_isWord {source stem : String} (isStem : stem.toList ≠ [] ∧ ∀ c ∈ stem.toList, isWordChar c = true) :
    isWord (identifierOf source stem).toList = true ∧ '.' ∉ (identifierOf source stem).toList := by
  unfold identifierOf
  split
  · exact isWord_of_wordChars isStem.1 isStem.2
  · rename_i c rest kept
    have wordChars : ∀ d ∈ c :: rest, isWordChar d = true := by
      rw [← kept]
      exact fun d member => (List.mem_filter.mp member).2
    split
    · refine isWord_of_wordChars (by simp) fun d member => ?_
      rw [String.toList_append, String.toList_ofList] at member
      exact (List.mem_append.mp member).elim (isStem.2 d) (wordChars d)
    · refine isWord_of_wordChars (by simp) fun d member => ?_
      rw [String.toList_ofList] at member
      exact wordChars d member

theorem doubleField_phrase (value : Value) (name : String) (fallback : Double) :
    Phrase runtime breaks (doubleField value name fallback).toList :=
  doubleLiteral_phrase _

theorem colorField_phrase (value : Value) (name : String) : Phrase runtime breaks (colorField value name).toList := by
  unfold colorField
  cases found : (value.field? name).bind colorOf? with
  | none => exact fallbackColor_phrase
  | some color =>
    obtain ⟨_, _, written⟩ := Option.bind_eq_some_iff.mp found
    exact colorOf?_phrase written

theorem borderOf_phrase (value : Value) : Phrase runtime breaks (borderOf value).toList := by
  have border {side : String} (phrase : Phrase runtime breaks side.toList) :
      Phrase runtime breaks ("Border.fromBorderSide(" ++ side ++ ")").toList :=
    .plainCall "Border.fromBorderSide" [(none, side)] (by simp [callChars, labelled]) (by decide)
      (.positional phrase .nil)
  unfold borderOf
  split
  · rename_i value fields
    refine border (.plainCall "BorderSide" [(some "color", colorField (.map fields) "color"),
      (some "width", doubleField (.map fields) "width" (.ofInt 1))] (by simp [callChars, labelled]) (by decide) ?_)
    exact .named (by decide) (by decide) (colorField_phrase _ _)
      (.named (by decide) (by decide) (doubleField_phrase _ _ _) .nil)
  · rename_i value width
    refine border (.plainCall "BorderSide" [(some "width", doubleLiteral width)] (by simp [callChars, labelled])
      (by decide) ?_)
    exact .named (by decide) (by decide) (doubleLiteral_phrase _) .nil
  · exact border (.plainCall "BorderSide" [] (by simp [callChars]) (by decide) .nil)

theorem circularRadius_phrase {radius : String} (phrase : Phrase runtime breaks radius.toList) :
    Phrase runtime breaks ("Radius.circular(" ++ radius ++ ")").toList :=
  .plainCall "Radius.circular" [(none, radius)] (by simp [callChars, labelled]) (by decide) (.positional phrase .nil)

theorem uniformRadius_phrase (radius : Double) : Phrase runtime breaks (uniformRadius radius).toList := by
  unfold uniformRadius
  exact .plainCall "BorderRadius.all" [(none, "Radius.circular(" ++ doubleLiteral radius ++ ")")]
    (by simp [callChars, labelled]) (by decide)
    (.positional (circularRadius_phrase (doubleLiteral_phrase radius)) .nil)

theorem borderRadiusOf_phrase (value : Value) : Phrase runtime breaks (borderRadiusOf value).toList := by
  unfold borderRadiusOf
  split
  · exact uniformRadius_phrase _
  · split
    · rename_i fields _
      have corner (name : String) :
          Phrase runtime breaks ("Radius.circular(" ++ doubleField (.map fields) name .zero ++ ")").toList :=
        circularRadius_phrase (doubleField_phrase (.map fields) name .zero)
      refine .plainCall "BorderRadius.only" (["topLeft", "topRight", "bottomLeft", "bottomRight"].map fun name =>
        (some name, "Radius.circular(" ++ doubleField (.map fields) name .zero ++ ")"))
        (by simp [callChars, labelled]) (by decide) ?_
      exact .named (by decide) (by decide) (corner _) (.named (by decide) (by decide) (corner _)
        (.named (by decide) (by decide) (corner _) (.named (by decide) (by decide) (corner _) .nil)))
    · exact .plain (by decide)

theorem shadowOf_phrase (value : Value) : Phrase runtime breaks (shadowOf value).toList := by
  have double (name : String) : Phrase runtime breaks (doubleField value name .zero).toList := doubleField_phrase _ _ _
  have color : Phrase runtime breaks (colorField value "color").toList := colorField_phrase _ _
  unfold shadowOf
  generalize doubleField value = field at double ⊢
  generalize colorField value "color" = colorText at color ⊢
  have offset :
      Phrase runtime breaks ("Offset(" ++ field "offsetX" .zero ++ ", " ++ field "offsetY" .zero ++ ")").toList :=
    .plainCall "Offset" [(none, field "offsetX" .zero), (none, field "offsetY" .zero)]
      (by simp [callChars, labelled]) (by decide) (.positional (double _) (.positional (double _) .nil))
  refine .plainCall "BoxShadow" [(some "color", colorText),
    (some "offset", "Offset(" ++ field "offsetX" .zero ++ ", " ++ field "offsetY" .zero ++ ")"),
    (some "blurRadius", field "blurRadius" .zero), (some "spreadRadius", field "spreadRadius" .zero)]
    (by simp [callChars, labelled]) (by decide) ?_
  exact .named (by decide) (by decide) color (.named (by decide) (by decide) offset
    (.named (by decide) (by decide) (double _) (.named (by decide) (by decide) (double _) .nil)))

theorem boxShadowOf_phrased (value : Value) : (boxShadowOf value).Phrased runtime := by
  unfold boxShadowOf
  split
  · have none : Phrase runtime False ('<' :: ("BoxShadow".toList ++ ">[]".toList)) :=
      .noItems (by decide) (.inr (isMild_of_plain (by decide)))
    exact .text (by simpa using none.constant)
  · exact .list (List.forall_mem_map.mpr fun shadow _ => .text (shadowOf_phrase shadow))

theorem defaultGradient_phrase : ∀ color ∈ defaultGradient, Phrase runtime breaks color.toList := by
  have white : Phrase runtime breaks (packedColor ['F', 'F', 'F', 'F', 'F', 'F', 'F', 'F']).toList :=
    packedColor_phrase (List.all_eq_true.mp (by decide))
  have black : Phrase runtime breaks (packedColor ['F', 'F', '0', '0', '0', '0', '0', '0']).toList :=
    packedColor_phrase (List.all_eq_true.mp (by decide))
  intro color member
  simp only [defaultGradient, List.mem_cons, List.not_mem_nil, or_false] at member
  rcases member with rfl | rfl
  · exact white
  · exact black

theorem gradientOf_phrase (value : Value) : Phrase runtime breaks (gradientOf value).toList := by
  have given (values : List Value) : ∀ color ∈ values.filterMap colorOf?, Phrase runtime breaks color.toList := by
    intro color member
    obtain ⟨_, _, written⟩ := List.mem_filterMap.mp member
    exact colorOf?_phrase written
  have colors (values : List Value) : Phrase runtime breaks ("[" ++ ", ".intercalate
      (if (values.filterMap colorOf?).isEmpty then defaultGradient else values.filterMap colorOf?) ++ "]").toList := by
    refine .plainList ?_
    split
    · exact defaultGradient_phrase
    · exact given values
  have only (name : String) {items : List String} (plain : isPlainCall name.toList = true)
      (list : Phrase runtime breaks ("[" ++ ", ".intercalate items ++ "]").toList) :
      Phrase runtime breaks (name ++ "(" ++ ("colors: [" ++ ", ".intercalate items ++ "]") ++ ")").toList :=
    .plainCall name [(some "colors", "[" ++ ", ".intercalate items ++ "]")] (by simp [callChars, labelled]) plain
      (.named (by decide) (by decide) list .nil)
  have linear {start stop : String} {items : List String} (startPhrase : Phrase runtime breaks start.toList)
      (stopPhrase : Phrase runtime breaks stop.toList)
      (list : Phrase runtime breaks ("[" ++ ", ".intercalate items ++ "]").toList) :
      Phrase runtime breaks ("LinearGradient(begin: " ++ start ++ ", end: " ++ stop ++ ", " ++
        ("colors: [" ++ ", ".intercalate items ++ "]") ++ ")").toList :=
    .plainCall "LinearGradient" [(some "begin", start), (some "end", stop),
      (some "colors", "[" ++ ", ".intercalate items ++ "]")] (by simp [callChars, labelled]) (by decide)
      (.named (by decide) (by decide) startPhrase (.named (by decide) (by decide) stopPhrase
        (.named (by decide) (by decide) list .nil)))
  have aligned (word : String) : Phrase runtime breaks (alignments.read word).toList :=
    word_phrase (by simp [plainTables]) word
  unfold gradientOf
  dsimp only
  split
  · exact only "RadialGradient" (by decide) (colors _)
  · exact linear (aligned _) (aligned _) (colors _)
  · exact only "LinearGradient" (by decide) (colors _)

theorem Arguments.filterMap {names : List String} {value? : String → Option String}
    (labels : ∀ name ∈ names, isIdentifier name = true ∧ isDynamicName name = false)
    (values : ∀ name value, value? name = some value → Phrase runtime breaks value.toList) :
    Arguments runtime breaks (names.filterMap fun name => (value? name).map fun value => (some name, value)) := by
  induction names with
  | nil => exact .nil
  | cons name names ih =>
    have later := ih fun other member => labels other (List.mem_cons_of_mem _ member)
    obtain ⟨identifier, static⟩ := labels name List.mem_cons_self
    cases found : value? name with
    | none => simpa [List.filterMap_cons, found] using later
    | some value =>
      simpa [List.filterMap_cons, found] using Arguments.named identifier static (values name value found) later

theorem constraintsOf_phrase (value : Value) : Phrase runtime breaks (constraintsOf value).toList := by
  have arguments : Arguments runtime breaks (["minWidth", "maxWidth", "minHeight", "maxHeight"].filterMap fun name =>
      ((value.field? name).bind dimensionOf?).map fun bound => (some name, bound)) := by
    refine .filterMap (by decide) fun name bound found => ?_
    obtain ⟨_, _, written⟩ := Option.bind_eq_some_iff.mp found
    exact dimensionOf?_phrase written
  unfold constraintsOf
  generalize ["minWidth", "maxWidth", "minHeight", "maxHeight"] = names at arguments ⊢
  dsimp only
  split
  · exact (emptyCall_phrase "BoxConstraints" (by decide)).constantText (by simp)
  · refine .plainCall "BoxConstraints" _ ?_ (by decide) arguments
    simp [callChars, String.toList_intercalate, List.map_filterMap, Function.comp_def, labelled]

theorem transformOf_phrase (known : runtime) (value : Value) : Phrase runtime breaks (transformOf value).toList := by
  have double (x : Double) : Phrase runtime breaks (doubleLiteral x).toList := doubleLiteral_phrase x
  have matrix (name : String) (args : List (Option String × String)) {text : String}
      (same : text.toList = callChars name args) (isName : isWord name.toList = true)
      (arguments : Arguments runtime breaks args) : Phrase runtime breaks text.toList :=
    same ▸ .inline isName (.inl known) arguments
  unfold transformOf
  split
  · rename_i angle _
    exact matrix "Matrix4.rotationZ" [(none, doubleLiteral angle)] (by simp [callChars, labelled]) (by decide)
      (.positional (double angle) .nil)
  · rename_i scale _ _
    exact matrix "Matrix4.diagonal3Values" [(none, doubleLiteral scale), (none, doubleLiteral scale), (none, "1.0")]
      (by simp [callChars, labelled]) (by decide)
      (.positional (double scale) (.positional (double scale) (.positional (.plain (by decide)) .nil)))
  · rename_i offset _ _ _
    exact matrix "Matrix4.translationValues" [(none, doubleField (.map offset) "x" .zero),
      (none, doubleField (.map offset) "y" .zero), (none, "0.0")] (by simp [callChars, labelled]) (by decide)
      (.positional (doubleField_phrase _ _ _) (.positional (doubleField_phrase _ _ _)
        (.positional (.plain (by decide)) .nil)))
  · exact matrix "Matrix4.identity" [] (by simp [callChars]) (by decide) .nil

end WidgetSource.Dart
