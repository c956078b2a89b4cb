import WidgetSource.Proofs.Decorations

namespace WidgetSource.Dart

variable {runtime breaks : Prop}

def FieldPhrased (runtime : Prop) (field : String × Expr) : Prop :=
  isIdentifier field.1 = true ∧ (runtime ∨ isDynamicName field.1 = false) ∧ field.2.Phrased runtime

theorem Expr.Phrased.ofArgs {name : String} {fields : List (String × Expr)} (isName : isWord name.toList = true)
    (mild : runtime ∨ IsMildCall name.toList) (phrased : ∀ field ∈ fields, FieldPhrased runtime field) :
    (Expr.ofArgs name fields).Phrased runtime := by
  refine .call isName mild (fun _ member => by cases member) (List.forall_mem_map.mpr fun field member => ?_)
    (List.forall_mem_map.mpr fun field member => (phrased field member).2.2)
  exact ⟨(phrased field member).1, allowed_of_static (phrased field member).2.1⟩

theorem given_phrased {args : List (Option (String × Expr))}
    (phrased : ∀ arg ∈ args, ∀ field ∈ arg, FieldPhrased runtime field) :
    ∀ field ∈ given args, FieldPhrased runtime field := by
  intro field member
  obtain ⟨arg, inside, same⟩ := List.mem_filterMap.mp member
  exact phrased arg inside field same

theorem argument?_phrased {name : String} {value : Option String} (identifier : isIdentifier name = true)
    (static : isDynamicName name = false) (phrase : ∀ s, value = some s → Phrase runtime False s.toList) :
    ∀ field ∈ argument? name value, FieldPhrased runtime field := by
  intro field member
  obtain ⟨s, found, rfl⟩ := Option.map_eq_some_iff.mp member
  exact ⟨identifier, .inr static, .text (phrase s found)⟩

theorem phrase_of_bind {α : Type} {found : Option α} {f : α → Option String}
    (phrases : ∀ a s, f a = some s → Phrase runtime breaks s.toList) (s : String) (same : found.bind f = some s) :
    Phrase runtime breaks s.toList := by
  obtain ⟨a, _, written⟩ := Option.bind_eq_some_iff.mp same
  exact phrases a s written

theorem phrase_of_map {α : Type} {found : Option α} {f : α → String}
    (phrases : ∀ a, Phrase runtime breaks (f a).toList) (s : String) (same : found.map f = some s) :
    Phrase runtime breaks s.toList := by
  obtain ⟨a, _, rfl⟩ := Option.map_eq_some_iff.mp same
  exact phrases a

theorem decorationOf_phrased (value : Value) : (decorationOf value).Phrased runtime := by
  have shadows (found : Option Value) :
      ∀ field ∈ found.map (fun shadows => ("boxShadow", boxShadowOf shadows)), FieldPhrased runtime field := by
    have isLabel : isIdentifier "boxShadow" = true ∧ isDynamicName "boxShadow" = false := by decide
    intro field member
    obtain ⟨given, _, rfl⟩ := Option.map_eq_some_iff.mp member
    exact ⟨isLabel.1, .inr isLabel.2, boxShadowOf_phrased given⟩
  unfold decorationOf
  generalize (fun name => (value.field? name).filter (·.isTruthy)) = set
  dsimp only
  split
  · exact .text ((emptyCall_phrase "BoxDecoration" (by decide)).constantText (by simp))
  · refine .ofArgs (by decide) (.inr (isMildCall_of_plain (by decide))) (given_phrased ?_)
    simp only [List.forall_mem_cons]
    exact ⟨argument?_phrased (by decide) (by decide) (phrase_of_bind fun _ _ => colorOf?_phrase),
      argument?_phrased (by decide) (by decide) (phrase_of_map borderOf_phrase),
      argument?_phrased (by decide) (by decide) (phrase_of_map borderRadiusOf_phrase), shadows (set "boxShadow"),
      argument?_phrased (by decide) (by decide) (phrase_of_map gradientOf_phrase),
      fun _ none => absurd none List.not_mem_nil⟩

theorem styleArgs_phrased (properties : Fields Value) : ∀ field ∈ styleArgs properties, FieldPhrased runtime field := by
  have word {table : TokenTable} (known : table ∈ plainTables) (s : String) :
      Phrase runtime False (table.read s).toList := word_phrase known s
  unfold styleArgs
  generalize styleField properties = field
  refine given_phrased ?_
  simp only [List.forall_mem_cons]
  exact ⟨argument?_phrased (by decide) (by decide) (phrase_of_bind fun _ _ => doubleOf?_phrase),
    argument?_phrased (by decide) (by decide) (phrase_of_bind fun _ _ => colorOf?_phrase),
    argument?_phrased (by decide) (by decide) (phrase_of_map fontWeightOf_phrase),
    argument?_phrased (by decide) (by decide) (phrase_of_map (word (by simp [plainTables]))),
    argument?_phrased (by decide) (by decide) (phrase_of_bind fun _ _ => doubleOf?_phrase),
    argument?_phrased (by decide) (by decide) (phrase_of_bind fun _ _ => doubleOf?_phrase),
    argument?_phrased (by decide) (by decide) (phrase_of_bind fun _ _ => doubleOf?_phrase),
    argument?_phrased (by decide) (by decide) (phrase_of_map (word (by simp [plainTables]))),
    argument?_phrased (by decide) (by decide) (phrase_of_bind fun _ _ => colorOf?_phrase),
    argument?_phrased (by decide) (by decide) (phrase_of_map textLiteral_phrase),
    fun _ none => absurd none List.not_mem_nil⟩

theorem textStyleOf?_phrased {properties : Fields Value} {expr : Expr} (found : textStyleOf? properties = some expr) :
    expr.Phrased runtime := by
  have args : ∀ field ∈ styleArgs properties, FieldPhrased runtime field := styleArgs_phrased properties
  unfold textStyleOf? at found
  generalize styleArgs properties = fields at args found
  cases fields with
  | nil => cases found
  | cons field fields =>
    cases found
    exact .ofArgs (by decide) (.inr (isMildCall_of_plain (by decide))) args

theorem plainProperty?_phrase {name : String} {value : Value} {s : String}
    (written : plainProperty? name value = some s) : Phrase runtime breaks s.toList := by
  cases value with
  | text word =>
    simp only [plainProperty?] at written
    split at written
    · rename_i table known
      cases written
      exact tokensOf?_phrase known word
    · cases written
      split
      · exact iconOf_phrase word
      · exact textLiteral_phrase word
  | bool b =>
    cases written
    exact boolText_phrase b
  | number x =>
    cases written
    exact doubleLiteral_phrase x
  | _ => cases written

theorem propertyOf?_phrased {name : String} {value : Value} {expr : Expr} (transforms : name = "transform" → runtime)
    (found : propertyOf? name value = some expr) : expr.Phrased runtime := by
  have text {written : Option String} (phrases : ∀ s, written = some s → Phrase runtime False s.toList)
      (same : written.map .text = some expr) : expr.Phrased runtime := by
    obtain ⟨s, given, rfl⟩ := Option.map_eq_some_iff.mp same
    exact .text (phrases s given)
  unfold propertyOf? at found
  split at found
  · cases found
  · split at found
    case h_10 | h_11 => exact text (fun _ => dimensionOf?_phrase) found
    case h_12 =>
      split at found
      · exact text (fun _ => colorOf?_phrase) found
      · exact text (fun _ => plainProperty?_phrase) found
    all_goals cases found
    · exact .text (insetsOf_phrase _)
    · exact .text (insetsOf_phrase _)
    · exact decorationOf_phrased _
    · exact .text (borderOf_phrase _)
    · exact .text (borderRadiusOf_phrase _)
    · exact boxShadowOf_phrased _
    · exact .text (gradientOf_phrase _)
    · exact .text (constraintsOf_phrase _)
    · exact .text (transformOf_phrase (transforms rfl) _)

end WidgetSource.Dart
