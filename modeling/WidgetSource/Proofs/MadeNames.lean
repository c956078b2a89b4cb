import WidgetSource.Form.Mapped
import WidgetSource.Form.Screen
import WidgetSource.Proofs.Literals

namespace WidgetSource

namespace Dart

def isBareIdentifier (s : String) : Bool :=
  match s.toList with
  | [] => false
  | c :: rest => (isAsciiLetter c || c == '_') && rest.all isWordChar

def IsIconConstant (s : String) : Prop :=
  ∃ name, isBareIdentifier name = true ∧ s = "Icons." ++ name

theorem isBareIdentifier_iff {s : String} : isBareIdentifier s = true ↔
    ∃ c rest, s.toList = c :: rest ∧ (isAsciiLetter c = true ∨ c = '_') ∧ ∀ d ∈ rest, isWordChar d = true := by
  unfold isBareIdentifier
  cases s.toList with
  | nil => simp
  | cons c rest => simp [and_assoc]

theorem isBareIdentifier_ofList {c : Char} {rest : List Char} (words : ∀ d ∈ c :: rest, isWordChar d = true)
    (noDigit : isDigit c = false) : isBareIdentifier (String.ofList (c :: rest)) = true := by
  obtain ⟨first, later⟩ := List.forall_mem_cons.mp words
  refine isBareIdentifier_iff.mpr ⟨c, rest, String.toList_ofList, ?_, later⟩
  simpa [isWordChar, noDigit] using first

theorem isBareIdentifier_append {s : String} {cs : List Char} (bare : isBareIdentifier s = true)
    (words : ∀ c ∈ cs, isWordChar c = true) : isBareIdentifier (s ++ String.ofList cs) = true := by
  obtain ⟨c, rest, chars, first, later⟩ := isBareIdentifier_iff.mp bare
  refine isBareIdentifier_iff.mpr ⟨c, rest ++ cs, ?_, first, List.forall_mem_append.mpr ⟨later, words⟩⟩
  rw [String.toList_append, chars, String.toList_ofList, List.cons_append]

/-- Case conversion may bring any character into the text. Only word characters are kept, and the stem stands in front
where none is left or a digit would come first. -/
theorem identifierOf_isBare (source : String) {stem : String} (bare : isBareIdentifier stem = true) :
    isBareIdentifier (identifierOf source stem) = true := by
  unfold identifierOf
  split
  · exact bare
  · rename_i c rest kept
    have words : ∀ d ∈ c :: rest, isWordChar d = true := fun d member => (List.mem_filter.mp (kept ▸ member)).2
    split
    · exact isBareIdentifier_append bare words
    · rename_i noDigit
      exact isBareIdentifier_ofList words (by simpa using noDigit)

example : identifierOf "2nd 名前" "text" = "text2Nd" := by decide +kernel

theorem iconAliases_bare : ∀ entry ∈ iconAliases, isBareIdentifier entry.2 = true := by
  decide +kernel

theorem defaultIcon_isConstant : IsIconConstant defaultIcon :=
  ⟨"help_outline", by decide, by decide⟩

theorem iconOf_isConstant (name : String) : IsIconConstant (iconOf name) := by
  unfold iconOf
  dsimp only
  split
  · rename_i icon found
    obtain ⟨entry, member, rfl⟩ := TokenTable.mem_of_find? found
    exact ⟨entry.2, iconAliases_bare entry member, rfl⟩
  · split
    · exact defaultIcon_isConstant
    · rename_i c rest kept
      split
      · exact defaultIcon_isConstant
      · rename_i noDigit
        have words : ∀ d ∈ c :: rest, isWordChar d = true := fun d member => (List.mem_filter.mp (kept ▸ member)).2
        exact ⟨_, isBareIdentifier_ofList words (by simpa using noDigit), rfl⟩

end Dart

namespace Node

variable {node : Node} {writers : List (String × Writer)}

theorem written_of_mem_named {arg : Argument Node} (member : arg ∈ node.named writers) :
    ∃ name writer s, (name, writer) ∈ writers ∧ node.written? name writer = some s ∧ arg = .text name s := by
  obtain ⟨⟨name, writer⟩, inside, written⟩ := List.mem_flatMap.mp member
  obtain ⟨s, found, rfl⟩ := Option.map_eq_some_iff.mp (Option.mem_toList.mp written)
  exact ⟨name, writer, s, inside, found, rfl⟩

theorem written_of_mem_fields {field : String × Dart.Expr} (member : field ∈ node.fields writers) :
    ∃ name writer s, (name, writer) ∈ writers ∧ node.written? name writer = some s ∧ field = (name, .text s) := by
  obtain ⟨⟨name, writer⟩, inside, written⟩ := List.mem_flatMap.mp member
  obtain ⟨s, found, rfl⟩ := Option.map_eq_some_iff.mp (Option.mem_toList.mp written)
  exact ⟨name, writer, s, inside, found, rfl⟩

theorem exists_of_written? {name s : String} {f : String → String}
    (written : node.written? name (fun value => value.text?.map f) = some s) : ∃ source, s = f source := by
  obtain ⟨value, -, written⟩ := Option.bind_eq_some_iff.mp written
  obtain ⟨source, -, rfl⟩ := Option.map_eq_some_iff.mp written
  exact ⟨source, rfl⟩

end Node

namespace Form

open Dart (Expr IsIconConstant isBareIdentifier)

variable {node : Node}

def IsIconCall (s : String) : Prop :=
  ∃ constant, IsIconConstant constant ∧ s = "Icon(" ++ constant ++ ")"

theorem iconOf_isCall (name : String) : IsIconCall ("Icon(" ++ Dart.iconOf name ++ ")") :=
  ⟨_, Dart.iconOf_isConstant name, rfl⟩

/-- The forms of a widget have bare names for the texts that name controllers, translations and icons. -/
structure NamesBare (node : Node) : Prop where
  getter : isTranslated node = true → ∃ getter, isBareIdentifier getter = true ∧
    (text node).positional = some (.text ("AppLocalizations.of(context)!." ++ getter))
  controller : ∀ arg ∈ (textField node).args, arg.name = "controller" →
    ∃ reference, isBareIdentifier reference = true ∧ arg = .text "controller" reference
  icon : ∃ constant, IsIconConstant constant ∧ (Form.icon node).positional = some (.text constant)
  buttonIcon : ∀ arg ∈ (iconButton node).args, arg.name = "icon" → ∃ icon, IsIconCall icon ∧ arg = .text "icon" icon
  fieldIcon : ∀ field ∈ inputDecoration node, field.1 = "prefixIcon" ∨ field.1 = "suffixIcon" →
    ∃ icon, IsIconCall icon ∧ field.2 = .text icon
  /-- In list tiles and app bars: what is no embedded widget is an icon. -/
  slotIcon : ∀ name label expr, .value label expr ∈ iconSlot name node → ∃ icon, IsIconCall icon ∧ expr = .text icon
  floatingIcon : ∀ label expr, .value label expr ∈ floatingSlot node → ∃ args icon, IsIconCall icon ∧
    expr = .ofArgs "FloatingActionButton" (args ++ [("child", .text icon)])
  /-- In widgets without a form of their own, before a template sees it. -/
  propertyIcon : ∀ source, ("icon", .text source) ∈ node.properties → (Value.text source).isNull = false →
    ∃ constant, IsIconConstant constant ∧ propertyExpr "icon" (.text source) = .text constant

theorem text_getter (translated : isTranslated node = true) : ∃ getter, isBareIdentifier getter = true ∧
    (text node).positional = some (.text ("AppLocalizations.of(context)!." ++ getter)) := by
  refine ⟨translationName node, Dart.identifierOf_isBare _ (by decide), ?_⟩
  simp only [text, if_pos translated]

theorem textField_controller {arg : Argument Node} (member : arg ∈ (textField node).args)
    (named : arg.name = "controller") :
    ∃ reference, isBareIdentifier reference = true ∧ arg = .text "controller" reference := by
  simp only [textField, List.mem_append] at member
  rcases member with (reference | decoration) | behavior
  · obtain ⟨name, writer, s, inside, written, rfl⟩ := Node.written_of_mem_named reference
    obtain ⟨rfl, rfl⟩ : name = _ ∧ writer = _ := by simpa using inside
    obtain ⟨source, rfl⟩ := Node.exists_of_written? written
    exact ⟨_, Dart.identifierOf_isBare source (by decide), rfl⟩
  · split at decoration
    · cases decoration
    · obtain rfl := List.mem_singleton.mp decoration
      exact absurd (show "decoration" = "controller" from named) (by decide)
  · obtain ⟨name, writer, s, inside, written, rfl⟩ := Node.written_of_mem_named behavior
    obtain rfl : name = "controller" := named
    simp at inside

theorem iconOr_isConstant {fallback : String} (constant : IsIconConstant fallback) (source : Option String) :
    IsIconConstant ((source.map Dart.iconOf).getD fallback) := by
  cases source with
  | none =>
    rw [Option.map_none, Option.getD_none]
    exact constant
  | some source =>
    rw [Option.map_some, Option.getD_some]
    exact Dart.iconOf_isConstant source

theorem iconIn_isConstant {fallback : String} (constant : IsIconConstant fallback) (name : String) (node : Node) :
    IsIconConstant (iconIn name fallback node) := by
  have named := iconOr_isConstant constant ((node.property? name).bind Value.text?)
  rw [Option.map_bind, Function.comp_def] at named
  exact named

theorem add_isConstant : IsIconConstant "Icons.add" :=
  ⟨"add", by decide, by decide⟩

theorem iconButton_icon {arg : Argument Node} (member : arg ∈ (iconButton node).args) (named : arg.name = "icon") :
    ∃ icon, IsIconCall icon ∧ arg = .text "icon" icon := by
  simp only [iconButton, List.mem_cons] at member
  rcases member with rfl | rfl | rest
  · exact ⟨_, ⟨_, iconIn_isConstant add_isConstant "icon" node, rfl⟩, rfl⟩
  · exact absurd (show "onPressed" = "icon" from named) (by decide)
  · obtain ⟨name, writer, s, inside, written, rfl⟩ := Node.written_of_mem_named rest
    obtain rfl : name = "icon" := named
    simp at inside

theorem inputDecoration_icon {field : String × Expr} (member : field ∈ inputDecoration node)
    (named : field.1 = "prefixIcon" ∨ field.1 = "suffixIcon") : ∃ icon, IsIconCall icon ∧ field.2 = .text icon := by
  obtain ⟨name, writer, s, inside, written, rfl⟩ := Node.written_of_mem_fields member
  have drawn : writer = fieldIcon := by
    rcases named with rfl | rfl <;> simpa using inside
  subst drawn
  obtain ⟨source, rfl⟩ := Node.exists_of_written? written
  exact ⟨_, iconOf_isCall source, rfl⟩

theorem embeddedIn_slot {name : String} {value : Option Value} {label : Dart.Label} {expr : Expr} :
    .value label expr ∉ Node.embeddedIn name value := by
  intro member
  obtain ⟨place, -, same⟩ := Option.map_eq_some_iff.mp (Option.mem_toList.mp member)
  cases same

theorem iconSlot_icon {name : String} {label : Dart.Label} {expr : Expr}
    (member : .value label expr ∈ iconSlot name node) : ∃ icon, IsIconCall icon ∧ expr = .text icon := by
  unfold iconSlot at member
  split at member
  · cases List.mem_singleton.mp member
    exact ⟨_, iconOf_isCall _, rfl⟩
  · exact absurd member embeddedIn_slot

theorem floatingButton_icon (properties : Fields Value) : ∃ args icon, IsIconCall icon ∧
    floatingButton properties = .ofArgs "FloatingActionButton" (args ++ [("child", .text icon)]) := by
  have last (args : List (Option (String × Expr))) (field : String × Expr) :
      Dart.given (args ++ [some field]) = Dart.given args ++ [field] := List.filterMap_append
  exact ⟨_, _, ⟨_, iconOr_isConstant add_isConstant _, rfl⟩,
    congrArg (Expr.ofArgs "FloatingActionButton") (last [_, _, _] _)⟩

theorem floatingSlot_icon {label : Dart.Label} {expr : Expr} (member : .value label expr ∈ floatingSlot node) :
    ∃ args icon, IsIconCall icon ∧ expr = .ofArgs "FloatingActionButton" (args ++ [("child", .text icon)]) := by
  unfold floatingSlot at member
  split at member
  · cases member
  · split at member
    · cases List.mem_singleton.mp member
    · cases List.mem_singleton.mp member
      exact floatingButton_icon _
    · cases member

theorem propertyExpr_icon {source : String} (set : (Value.text source).isNull = false) :
    ∃ constant, IsIconConstant constant ∧ propertyExpr "icon" (.text source) = .text constant := by
  have words : Dart.tokensOf? "icon" = none := by decide
  have static : isDynamicName "icon" = false ∧ Dart.isColorName "icon" = false := by decide
  have plain : Dart.plainProperty? "icon" (.text source) = some (Dart.iconOf source) := by
    simp only [Dart.plainProperty?, words, if_pos]
  have found : Dart.propertyOf? "icon" (.text source) = some (.text (Dart.iconOf source)) := by
    simp [Dart.propertyOf?, set, static.2, plain]
  refine ⟨Dart.iconOf source, Dart.iconOf_isConstant source, ?_⟩
  rw [propertyExpr, static.1, found, Bool.false_and, if_neg Bool.false_ne_true, Option.getD_some]

end Form

/-- Identifiers made from free text are bare, icons are constants with bare names, and the forms of widgets have no
other names for texts. -/
theorem madeNames_bare :
    (∀ source, Dart.isBareIdentifier (Dart.identifierOf source "controller") = true ∧
      Dart.isBareIdentifier (Dart.identifierOf source "text") = true) ∧
    (∀ name, Dart.IsIconConstant (Dart.iconOf name)) ∧ ∀ node, Form.NamesBare node := by
  refine ⟨fun source => ⟨Dart.identifierOf_isBare source (by decide), Dart.identifierOf_isBare source (by decide)⟩,
    Dart.iconOf_isConstant, fun node => ?_⟩
  exact {
    getter := Form.text_getter
    controller := fun _ => Form.textField_controller
    icon := ⟨_, Form.iconIn_isConstant Dart.defaultIcon_isConstant "icon" node, rfl⟩
    buttonIcon := fun _ => Form.iconButton_icon
    fieldIcon := fun _ => Form.inputDecoration_icon
    slotIcon := fun _ _ _ => Form.iconSlot_icon
    floatingIcon := fun _ _ => Form.floatingSlot_icon
    propertyIcon := fun _ _ => Form.propertyExpr_icon }

end WidgetSource
