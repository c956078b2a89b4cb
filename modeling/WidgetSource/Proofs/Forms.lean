import WidgetSource.Proofs.Arguments

namespace WidgetSource

open Dart (Expr Phrase isIdentifier isWord IsMildCall EntryAllowed FieldPhrased)

variable {runtime : Prop}

structure Form.Phrased (runtime : Prop) (form : Form) : Prop where
  target : isWord form.target.toList = true
  mild : runtime ∨ IsMildCall form.target.toList
  positional : ∀ value ∈ form.positional, value.Phrased runtime
  args : ArgsPhrased runtime form.allArgs

namespace Form

theorem Phrased.plain {form : Form} (plain : Dart.isPlainCall form.target.toList = true)
    (positional : ∀ value ∈ form.positional, value.Phrased runtime) (args : ArgsPhrased runtime form.args)
    (none : form.shadowed = []) : form.Phrased runtime where
  target := Dart.isWord_of_plainCall plain
  mild := .inr (Dart.isMildCall_of_plain plain)
  positional := positional
  args := by rw [allArgs_of_plain none]; exact args

theorem Phrased.ofArgs {target : String} {args : List (Argument Node)} (plain : Dart.isPlainCall target.toList = true)
    (phrased : ArgsPhrased runtime args) : Form.Phrased runtime { target, args } :=
  .plain plain (fun _ member => by cases member) phrased rfl

/-! ## Widgets with one child -/

section

variable (node : Node)

theorem child_phrased : ArgsPhrased runtime (child node) :=
  childSlot_phrased (by decide) (by decide) node.children

theorem requiredChild_phrased : ArgsPhrased runtime (requiredChild node) := by
  unfold requiredChild
  split
  · exact .cons (textArgument_phrased (by decide) (by decide) (Dart.emptyCall_phrase "SizedBox.shrink" (by decide))) .nil
  · exact child_phrased node

theorem sizes_phrased : WritersPhrased runtime node sizes :=
  .cons (by decide) (fun _ _ => Dart.dimensionOf?_phrase) (.cons (by decide) (fun _ _ => Dart.dimensionOf?_phrase) .nil)

theorem factors_phrased : WritersPhrased runtime node factors :=
  .cons (by decide) (fun _ _ => Dart.doubleOf?_phrase) (.cons (by decide) (fun _ _ => Dart.doubleOf?_phrase) .nil)

end

section

variable {node : Node} (needed : node.isLocallyConst .empty = false → runtime)
include needed

theorem container_phrased : (container node).Phrased runtime := by
  have color : WritersPhrased runtime node [("color", Dart.colorOf?)] :=
    .cons (by decide) (fun _ _ => Dart.colorOf?_phrase) .nil
  have around : WritersPhrased runtime node
      [("padding", insets), ("margin", insets), ("alignment", .word Dart.alignments)] :=
    .cons (by decide) (always_writer Dart.insetsOf_phrase) (.cons (by decide) (always_writer Dart.insetsOf_phrase)
      (.cons (by decide) (word_writer (by simp [Dart.plainTables])) .nil))
  have bounds : WritersPhrased runtime node
      [("constraints", fun value => value.map?.map fun fields => Dart.constraintsOf (.map fields)),
        ("transform", .always Dart.transformOf)] :=
    .cons (by decide) (fun _ => Dart.phrase_of_map fun fields => Dart.constraintsOf_phrase (.map fields))
      (.dynamic needed (by decide) (by decide) (fun known => always_writer (Dart.transformOf_phrase known)) .nil)
  refine .ofArgs (by decide) (.append (.append (.append (.append (.append ?_ ?_) ?_) ?_) ?_) (child_phrased node))
  · exact named_phrased needed (sizes_phrased node)
  · split
    · exact named_phrased needed color
    · exact named_phrased needed .nil
  · exact named_phrased needed around
  · refine ofExpr?_phrased (by decide) (by decide) fun expr found => ?_
    obtain ⟨fields, _, rfl⟩ := Option.map_eq_some_iff.mp found
    exact Dart.decorationOf_phrased (.map fields)
  · exact named_phrased needed bounds

omit needed in
theorem padding_phrased : (padding node).Phrased runtime := by
  refine .ofArgs (by decide) (.cons (textArgument_phrased (by decide) (by decide) ?_) (child_phrased node))
  cases found : node.written? "padding" insets with
  | none =>
    have insets : Phrase runtime False "EdgeInsets.all(8.0)".toList :=
      .plainCall "EdgeInsets.all" [(none, "8.0")] (by simp [Dart.callChars, Dart.labelled]) (by decide)
        (.positional (.plain (by decide)) .nil)
    exact insets.constantText (by simp [defaultPadding])
  | some s =>
    obtain ⟨value, _, written⟩ := Option.bind_eq_some_iff.mp found
    exact always_writer Dart.insetsOf_phrase value s written

theorem center_phrased : (center node).Phrased runtime :=
  .ofArgs (by decide) (.append (named_phrased needed (factors_phrased node)) (child_phrased node))

theorem sizedBox_phrased : (sizedBox node).Phrased runtime :=
  .ofArgs (by decide) (.append (named_phrased needed (sizes_phrased node)) (child_phrased node))

theorem align_phrased : (align node).Phrased runtime := by
  have known : Dart.alignments ∈ Dart.plainTables := by simp [Dart.plainTables]
  have factors := ArgsPhrased.append (named_phrased needed (factors_phrased node)) (child_phrased node)
  refine .ofArgs (by decide) (.cons (textArgument_phrased (by decide) (by decide) ?_) factors)
  cases found : node.written? "alignment" (.word Dart.alignments) with
  | none => exact Phrase.plain (show Dart.isPlainName Dart.alignments.fallback.toList = true by decide)
  | some s =>
    obtain ⟨value, _, written⟩ := Option.bind_eq_some_iff.mp found
    exact word_writer known value s written

theorem expanded_phrased : (expanded node).Phrased runtime :=
  .ofArgs (by decide) (.append
    (named_phrased needed (.cons (by decide) (fun _ _ => Dart.integerOf?_phrase) .nil)) (requiredChild_phrased node))

theorem flexible_phrased : (flexible node).Phrased runtime :=
  .ofArgs (by decide) (.append
    (named_phrased needed (.cons (by decide) (fun _ _ => Dart.integerOf?_phrase)
      (.cons (by decide) (word_writer (by simp [Dart.plainTables])) .nil)))
    (requiredChild_phrased node))

theorem positioned_phrased : (positioned node).Phrased runtime := by
  have double (value : Value) (s : String) (written : Dart.doubleOf? value = some s) :
      Phrase runtime False s.toList := Dart.doubleOf?_phrase written
  have offsets : WritersPhrased runtime node
      (["left", "top", "right", "bottom"].map (fun name => (name, Dart.doubleOf?)) ++ sizes) :=
    .cons (by decide) double (.cons (by decide) double (.cons (by decide) double (.cons (by decide) double
      (sizes_phrased node))))
  exact .ofArgs (by decide) (.append (named_phrased needed offsets) (requiredChild_phrased node))

theorem card_phrased : (card node).Phrased runtime := by
  have colors : WritersPhrased runtime node [("color", Dart.colorOf?), ("shadowColor", Dart.colorOf?),
      ("elevation", Dart.doubleOf?), ("margin", insets)] :=
    .cons (by decide) (fun _ _ => Dart.colorOf?_phrase) (.cons (by decide) (fun _ _ => Dart.colorOf?_phrase)
      (.cons (by decide) (fun _ _ => Dart.doubleOf?_phrase)
        (.cons (by decide) (always_writer Dart.insetsOf_phrase) .nil)))
  refine .ofArgs (by decide) (.append (.append (named_phrased needed colors)
    (ofExpr?_phrased (by decide) (by decide) fun expr found => ?_)) (child_phrased node))
  obtain ⟨radius, _, rfl⟩ := Option.map_eq_some_iff.mp found
  unfold cardShape
  exact .text (.plainCall "RoundedRectangleBorder" [(some "borderRadius", Dart.uniformRadius radius)]
    (by simp [Dart.callChars, Dart.labelled]) (by decide)
    (.named (by decide) (by decide) (Dart.uniformRadius_phrase radius) .nil))

/-! ## Buttons -/

theorem tapHandler_phrased : ArgumentPhrased runtime (tapHandler node) := by
  unfold tapHandler
  cases given : node.hasProperty "onPressed" with
  | true =>
    obtain ⟨value, given⟩ := Option.isSome_iff_exists.mp given
    have known := needed (Node.not_const_of_dynamic given (by decide))
    exact ⟨⟨by decide, .inl known⟩, .text (.stub known (by simp [tapStub, Dart.stubs]))⟩
  | false => exact ⟨⟨by decide, .inr fun _ => ⟨rfl, rfl⟩⟩, .text (.plain (by decide))⟩

omit needed in
theorem textCall_phrase {content : String} (phrase : Phrase runtime False content.toList) :
    Phrase runtime False ("Text(" ++ content ++ ")").toList :=
  .plainCall "Text" [(none, content)] (by simp [Dart.callChars, Dart.labelled]) (by decide) (.positional phrase .nil)

omit needed in
theorem iconCall_phrase {name : String} (phrase : Phrase runtime False name.toList) :
    Phrase runtime False ("Icon(" ++ name ++ ")").toList :=
  .plainCall "Icon" [(none, name)] (by simp [Dart.callChars, Dart.labelled]) (by decide) (.positional phrase .nil)

theorem runtime_of_style (isButton : node.kind = .button ∨ node.kind = .elevatedButton ∨ node.kind = .textButton ∨
    node.kind = .outlinedButton) (styled : buttonStyle node ≠ []) : runtime := by
  obtain ⟨⟨name, expr⟩, member⟩ := List.exists_mem_of_ne_nil _ styled
  obtain ⟨⟨label, writer⟩, known, inside⟩ := List.mem_flatMap.mp member
  obtain ⟨s, found, _⟩ := Option.map_eq_some_iff.mp (Option.mem_toList.mp inside)
  obtain ⟨value, given, _⟩ := Option.bind_eq_some_iff.mp found
  obtain ⟨_, isStyle, same⟩ := List.mem_map.mp known
  cases same
  have blocked : buttonStyleNames.any node.hasProperty = true :=
    List.any_eq_true.mpr ⟨label, isStyle, by simp [Node.hasProperty, given]⟩
  exact needed (Node.not_const_of_blocks (Node.blocksConst_of_button isButton ▸ blocked))

omit needed in
theorem buttonStyle_phrased : ∀ field ∈ buttonStyle node, FieldPhrased runtime field := by
  have writers : WritersPhrased runtime node
      (buttonStyleNames.map fun name => (name, if name = "padding" then insets else Dart.colorOf?)) :=
    .cons (by decide) (fun _ _ => Dart.colorOf?_phrase) (.cons (by decide) (fun _ _ => Dart.colorOf?_phrase)
      (.cons (by decide) (always_writer Dart.insetsOf_phrase) .nil))
  exact fields_phrased writers (by decide)

omit needed in
theorem buttonLabel_phrase : Phrase runtime False (buttonLabel node).toList := by
  unfold buttonLabel
  cases (node.property? "text").or (node.property? "label") with
  | none => exact Dart.textLiteral_phrase "Button"
  | some value => exact Dart.textOf_phrase value

theorem materialButton_phrased {variant : String} (isButton : node.kind = .button ∨ node.kind = .elevatedButton ∨
    node.kind = .textButton ∨ node.kind = .outlinedButton) (plain : Dart.isPlainCall variant.toList = true)
    (styled : isWord (variant ++ ".styleFrom").toList = true) : (materialButton variant node).Phrased runtime := by
  have press : WritersPhrased runtime node [("onLongPress", .constant tapStub)] :=
    .dynamic needed (by decide) (by decide)
      (fun known => stub_phrase known (by simp [tapStub, Dart.stubs])) .nil
  refine .ofArgs plain (.append (.append (.append (.cons (tapHandler_phrased needed) .nil) (named_phrased needed press))
    ?_) ?_)
  · cases style : buttonStyle node with
    | nil => exact .nil
    | cons field fields =>
      have known := runtime_of_style needed isButton (by rw [style]; exact List.cons_ne_nil _ _)
      refine .cons (valueArgument_phrased (by decide) (by decide) (.ofArgs styled (.inl known) ?_)) .nil
      rw [← style]
      exact buttonStyle_phrased
  · split
    · exact .cons (textArgument_phrased (by decide) (by decide) (textCall_phrase buttonLabel_phrase)) .nil
    · exact child_phrased node

theorem buttonVariant_phrased (isButton : node.kind = .button) :
    (materialButton (buttonVariant node) node).Phrased runtime := by
  unfold buttonVariant
  split <;> exact materialButton_phrased needed (.inl isButton) (by decide) (by decide)

/-! ## Widgets with many children -/

omit needed in
theorem children_phrased : ArgsPhrased runtime (children node) :=
  childList_phrased node.children

theorem flex_phrased {target : String} (plain : Dart.isPlainCall target.toList = true) :
    (flex target node).Phrased runtime :=
  .ofArgs plain (.append
    (named_phrased needed (.cons (by decide) (word_writer (by simp [Dart.plainTables]))
      (.cons (by decide) (word_writer (by simp [Dart.plainTables]))
        (.cons (by decide) (word_writer (by simp [Dart.plainTables])) .nil))))
    children_phrased)

theorem stack_phrased : (stack node).Phrased runtime :=
  .ofArgs (by decide) (.append
    (named_phrased needed (.cons (by decide) (word_writer (by simp [Dart.plainTables]))
      (.cons (by decide) (word_writer (by simp [Dart.plainTables])) .nil)))
    children_phrased)

omit needed in
theorem scrolling_phrased : WritersPhrased runtime node scrolling :=
  .cons (by decide) (word_writer (by simp [Dart.plainTables])) (.cons (by decide) (always_writer Dart.insetsOf_phrase)
    (.cons (by decide) (fun _ _ => Dart.boolOf?_phrase)
      (.cons (by decide) (fun _ => Dart.phrase_of_map Dart.scrollPhysics_phrase) .nil)))

theorem listView_phrased (isList : node.kind = .listView) : (listView node).Phrased runtime := by
  have known : runtime := needed (by simp [Node.isLocallyConst, isList, Kind.hasConstConstructor])
  unfold listView
  split
  · rename_i count _ found
    obtain ⟨value, _, written⟩ := Option.bind_eq_some_iff.mp found
    have builder : Phrase runtime False itemBuilder.toList := .stub known (by simp [itemBuilder, Dart.stubs])
    refine .ofArgs (by decide) (.append (named_phrased needed scrolling_phrased)
      (.cons (textArgument_phrased (by decide) (by decide) (Dart.integerOf?_phrase written)) (.cons ?_ .nil)))
    exact ⟨⟨by decide, .inl known⟩, .text builder⟩
  · exact .ofArgs (by decide) (.append (named_phrased needed scrolling_phrased) children_phrased)

omit needed in
theorem gridDelegate_phrased : (gridDelegate node).Phrased runtime := by
  have columns : Phrase runtime False ((node.written? "crossAxisCount" Dart.integerOf?).getD defaultColumns).toList := by
    cases found : node.written? "crossAxisCount" Dart.integerOf? with
    | none => exact Phrase.plain (show Dart.isPlainName defaultColumns.toList = true by decide)
    | some s =>
      obtain ⟨value, _, written⟩ := Option.bind_eq_some_iff.mp found
      exact Dart.integerOf?_phrase written
  have double (value : Value) (s : String) (written : Dart.doubleOf? value = some s) :
      Phrase runtime False s.toList := Dart.doubleOf?_phrase written
  have spacing : WritersPhrased runtime node
      (["mainAxisSpacing", "crossAxisSpacing", "childAspectRatio"].map fun name => (name, Dart.doubleOf?)) :=
    .cons (by decide) double (.cons (by decide) double (.cons (by decide) double .nil))
  have isLabel : isIdentifier "crossAxisCount" = true ∧ isDynamicName "crossAxisCount" = false := by decide
  refine .ofArgs (by decide) (.inr (Dart.isMildCall_of_plain (by decide))) ?_
  exact List.forall_mem_cons.mpr ⟨⟨isLabel.1, .inr isLabel.2, .text columns⟩,
    fields_phrased spacing (by decide)⟩

theorem gridView_phrased : (gridView node).Phrased runtime :=
  .ofArgs (by decide) (.append
    (.append
      (ofExpr?_phrased (by decide) (by decide) fun expr same => Option.some.inj same ▸ gridDelegate_phrased)
      (named_phrased needed scrolling_phrased))
    children_phrased)

theorem wrap_phrased : (wrap node).Phrased runtime :=
  .ofArgs (by decide) (.append
    (named_phrased needed (.cons (by decide) (word_writer (by simp [Dart.plainTables]))
      (.cons (by decide) (word_writer (by simp [Dart.plainTables]))
        (.cons (by decide) (fun _ _ => Dart.doubleOf?_phrase) (.cons (by decide) (fun _ _ => Dart.doubleOf?_phrase) .nil)))))
    children_phrased)

/-! ## Display -/

theorem text_phrased (isText : node.kind = .text) : (text node).Phrased runtime := by
  have limit : WritersPhrased runtime node [("textAlign", .word Dart.textAligns), ("overflow", .word Dart.textOverflows),
      ("maxLines", lineLimit), ("softWrap", Dart.boolOf?)] :=
    .cons (by decide) (word_writer (by simp [Dart.plainTables])) (.cons (by decide)
      (word_writer (by simp [Dart.plainTables])) (.cons (by decide)
        (ifTruthy_writer fun _ _ => Dart.integerOf?_phrase) (.cons (by decide) (fun _ _ => Dart.boolOf?_phrase) .nil)))
  have plain : Dart.isPlainCall "Text".toList = true := by decide
  refine .plain plain (fun value same => ?_)
    (.append (ofExpr?_phrased (by decide) (by decide) fun _ => Dart.textStyleOf?_phrased) (named_phrased needed limit)) rfl
  cases same
  refine .text ?_
  split
  · rename_i translated
    have known : runtime := needed (Node.not_const_of_blocks (Node.blocksConst_of_text isText ▸ translated))
    have name : isWord (translationName node).toList = true :=
      (Dart.identifierOf_isWord ⟨by decide, List.all_eq_true.mp (by decide)⟩).1
    rw [String.toList_append]
    exact .translation known name
  · cases textValue? node with
    | none => exact Dart.textLiteral_phrase defaultText
    | some value => exact Dart.textOf_phrase value

omit needed in
theorem iconIn_phrase {name fallback : String} (plain : Dart.isPlainName fallback.toList = true) :
    Phrase runtime False (iconIn name fallback node).toList := by
  unfold iconIn
  cases found : node.written? name fun value => value.text?.map Dart.iconOf with
  | none => exact .plain plain
  | some s =>
    obtain ⟨value, _, written⟩ := Option.bind_eq_some_iff.mp found
    exact Dart.phrase_of_map Dart.iconOf_phrase s written

theorem icon_phrased : (icon node).Phrased runtime := by
  have plain : Dart.isPlainCall "Icon".toList = true := by decide
  refine .plain plain (fun value same => ?_)
    (named_phrased needed (.cons (by decide) (fun _ _ => Dart.doubleOf?_phrase)
      (.cons (by decide) (fun _ _ => Dart.colorOf?_phrase) (.cons (by decide) text_writer .nil)))) rfl
  cases same
  exact .text (iconIn_phrase (by decide))

theorem image_phrased : (image node).Phrased runtime := by
  have fit : WritersPhrased runtime node [("fit", .word Dart.boxFits)] :=
    .cons (by decide) (word_writer (by simp [Dart.plainTables])) .nil
  unfold image
  split
  · exact .ofArgs (by decide) .nil
  · refine .plain ?_ (fun value same => ?_) (named_phrased needed ((sizes_phrased node).append fit)) rfl
    · dsimp only
      split <;> decide
    · cases same
      exact .text (Dart.textLiteral_phrase _)

theorem divider_phrased : (divider node).Phrased runtime := by
  have double (value : Value) (s : String) (written : Dart.doubleOf? value = some s) :
      Phrase runtime False s.toList := Dart.doubleOf?_phrase written
  have lengths : WritersPhrased runtime node
      (["height", "thickness", "indent", "endIndent"].map (fun name => (name, Dart.doubleOf?)) ++
        [("color", Dart.colorOf?)]) :=
    .cons (by decide) double (.cons (by decide) double (.cons (by decide) double (.cons (by decide) double
      (.cons (by decide) (fun _ _ => Dart.colorOf?_phrase) .nil))))
  exact .ofArgs (by decide) (named_phrased needed lengths)

/-! ## Input -/

theorem iconButton_phrased : (iconButton node).Phrased runtime :=
  .ofArgs (by decide) (.cons
    (textArgument_phrased (by decide) (by decide) (iconCall_phrase (iconIn_phrase (by decide))))
    (.cons (tapHandler_phrased needed)
      (named_phrased needed (.cons (by decide) (fun _ _ => Dart.doubleOf?_phrase)
        (.cons (by decide) (fun _ _ => Dart.colorOf?_phrase) (.cons (by decide) text_writer .nil))))))

omit needed in
theorem inputBorder_phrase (value : Value) (s : String) (written : inputBorder value = some s) :
    Phrase runtime False s.toList := by
  unfold inputBorder at written
  split at written <;> cases written
  · exact Dart.emptyCall_phrase "OutlineInputBorder" (by decide)
  · exact Dart.emptyCall_phrase "OutlineInputBorder" (by decide)
  · exact Dart.emptyCall_phrase "UnderlineInputBorder" (by decide)
  · exact .plain (by decide)

omit needed in
theorem fieldIcon_phrase (value : Value) (s : String) (written : fieldIcon value = some s) :
    Phrase runtime False s.toList :=
  Dart.phrase_of_map (fun name => iconCall_phrase (Dart.iconOf_phrase name)) s written

omit needed in
theorem inputDecoration_phrased : ∀ field ∈ inputDecoration node, FieldPhrased runtime field := by
  have writers : WritersPhrased runtime node [("hintText", .text), ("labelText", .text), ("helperText", .text),
      ("prefixIcon", fieldIcon), ("suffixIcon", fieldIcon), ("border", inputBorder)] :=
    .cons (by decide) text_writer (.cons (by decide) text_writer (.cons (by decide) text_writer
      (.cons (by decide) fieldIcon_phrase (.cons (by decide) fieldIcon_phrase
        (.cons (by decide) inputBorder_phrase .nil)))))
  exact fields_phrased writers (by decide)

theorem textField_phrased : (textField node).Phrased runtime := by
  have controller : WritersPhrased runtime node
      [("controller", fun value => value.text?.map fun name => Dart.identifierOf name "controller")] := by
    refine .dynamic needed (by decide) (by decide) (fun known _ => Dart.phrase_of_map fun name => ?_) .nil
    exact .word (Dart.identifierOf_isWord ⟨by decide, List.all_eq_true.mp (by decide)⟩).1 (.inl known)
  have stub (known : runtime) (value : Value) (s : String) (written : Writer.constant valueStub value = some s) :
      Phrase runtime False s.toList :=
    stub_phrase known (by simp [valueStub, Dart.stubs]) value s written
  have behavior : WritersPhrased runtime node [("obscureText", Dart.boolOf?), ("maxLines", lineLimit),
      ("keyboardType", .word Dart.keyboardTypes), ("enabled", Dart.boolOf?), ("onChanged", .constant valueStub),
      ("onSubmitted", .constant valueStub)] :=
    .cons (by decide) (fun _ _ => Dart.boolOf?_phrase) (.cons (by decide)
      (ifTruthy_writer fun _ _ => Dart.integerOf?_phrase) (.cons (by decide)
        (word_writer (by simp [Dart.plainTables])) (.cons (by decide) (fun _ _ => Dart.boolOf?_phrase)
          (.dynamic needed (by decide) (by decide) stub (.dynamic needed (by decide) (by decide) stub .nil)))))
  refine .ofArgs (by decide) (.append (.append (named_phrased needed controller) ?_) (named_phrased needed behavior))
  split
  · exact .nil
  · exact .cons (valueArgument_phrased (by decide) (by decide)
      (.ofArgs (by decide) (.inr (Dart.isMildCall_of_plain (by decide))) inputDecoration_phrased)) .nil

omit needed in
theorem valueHandler_phrased (known : runtime) : ArgumentPhrased runtime (.text "onChanged" valueStub) :=
  ⟨⟨by decide, .inl known⟩, .text (.stub known (by simp [valueStub, Dart.stubs]))⟩

theorem activeColor_phrased : ArgsPhrased runtime (node.named [("activeColor", Dart.colorOf?)]) :=
  named_phrased needed (.cons (by decide) (fun _ _ => Dart.colorOf?_phrase) .nil)

theorem toggle_phrased {target : String} (plain : Dart.isPlainCall target.toList = true) (known : runtime) :
    (toggle target node).Phrased runtime := by
  have value : Phrase runtime False ((node.written? "value" Dart.boolOf?).getD "false").toList := by
    cases found : node.written? "value" Dart.boolOf? with
    | none => exact Phrase.plain (show Dart.isPlainName "false".toList = true by decide)
    | some s =>
      obtain ⟨value, _, written⟩ := Option.bind_eq_some_iff.mp found
      exact Dart.boolOf?_phrase written
  exact .ofArgs plain (.cons (textArgument_phrased (by decide) (by decide) value)
    (.cons (valueHandler_phrased known) (activeColor_phrased needed)))

omit needed in
theorem choiceOf_phrase (value : Option Value) : Phrase runtime False (choiceOf value).toList := by
  unfold choiceOf
  split
  · exact Dart.numberLiteral_phrase _
  · exact Dart.boolText_phrase _
  · exact Dart.textLiteral_phrase _
  · exact .plain (by decide)

theorem radio_phrased (known : runtime) : (radio node).Phrased runtime :=
  .ofArgs (by decide) (.cons (textArgument_phrased (by decide) (by decide) (choiceOf_phrase _))
    (.cons (textArgument_phrased (by decide) (by decide) (choiceOf_phrase _))
      (.cons (valueHandler_phrased known) (activeColor_phrased needed))))

theorem slider_phrased (known : runtime) : (slider node).Phrased runtime := by
  have double (name : String) (fallback : Double) :
      Phrase runtime False ((node.written? name Dart.doubleOf?).getD (Dart.doubleLiteral fallback)).toList := by
    cases found : node.written? name Dart.doubleOf? with
    | none => exact Dart.doubleLiteral_phrase fallback
    | some s =>
      obtain ⟨value, _, written⟩ := Option.bind_eq_some_iff.mp found
      exact Dart.doubleOf?_phrase written
  have steps : WritersPhrased runtime node [("divisions", Dart.integerOf?), ("label", .text)] :=
    .cons (by decide) (fun _ _ => Dart.integerOf?_phrase) (.cons (by decide) text_writer .nil)
  have colors : WritersPhrased runtime node [("activeColor", Dart.colorOf?), ("inactiveColor", Dart.colorOf?)] :=
    .cons (by decide) (fun _ _ => Dart.colorOf?_phrase) (.cons (by decide) (fun _ _ => Dart.colorOf?_phrase) .nil)
  exact .ofArgs (by decide) (.cons (textArgument_phrased (by decide) (by decide) (double _ _))
    (.cons (textArgument_phrased (by decide) (by decide) (double _ _))
      (.cons (textArgument_phrased (by decide) (by decide) (double _ _))
        (.append (named_phrased needed steps) (.cons (valueHandler_phrased known) (named_phrased needed colors))))))

/-! ## Screens -/

omit needed in
theorem labelSlot_phrased {name : String} (identifier : isIdentifier name = true) (static : isDynamicName name = false) :
    ArgsPhrased runtime (labelSlot name node) := by
  unfold labelSlot
  split
  · exact .cons (textArgument_phrased identifier static (textCall_phrase (Dart.textOf_phrase _))) .nil
  · exact .cons (textArgument_phrased identifier static (textCall_phrase (Dart.textOf_phrase _))) .nil
  · exact embeddedIn_phrased identifier static _

omit needed in
theorem iconSlot_phrased {name : String} (identifier : isIdentifier name = true) (static : isDynamicName name = false) :
    ArgsPhrased runtime (iconSlot name node) := by
  unfold iconSlot
  split
  · exact .cons (textArgument_phrased identifier static (iconCall_phrase (Dart.iconOf_phrase _))) .nil
  · exact embeddedIn_phrased identifier static _

theorem listTile_phrased : (listTile node).Phrased runtime := by
  have stub (known : runtime) (value : Value) (s : String) (written : Writer.constant tapStub value = some s) :
      Phrase runtime False s.toList :=
    stub_phrase known (by simp [tapStub, Dart.stubs]) value s written
  have behavior : WritersPhrased runtime node [("dense", Dart.boolOf?), ("enabled", Dart.boolOf?),
      ("onTap", .constant tapStub), ("onLongPress", .constant tapStub)] :=
    .cons (by decide) (fun _ _ => Dart.boolOf?_phrase) (.cons (by decide) (fun _ _ => Dart.boolOf?_phrase)
      (.dynamic needed (by decide) (by decide) stub (.dynamic needed (by decide) (by decide) stub .nil)))
  exact .ofArgs (by decide) (.append (.append (.append (.append (iconSlot_phrased (by decide) (by decide))
    (labelSlot_phrased (by decide) (by decide))) (labelSlot_phrased (by decide) (by decide)))
    (iconSlot_phrased (by decide) (by decide))) (named_phrased needed behavior))

theorem appBar_phrased : (appBar node).Phrased runtime := by
  have imply : WritersPhrased runtime node [("automaticallyImplyLeading", Dart.boolOf?)] :=
    .cons (by decide) (fun _ _ => Dart.boolOf?_phrase) .nil
  have look : WritersPhrased runtime node [("elevation", Dart.doubleOf?), ("backgroundColor", Dart.colorOf?),
      ("foregroundColor", Dart.colorOf?), ("centerTitle", Dart.boolOf?), ("toolbarHeight", Dart.doubleOf?)] :=
    .cons (by decide) (fun _ _ => Dart.doubleOf?_phrase) (.cons (by decide) (fun _ _ => Dart.colorOf?_phrase)
      (.cons (by decide) (fun _ _ => Dart.colorOf?_phrase) (.cons (by decide) (fun _ _ => Dart.boolOf?_phrase)
        (.cons (by decide) (fun _ _ => Dart.doubleOf?_phrase) .nil))))
  exact .ofArgs (by decide) (.append (.append (.append (.append (iconSlot_phrased (by decide) (by decide))
    (named_phrased needed imply)) (labelSlot_phrased (by decide) (by decide)))
    (embeddedIn_phrased (by decide) (by decide) _)) (named_phrased needed look))

omit needed in
theorem headerSlot_phrased (header : Option Node) : ArgsPhrased runtime (headerSlot header node) := by
  unfold headerSlot
  split
  · exact .cons ⟨by decide, .inr (by decide)⟩ .nil
  · cases (node.property? "appBar").bind Value.appBar? with
    | none => exact .nil
    | some bar => exact .cons ⟨by decide, .inr (by decide)⟩ .nil

omit needed in
theorem iconOr_phrase (name : Option String) :
    Phrase runtime False ((name.map Dart.iconOf).getD "Icons.add").toList := by
  cases name with
  | none =>
    rw [Option.map_none, Option.getD_none]
    exact Phrase.plain (show Dart.isPlainName "Icons.add".toList = true by decide)
  | some name =>
    rw [Option.map_some, Option.getD_some]
    exact Dart.iconOf_phrase name

omit needed in
theorem floatingButton_phrased (known : runtime) (properties : Fields Value) :
    (floatingButton properties).Phrased runtime := by
  have labels : isIdentifier "onPressed" = true ∧ isIdentifier "child" = true ∧ isDynamicName "child" = false := by decide
  have stub : Phrase runtime False tapStub.toList := .stub known (by simp [tapStub, Dart.stubs])
  have handler (isSet : Bool) : FieldPhrased runtime ("onPressed", .text (if isSet then tapStub else "null")) := by
    refine ⟨labels.1, .inl known, .text ?_⟩
    cases isSet with
    | true => simpa using stub
    | false => simpa using Phrase.plain (show Dart.isPlainName "null".toList = true by decide)
  have icon (found : Option Value) : Phrase runtime False
      ("Icon(" ++ ((found.bind Value.text?).map Dart.iconOf).getD "Icons.add" ++ ")").toList :=
    iconCall_phrase (iconOr_phrase (found.bind Value.text?))
  unfold floatingButton
  generalize (fun name => (Fields.get? name properties).filter (!·.isNull)) = property
  dsimp only
  refine .ofArgs (by decide) (.inr (Dart.isMildCall_of_plain (by decide))) (Dart.given_phrased ?_)
  simp only [List.forall_mem_cons]
  refine ⟨fun field same => ?_, Dart.argument?_phrased (by decide) (by decide) (Dart.phrase_of_bind text_writer),
    Dart.argument?_phrased (by decide) (by decide) (Dart.phrase_of_bind fun _ _ => Dart.colorOf?_phrase),
    fun field same => ?_, fun _ none => absurd none List.not_mem_nil⟩
  · cases same
    exact handler (property "onPressed").isSome
  · cases same
    exact ⟨labels.2.1, .inr labels.2.2, .text (icon (property "icon"))⟩

theorem floatingSlot_phrased (isScaffold : node.kind = .scaffold) : ArgsPhrased runtime (floatingSlot node) := by
  unfold floatingSlot
  split
  · exact .nil
  · rename_i value given
    split
    · exact .cons ⟨by decide, .inr (by decide)⟩ .nil
    · have known : runtime := by
        refine needed (Node.not_const_of_blocks ?_)
        rw [Node.blocksConst_of_scaffold isScaffold]
        simp [given, Value.map?]
      exact .cons (valueArgument_phrased (by decide) (by decide) (floatingButton_phrased known _)) .nil
    · exact .nil

theorem scaffold_phrased (isScaffold : node.kind = .scaffold) : (scaffold node).Phrased runtime := by
  have color : WritersPhrased runtime node [("backgroundColor", Dart.colorOf?)] :=
    .cons (by decide) (fun _ _ => Dart.colorOf?_phrase) .nil
  exact .ofArgs (by decide) (.append (.append (.append (.append (.append (named_phrased needed color)
    (headerSlot_phrased _)) (childSlot_phrased (by decide) (by decide) _)) (embeddedIn_phrased (by decide) (by decide) _))
    (embeddedIn_phrased (by decide) (by decide) _)) (floatingSlot_phrased needed isScaffold))

/-! ## Mapped widgets -/

theorem propertyExpr_phrased {name : String} {value : Value} (given : (name, value) ∈ node.properties)
    (isSet : value.isNull = false) : (propertyExpr name value).Phrased runtime := by
  have known (dynamic : isDynamicName name = true) : runtime := needed (Node.not_const_of_mem given isSet dynamic)
  unfold propertyExpr
  split
  · rename_i handler
    exact .text (.stub (known (Bool.and_eq_true_iff.mp handler).1) (by simp [tapStub, Dart.stubs]))
  · cases found : Dart.propertyOf? name value with
    | none => exact .text (Dart.textOf_phrase value)
    | some expr => exact Dart.propertyOf?_phrased (fun isTransform => known (by rw [isTransform]; decide)) found

theorem piece_phrased {write : Expr → String} {name : String} {value : Value} {piece : Piece}
    (given : (name, value) ∈ node.properties) (identifier : isIdentifier name = true)
    (becomes : pieceOf? write none name value = some piece) :
    ∃ arg, piece = .argument arg ∧ ArgumentPhrased runtime arg := by
  obtain ⟨isSet, sorts⟩ := pieceOf?_cases becomes
  have label : runtime ∨ isDynamicName name = false := by
    cases dynamic : isDynamicName name with
    | true => exact .inl (needed (Node.not_const_of_mem given isSet dynamic))
    | false => exact .inr rfl
  obtain ⟨place, -, -, rfl⟩ | ⟨template, missing, -⟩ | ⟨-, rfl⟩ := sorts
  · exact ⟨_, rfl, identifier, label⟩
  · cases missing
  · exact ⟨_, rfl, ⟨identifier, Dart.allowed_of_static label⟩, propertyExpr_phrased needed given isSet⟩

omit needed in
theorem mappedChildren_phrased (children : List Node) : ArgsPhrased runtime (mappedChildren children) := by
  unfold mappedChildren
  split
  · exact .nil
  · exact childSlot_phrased (by decide) (by decide) _
  · exact childList_phrased _

theorem mapped_phrased (write : Expr → String) (named : node.Named) (isGeneric : node.kind = .generic) :
    (mapped write .empty node).Phrased runtime := by
  have pieces (piece : Piece) (member : piece ∈ piecesOf write none node.properties) :
      ∃ arg, piece = .argument arg ∧ ArgumentPhrased runtime arg := by
    obtain ⟨⟨name, value⟩, given, becomes⟩ := List.mem_filterMap.mp member
    exact piece_phrased needed given (named.properties (name, value) given) becomes
  have args : ArgsPhrased runtime ((piecesOf write none node.properties).filterMap Piece.argument?) := by
    intro arg member
    obtain ⟨piece, inside, isArgument⟩ := List.mem_filterMap.mp member
    obtain ⟨other, rfl, phrased⟩ := pieces piece inside
    cases isArgument
    exact phrased
  have split := splitRepeated_subset [] ((piecesOf write none node.properties).filterMap Piece.argument?)
  have target := named.type
  refine ⟨target.isWord, ?_, fun value member => ?_, ?_⟩
  · by_cases dotted : '.' ∈ (Text.trim node.type).toList
    · refine .inl (needed (Node.not_const_of_blocks ?_))
      rw [Node.blocksConst_of_generic isGeneric]
      exact List.contains_iff_mem.mpr dotted
    · exact .inr (Dart.isMildCall_of_no_dot dotted)
  · obtain ⟨text, first, rfl⟩ := Option.map_eq_some_iff.mp member
    obtain ⟨piece, inside, isText⟩ := List.mem_filterMap.mp (List.mem_of_mem_head? first)
    obtain ⟨arg, rfl, _⟩ := pieces piece inside
    cases isText
  · refine .append (.append (fun arg member => args arg (split.1 arg member)) ?_)
      fun arg member => args arg (split.2 arg member)
    split
    · exact mappedChildren_phrased node.children
    · exact .nil

/-! ## All forms -/

theorem ofKind_phrased (write : Expr → String) (named : node.kind = .generic → node.Named) :
    (ofKind write .empty node node.kind).Phrased runtime := by
  have known (noConst : node.kind.hasConstConstructor = false) : runtime :=
    needed (by simp [Node.isLocallyConst, noConst])
  cases kind : node.kind with
  | scaffold => exact scaffold_phrased needed kind
  | appBar => exact appBar_phrased needed
  | container => exact container_phrased needed
  | padding => exact padding_phrased
  | center => exact center_phrased needed
  | sizedBox => exact sizedBox_phrased needed
  | align => exact align_phrased needed
  | expanded => exact expanded_phrased needed
  | flexible => exact flexible_phrased needed
  | positioned => exact positioned_phrased needed
  | card => exact card_phrased needed
  | column | row => exact flex_phrased needed (by decide)
  | stack => exact stack_phrased needed
  | listView => exact listView_phrased needed kind
  | gridView => exact gridView_phrased needed
  | wrap => exact wrap_phrased needed
  | text => exact text_phrased needed kind
  | icon => exact icon_phrased needed
  | image => exact image_phrased needed
  | divider => exact divider_phrased needed
  | listTile => exact listTile_phrased needed
  | button => exact buttonVariant_phrased needed kind
  | elevatedButton => exact materialButton_phrased needed (.inr (.inl kind)) (by decide) (by decide)
  | textButton => exact materialButton_phrased needed (.inr (.inr (.inl kind))) (by decide) (by decide)
  | outlinedButton => exact materialButton_phrased needed (.inr (.inr (.inr kind))) (by decide) (by decide)
  | iconButton => exact iconButton_phrased needed
  | textField => exact textField_phrased needed
  | checkbox | «switch» => exact toggle_phrased needed (by decide) (known (by rw [kind]; rfl))
  | radio => exact radio_phrased needed (known (by rw [kind]; rfl))
  | slider => exact slider_phrased needed (known (by rw [kind]; rfl))
  | generic => exact mapped_phrased needed write (named kind) kind

end

end Form

end WidgetSource
