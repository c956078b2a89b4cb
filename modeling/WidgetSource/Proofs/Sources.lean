import WidgetSource.Proofs.Indentation
import WidgetSource.Proofs.RuntimeValues
import WidgetSource.Proofs.Unmapped

namespace WidgetSource

open Dart (Expr Reader Leads Begins Indented LaidOut isIdentifier)

namespace Source

def broken (lines : List String) : List Char :=
  lines.flatMap ('\n' :: ·.toList)

theorem break_intercalate (line : String) (lines : List String) :
    '\n' :: ("\n".intercalate (line :: lines)).toList = broken (line :: lines) := by
  induction lines generalizing line with
  | nil => simp [broken]
  | cons next lines ih =>
    have rest := ih next
    simp only [broken, List.flatMap_cons] at rest ⊢
    rw [String.intercalate_cons_cons, String.toList_append, String.toList_append, ← rest]
    simp

variable {options : Options} {outer between inner : List Char} {line body : String} {lines more : List String}

theorem lines_append (first : Leads options.indentSize outer between (broken lines))
    (second : Leads options.indentSize between inner (broken more)) :
    Leads options.indentSize outer inner (broken (lines ++ more)) := by
  rw [broken, List.flatMap_append]
  exact first.append second

theorem fixed_leads {text : String}
    (fixed : Reader.read ⟨.code, outer⟩ text.toList = some ⟨.code, inner⟩ ∧ '\n' ∉ text.toList) :
    Leads options.indentSize outer inner text.toList :=
  .of_read fixed.1 fixed.2

theorem begins_append {first : String} (begins : Begins first.toList) (second : String) :
    Begins (first ++ second).toList := by
  rw [String.toList_append]
  exact begins.append second.toList

theorem line_leads (begins : Begins line.toList) (leads : Leads options.indentSize [] inner line.toList) :
    Leads options.indentSize [] inner (broken [line]) := by
  have indented : Indented options.indentSize 0 line.toList := by simpa using begins.indented 0
  simpa [broken] using Leads.line indented leads

theorem padded_leads (begins : Begins line.toList) (leads : Leads options.indentSize outer inner line.toList) :
    Leads options.indentSize outer inner (broken [pad options outer.length ++ line]) := by
  have spaces := (Leads.spaces (options.indentSize * outer.length)).append leads
  simpa [broken, pad, Options.layout, Dart.Layout.pad, Dart.spaces] using
    Leads.line (begins.indented outer.length) spaces

theorem emptyLine_leads (nonempty : lines ≠ []) (rest : Leads options.indentSize outer inner (broken lines)) :
    Leads options.indentSize outer inner (broken ("" :: lines)) := by
  obtain ⟨line, lines, rfl⟩ := List.exists_cons_of_ne_nil nonempty
  exact Leads.emptyLine rest

theorem closing_leads : Leads options.indentSize ('}' :: outer) outer (broken [pad options outer.length ++ "\x7d"]) := by
  have closing : Leads options.indentSize ('}' :: outer) outer ['}'] := by
    refine .of_read ?_ (by decide)
    rw [Reader.read_cons, Reader.step_closing rfl]
    rfl
  have spaces := (Leads.spaces (options.indentSize * outer.length)).append closing
  simpa [broken, pad, Options.layout, Dart.Layout.pad, Dart.spaces] using
    Leads.line (Dart.indented_closing rfl outer.length []) spaces

theorem end_leads : Leads options.indentSize ['}'] [] (broken ["\x7d"]) := by
  have line : Leads options.indentSize ['}'] [] (broken [pad options 0 ++ "\x7d"]) := closing_leads
  simpa [pad, Options.layout, Dart.Layout.pad, Dart.spaces] using line

theorem override_leads : Leads options.indentSize ['}'] ['}'] (broken [pad options 1 ++ "@override"]) :=
  padded_leads ⟨_, _, rfl, rfl⟩ (fixed_leads (by decide))

theorem buildMethod_leads (leads : Leads options.indentSize ['}', '}'] ['}', '}'] body.toList) :
    Leads options.indentSize ['}'] ['}'] (broken (buildMethod options body)) := by
  have opening : Leads options.indentSize ['}'] ['}', '}']
      (broken [pad options 1 ++ "Widget build(BuildContext context) \x7b"]) :=
    padded_leads ⟨_, _, rfl, rfl⟩ (fixed_leads (by decide))
  have statement : Leads options.indentSize ['}', '}'] ['}', '}']
      (broken [pad options bodyLevel ++ ("return " ++ body ++ ";")]) := by
    have keyword : Leads options.indentSize ['}', '}'] ['}', '}'] "return ".toList := fixed_leads (by decide)
    have semicolon : Leads options.indentSize ['}', '}'] ['}', '}'] ";".toList := fixed_leads (by decide)
    refine padded_leads (begins_append (begins_append ⟨_, _, rfl, rfl⟩ body) ";") ?_
    simpa using keyword.append (leads.append semicolon)
  have lines := lines_append override_leads (lines_append opening (lines_append statement closing_leads))
  simpa [buildMethod, String.append_assoc] using lines

theorem classLine_leads {name rest : String} (name_leads : Leads options.indentSize [] [] name.toList)
    (rest_leads : Leads options.indentSize [] ['}'] rest.toList) :
    Leads options.indentSize [] ['}'] (broken ["class " ++ name ++ rest]) := by
  have keyword : Leads options.indentSize [] [] "class ".toList := fixed_leads (by decide)
  refine line_leads (begins_append (begins_append ⟨_, _, rfl, rfl⟩ name) rest) ?_
  simpa using keyword.append (name_leads.append rest_leads)

section

variable (named : isIdentifier options.widgetName = true)
include named

theorem widgetName_leads : Leads options.indentSize outer outer options.widgetName.toList :=
  .name (Dart.isWord_of_isIdentifier named)

theorem stateName_leads : Leads options.indentSize outer outer (stateName options).toList := by
  have name := Dart.isWord_iff.mp (Dart.isWord_of_isIdentifier named)
  refine .name (Dart.isWord_iff.mpr ⟨by simp [stateName], ?_⟩)
  simp only [stateName, String.toList_append, List.forall_mem_append]
  exact ⟨⟨List.all_eq_true.mp (by decide), name.2⟩, List.all_eq_true.mp (by decide)⟩

theorem constructor_leads : Leads options.indentSize ['}'] ['}'] (broken [constructor options]) := by
  have keyword : Leads options.indentSize ['}'] ['}'] "const ".toList := fixed_leads (by decide)
  have arguments : Leads options.indentSize ['}'] ['}'] "(\x7bsuper.key\x7d);".toList :=
    fixed_leads (by decide)
  have line : Leads options.indentSize ['}'] ['}']
      (broken [pad options 1 ++ ("const " ++ options.widgetName ++ "(\x7bsuper.key\x7d);")]) := by
    refine padded_leads (begins_append (begins_append ⟨_, _, rfl, rfl⟩ _) _) ?_
    simpa using keyword.append ((widgetName_leads named).append arguments)
  simpa [constructor, String.append_assoc] using line

theorem statelessClass_leads (leads : Leads options.indentSize ['}', '}'] ['}', '}'] body.toList) :
    Leads options.indentSize [] [] (broken (statelessClass options body)) := by
  have base : Leads options.indentSize [] ['}'] " extends StatelessWidget \x7b".toList :=
    fixed_leads (by decide)
  have opening := classLine_leads (widgetName_leads named) base
  have method := lines_append (buildMethod_leads leads) end_leads
  have lines := lines_append opening (lines_append (constructor_leads named) (emptyLine_leads (by simp) method))
  simpa [statelessClass] using lines

theorem createState_leads : Leads options.indentSize ['}'] ['}']
    (broken [pad options 1 ++ ("State<" ++ options.widgetName ++ "> createState() => " ++ stateName options ++ "();")]) := by
  have type : Leads options.indentSize ['}'] ['}'] "State<".toList := fixed_leads (by decide)
  have method : Leads options.indentSize ['}'] ['}'] "> createState() => ".toList := fixed_leads (by decide)
  have call : Leads options.indentSize ['}'] ['}'] "();".toList := fixed_leads (by decide)
  refine padded_leads (begins_append (begins_append (begins_append (begins_append ⟨_, _, rfl, rfl⟩ _) _) _) _) ?_
  simpa using type.append ((widgetName_leads named).append (method.append ((stateName_leads named).append call)))

theorem statefulClass_leads (leads : Leads options.indentSize ['}', '}'] ['}', '}'] body.toList) :
    Leads options.indentSize [] [] (broken (statefulClass options body)) := by
  have base : Leads options.indentSize [] ['}'] " extends StatefulWidget \x7b".toList :=
    fixed_leads (by decide)
  have widgetLine := classLine_leads (widgetName_leads named) base
  have stateLine : Leads options.indentSize [] ['}']
      (broken ["class " ++ stateName options ++ (" extends State<" ++ options.widgetName ++ "> \x7b")]) := by
    have first : Leads options.indentSize [] [] " extends State<".toList := fixed_leads (by decide)
    have last : Leads options.indentSize [] ['}'] "> \x7b".toList := fixed_leads (by decide)
    refine classLine_leads (stateName_leads named) ?_
    simpa using first.append ((widgetName_leads named).append last)
  have state := lines_append stateLine (lines_append (buildMethod_leads leads) end_leads)
  have members := lines_append override_leads (lines_append (createState_leads named) end_leads)
  have widget := lines_append widgetLine (lines_append (constructor_leads named) (emptyLine_leads (by simp) members))
  have lines := lines_append widget (emptyLine_leads (by simp) state)
  simpa [statefulClass, String.append_assoc] using lines

end

theorem widgetName_of_valid (valid : options.fault? = none) (wrapped : options.wrapInClass = true) :
    isIdentifier options.widgetName = true := by
  cases named : isIdentifier options.widgetName with
  | true => rfl
  | false =>
    simp only [Options.fault?, wrapped, named] at valid
    split at valid <;> simp at valid

theorem widgetLines_leads {runtime : Prop} {expr : Expr} (valid : options.fault? = none)
    (phrased : expr.Phrased runtime) : Leads options.indentSize [] []
      (broken (widgetLines options (expr.render options.layout options.rootLevel))) := by
  cases wrapped : options.wrapInClass with
  | false =>
    have inside := phrased.inside options.layout []
    simpa [widgetLines, Options.rootLevel, wrapped] using line_leads inside.begins inside.leads
  | true =>
    have named := widgetName_of_valid valid wrapped
    have inside := (phrased.inside options.layout ['}', '}']).leads
    have level : options.rootLevel = ['}', '}'].length := by simp [Options.rootLevel, wrapped, bodyLevel]
    rw [level]
    cases stateful : options.isStateful with
    | false => simpa [widgetLines, wrapped, stateful] using statelessClass_leads named inside
    | true => simpa [widgetLines, wrapped, stateful] using statefulClass_leads named inside

theorem widgetLines_ne_nil : widgetLines options body ≠ [] := by
  unfold widgetLines
  split
  · split <;> simp [statefulClass, statelessClass]
  · simp

theorem exists_lines (options : Options) (body : String) (imports : List String) :
    ∃ line more, Source.lines options body imports = line :: more :=
  List.exists_cons_of_ne_nil fun empty => widgetLines_ne_nil (List.append_eq_nil_iff.mp empty).2

theorem importLines_lead {imports : List String}
    (known : ∀ address ∈ imports, address = Mapping.materialImport ∨ address = Form.translationImport) :
    Leads options.indentSize [] [] (broken (imports.map importLine)) := by
  induction imports with
  | nil => exact .nil
  | cons address imports ih =>
    rw [List.forall_mem_cons] at known
    have line : Leads options.indentSize [] [] (broken [importLine address]) := by
      rcases known.1 with rfl | rfl <;> exact line_leads ⟨_, _, rfl, rfl⟩ (fixed_leads (by decide))
    exact lines_append line (ih known.2)

theorem lines_leads {imports : List String}
    (known : ∀ address ∈ imports, address = Mapping.materialImport ∨ address = Form.translationImport)
    (widget : Leads options.indentSize [] [] (broken (widgetLines options body))) :
    Leads options.indentSize [] [] (broken (Source.lines options body imports)) := by
  have header : Leads options.indentSize [] [] (broken Source.header) := by
    have first : Leads options.indentSize [] [] (broken ["/// Generated Flutter widget."]) :=
      line_leads ⟨_, _, rfl, rfl⟩ (fixed_leads (by decide))
    have second : Leads options.indentSize [] [] (broken ["/// Produced from a visual builder widget tree."]) :=
      line_leads ⟨_, _, rfl, rfl⟩ (fixed_leads (by decide))
    exact lines_append first second
  have below {first rest : List String} (wanted : Bool) (nonempty : rest ≠ [])
      (first_leads : Leads options.indentSize [] [] (broken first))
      (rest_leads : Leads options.indentSize [] [] (broken rest)) :
      Leads options.indentSize [] [] (broken ((if wanted then first ++ [""] else []) ++ rest)) := by
    cases wanted with
    | false => exact rest_leads
    | true => simpa using lines_append first_leads (emptyLine_leads nonempty rest_leads)
  rw [Source.lines, List.append_assoc]
  refine below _ ?_ header (below _ widgetLines_ne_nil (importLines_lead known) widget)
  exact fun empty => widgetLines_ne_nil (List.append_eq_nil_iff.mp empty).2

theorem text_laidOut {runtime : Prop} {expr : Expr} {imports : List String} (valid : options.fault? = none)
    (phrased : expr.Phrased runtime)
    (known : ∀ address ∈ imports, address = Mapping.materialImport ∨ address = Form.translationImport) :
    LaidOut options.indentSize .start
      ('\n' :: (text options (expr.render options.layout options.rootLevel) imports).toList) := by
  have leads := lines_leads known (widgetLines_leads valid phrased)
  obtain ⟨line, more, lines_eq⟩ := exists_lines options (expr.render options.layout options.rootLevel) imports
  rw [lines_eq, ← break_intercalate, ← lines_eq] at leads
  have whole := leads [] .nil
  rw [List.append_nil] at whole
  exact whole

end Source

variable (options : Options) {root : Node}

theorem source_laidOut (valid : options.fault? = none)
    (named : ∀ widget, Node.Within root widget → widget.kind = .generic → widget.Named) :
    ∃ generation, generate options .empty root = .ok generation ∧
      LaidOut options.indentSize .start ('\n' :: generation.code.toList) := by
  have phrased : (root.renderRoot options .empty).expr.Phrased True :=
    Node.render_phrased options 0 options.rootLevel root named fun _ => trivial
  exact ⟨.ofRendering options (root.renderRoot options .empty), by rw [generate, valid],
    Source.text_laidOut valid phrased (Node.allImports options root)⟩

/-- A reader gets through the source of a tree of names. No literal goes on to another line, no bracket closes another
one, and at the end nothing is open. -/
theorem generate_closed (valid : options.fault? = none)
    (named : ∀ widget, Node.Within root widget → widget.kind = .generic → widget.Named) :
    ∃ generation, generate options .empty root = .ok generation ∧
      Reader.start.read generation.code.toList = some .start := by
  obtain ⟨generation, generated, laidOut⟩ := source_laidOut options valid named
  exact ⟨generation, generated, laidOut.read⟩

def label : Node :=
  ⟨some "key')", "text", [("text", .text "it's (\n\x7b']"), ("style", .map [("] \x7b", .text "'")])], []⟩

def notice : Node :=
  ⟨none, "Acme.Notice", [("note", .text "a '[' or \\")], [label]⟩

theorem notice_within {widget : Node} (within : Node.Within notice widget) : widget = notice ∨ widget = label := by
  induction within with
  | root => exact .inl rfl
  | child _ member ih =>
    rcases ih with rfl | rfl
    · exact .inr (List.mem_singleton.mp member)
    · cases member
  | embedded _ member ih => rcases ih with rfl | rfl <;> cases member
  | header _ found ih => rcases ih with rfl | rfl <;> cases found

theorem notice_named : ∀ widget, Node.Within notice widget → widget.kind = .generic → widget.Named := by
  intro widget within isGeneric
  rcases notice_within within with rfl | rfl
  · exact ⟨⟨["Acme", "Notice"], by decide, by decide, by decide⟩, by decide⟩
  · cases isGeneric

theorem notice_closed : ({} : Options).fault? = none ∧
    (∀ widget, Node.Within notice widget → widget.kind = .generic → widget.Named) ∧
    ∃ generation, generate {} .empty notice = .ok generation ∧
      Reader.start.read generation.code.toList = some .start :=
  have valid : ({} : Options).fault? = none := by decide
  ⟨valid, notice_named, generate_closed {} valid notice_named⟩

def IsLine (cs before line : List Char) : Prop :=
  ∃ rest, cs = before ++ rest ∧ (before = [] ∨ before.getLast? = some '\n') ∧ line = rest.takeWhile (· != '\n')

/-- Every line of the source of a tree of names that is not empty stands in code, and it begins with the space of the
brackets that are open before it. -/
theorem generate_indented (valid : options.fault? = none)
    (named : ∀ widget, Node.Within root widget → widget.kind = .generic → widget.Named) :
    ∃ generation, generate options .empty root = .ok generation ∧
      ∀ before line, IsLine generation.code.toList before line → line ≠ [] →
        ∃ reader, Reader.start.read before = some reader ∧ reader.mode = .code ∧
          Indented options.indentSize reader.pending.length line := by
  obtain ⟨generation, generated, laidOut⟩ := source_laidOut options valid named
  refine ⟨generation, generated, ?_⟩
  rintro before line ⟨rest, code, begins, rfl⟩ nonempty
  rw [code, ← List.cons_append] at laidOut
  have broken : ('\n' :: before).getLast? = some '\n' := by
    rcases begins with rfl | last
    · rfl
    · simp [List.getLast?_cons, last]
  obtain ⟨reader, reads, inCode, follows⟩ := laidOut.line broken
  refine ⟨reader, reads, inCode, ?_⟩
  rcases follows with empty | indented
  · cases rest with
    | nil => exact absurd rfl nonempty
    | cons c rest => simp [empty c rfl] at nonempty
  · exact indented.firstLine

theorem notice_indented : ({} : Options).fault? = none ∧
    (∀ widget, Node.Within notice widget → widget.kind = .generic → widget.Named) ∧
    ∃ generation, generate {} .empty notice = .ok generation ∧
      ∀ before line, IsLine generation.code.toList before line → line ≠ [] →
        ∃ reader, Reader.start.read before = some reader ∧ reader.mode = .code ∧
          Indented 2 reader.pending.length line :=
  have valid : ({} : Options).fault? = none := by decide
  ⟨valid, notice_named, generate_indented {} valid notice_named⟩

end WidgetSource
