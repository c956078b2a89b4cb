import WidgetSource.Proofs.Density
import WidgetSource.Proofs.LineCounts
import WidgetSource.Proofs.Sources

namespace WidgetSource

open Dart (Expr NoLonger breaks breaks_append squeeze Solid EndsFirmly)

def Options.withLayout (layout : Dart.Layout) (options : Options) : Options :=
  { options with format := layout.format, indentSize := layout.indent }

namespace Source

section

variable {options : Options} {layout : Dart.Layout} {body otherBody : String} {R : String → String → Prop}
  (refl : ∀ s, R s s)
  (padded : ∀ level s, R (pad options level ++ s) (pad (options.withLayout layout) level ++ s))
  (statement : R (pad options bodyLevel ++ ("return " ++ body ++ ";"))
    (pad (options.withLayout layout) bodyLevel ++ ("return " ++ otherBody ++ ";")))
include padded

theorem constructor_related : R (constructor options) (constructor (options.withLayout layout)) := by
  simp only [constructor, String.append_assoc]
  exact padded 1 _

include statement

theorem buildMethod_related :
    List.Forall₂ R (buildMethod options body) (buildMethod (options.withLayout layout) otherBody) := by
  simp only [buildMethod, String.append_assoc] at statement ⊢
  exact .cons (padded 1 _) (.cons (padded 1 _) (.cons statement (.cons (padded 1 _) .nil)))

include refl

theorem widgetLines_related (bodies : R body otherBody) :
    List.Forall₂ R (widgetLines options body) (widgetLines (options.withLayout layout) otherBody) := by
  have method := buildMethod_related padded statement
  have init := constructor_related padded
  have last : List.Forall₂ R ["\x7d"] ["\x7d"] := .cons (refl _) .nil
  have wrapped : (options.withLayout layout).wrapInClass = options.wrapInClass := rfl
  have stateful : (options.withLayout layout).isStateful = options.isStateful := rfl
  rw [widgetLines, widgetLines, wrapped, stateful]
  split
  · split
    · have creates := padded 1 ("State<" ++ options.widgetName ++ "> createState() => " ++ stateName options ++ "();")
      simp only [← String.append_assoc] at creates
      exact List.rel_append (List.rel_append (.cons (refl _) (.cons init (.cons (refl _) (.cons (padded 1 _)
        (.cons creates (.cons (refl _) (.cons (refl _) (.cons (refl _) .nil)))))))) method) last
    · exact List.rel_append (List.rel_append (.cons (refl _) (.cons init (.cons (refl _) .nil))) method) last
  · exact .cons bodies .nil

theorem lines_related (bodies : R body otherBody) (imports : List String) :
    List.Forall₂ R (lines options body imports) (lines (options.withLayout layout) otherBody imports) := by
  have same (texts : List String) : List.Forall₂ R texts texts := List.forall₂_same.mpr fun s _ => refl s
  exact List.rel_append (same _) (widgetLines_related refl padded statement bodies)

end

theorem breaks_text (options : Options) (body : String) (imports : List String) :
    breaks (text options body imports) + 1 =
      ((lines options body imports).map breaks).sum + (lines options body imports).length := by
  obtain ⟨line, more, lines_eq⟩ := exists_lines options body imports
  have one : breaks "\n" = 1 := by decide
  rw [text, lines_eq, Dart.breaks_intercalate, one, List.length_cons]
  omega

theorem text_noLonger {options : Options} {layout : Dart.Layout} {body otherBody : String}
    (noLonger : breaks body ≤ breaks otherBody) (imports : List String) :
    breaks (text options body imports) ≤ breaks (text (options.withLayout layout) otherBody imports) := by
  have related : NoLonger (lines options body imports) (lines (options.withLayout layout) otherBody imports) := by
    refine lines_related (fun s => Nat.le_refl _) (fun level s => ?_) ?_ noLonger imports
    · simp [breaks_append, pad, Dart.Layout.pad, Dart.breaks_spaces]
    · simp only [breaks_append, pad, Dart.Layout.pad, Dart.breaks_spaces]
      omega
  have first := breaks_text options body imports
  have second := breaks_text (options.withLayout layout) otherBody imports
  have sums := related.sum
  have lengths := related.length_eq
  omega

theorem ends_append {second : String} (ends : EndsFirmly second.toList) (first : String) :
    EndsFirmly (first ++ second).toList := by
  rw [String.toList_append]
  exact ends.after first.toList

def IsClosed (line : String) : Prop :=
  line = "" ∨ EndsFirmly line.toList

theorem IsClosed.fixed {line : String}
    (firm : ∃ nonempty : line.toList ≠ [], Dart.isFirm (line.toList.getLast nonempty) = true) : IsClosed line :=
  .inr (.of_last firm.1 firm.2)

theorem IsClosed.before {last : String}
    (firm : ∃ nonempty : last.toList ≠ [], Dart.isFirm (last.toList.getLast nonempty) = true) (first : String) :
    IsClosed (first ++ last) :=
  .inr (ends_append (.of_last firm.1 firm.2) first)

theorem buildMethod_closed (options : Options) (body : String) : ∀ line ∈ buildMethod options body, IsClosed line := by
  simp only [buildMethod, List.forall_mem_cons]
  exact ⟨.before (by decide) _, .before (by decide) _, .before (by decide) _,
    .before (by decide) _, fun _ none => absurd none List.not_mem_nil⟩

theorem widgetLines_closed (options : Options) {body : String} (ends : EndsFirmly body.toList) :
    ∀ line ∈ widgetLines options body, IsClosed line := by
  have method := buildMethod_closed options body
  have init : IsClosed (constructor options) := .before (by decide) _
  have last : IsClosed "\x7d" := .fixed (by decide)
  have empty : IsClosed "" := .inl rfl
  have none : ∀ line ∈ ([] : List String), IsClosed line := fun _ member => absurd member List.not_mem_nil
  unfold widgetLines
  split
  · split
    · simp only [statefulClass, List.forall_mem_append, List.forall_mem_cons]
      exact ⟨⟨⟨.before (by decide) _, init, empty, .before (by decide) _,
        .before (by decide) _, last, empty, .before (by decide) _, none⟩, method⟩, last, none⟩
    · simp only [statelessClass, List.forall_mem_append, List.forall_mem_cons]
      exact ⟨⟨⟨.before (by decide) _, init, empty, none⟩, method⟩, last, none⟩
  · exact List.forall_mem_singleton.mpr (.inr ends)

theorem lines_closed (options : Options) {body : String} (ends : EndsFirmly body.toList) (imports : List String) :
    ∀ line ∈ lines options body imports, IsClosed line := by
  have empty : IsClosed "" := .inl rfl
  have comments : ∀ line ∈ header ++ [""], IsClosed line := by
    simp only [header, List.cons_append, List.nil_append, List.forall_mem_cons]
    exact ⟨.fixed (by decide), .fixed (by decide), empty,
      fun _ none => absurd none List.not_mem_nil⟩
  have addresses : ∀ line ∈ imports.map importLine ++ [""], IsClosed line := by
    refine List.forall_mem_append.mpr ⟨List.forall_mem_map.mpr fun address _ => ?_, List.forall_mem_singleton.mpr empty⟩
    exact .before (by decide) _
  refine List.forall_mem_append.mpr ⟨List.forall_mem_append.mpr ⟨?_, ?_⟩, widgetLines_closed options ends⟩
  · split
    · exact comments
    · exact fun _ none => absurd none List.not_mem_nil
  · split
    · exact addresses
    · exact fun _ none => absurd none List.not_mem_nil

theorem solid_of_read {lines : List String} (closed : ∀ line ∈ lines, IsClosed line) {reader next : Dart.Reader}
    (reads : reader.read (broken lines) = some next) (inCode : next.mode = .code) :
    ∀ line ∈ lines, Solid line.toList := by
  induction lines generalizing reader with
  | nil => exact fun _ none => absurd none List.not_mem_nil
  | cons line lines ih =>
    rw [List.forall_mem_cons] at closed ⊢
    have parts : broken (line :: lines) = '\n' :: (line.toList ++ broken lines) := rfl
    rw [parts, Dart.Reader.read_cons] at reads
    obtain ⟨first, stepped, reads⟩ := Option.bind_eq_some_iff.mp reads
    rw [Dart.Reader.read_append] at reads
    obtain ⟨between, line_reads, reads⟩ := Option.bind_eq_some_iff.mp reads
    refine ⟨?_, ih closed.2 reads⟩
    have start := (Dart.Reader.inCode_of_break stepped).2
    have mode : line.toList.foldl Dart.Mode.next .code = between.mode := start ▸ Dart.Reader.read_mode line_reads
    -- The line after this one begins with a break, which is read in code only.
    have stop : between.mode = .code := by
      cases lines with
      | nil =>
        cases reads
        exact inCode
      | cons other lines =>
        obtain ⟨_, stepped, _⟩ := Option.bind_eq_some_iff.mp reads
        exact (Dart.Reader.inCode_of_break stepped).1
    rcases closed.1 with rfl | ends
    · exact .nil
    · exact .of_ends ends (mode.trans stop)

theorem squeeze_broken {lines : List String} (solid : ∀ line ∈ lines, Solid line.toList) :
    squeeze (broken lines) = lines.flatMap fun line => squeeze line.toList := by
  induction lines with
  | nil => rfl
  | cons line lines ih =>
    rw [List.forall_mem_cons] at solid
    have parts : broken (line :: lines) = '\n' :: (line.toList ++ broken lines) := rfl
    rw [parts, Dart.squeeze_added rfl, solid.1, ih solid.2, List.flatMap_cons]

theorem flatMap_squeeze_eq {lines others : List String}
    (related : List.Forall₂ (fun s t => squeeze s.toList = squeeze t.toList) lines others) :
    (lines.flatMap fun line => squeeze line.toList) = others.flatMap fun line => squeeze line.toList := by
  induction related with
  | nil => rfl
  | cons same _ ih => rw [List.flatMap_cons, List.flatMap_cons, same, ih]

theorem squeeze_pad (options : Options) (level : Nat) (s : String) :
    squeeze (pad options level ++ s).toList = squeeze s.toList := by
  have blank : ∀ c ∈ (pad options level).toList, Dart.isBlank c = true := by
    intro c member
    simp only [pad, Dart.Layout.pad, Dart.spaces, String.toList_ofList] at member
    rw [(List.mem_replicate.mp member).2]
    rfl
  rw [String.toList_append]
  exact (Dart.squeeze_blanks blank s.toList).1

theorem squeeze_statement {body : String} (solid : Solid body.toList) :
    squeeze ("return " ++ body ++ ";").toList = "return".toList ++ (squeeze body.toList ++ [';']) := by
  have keyword : Solid (['r', 'e', 't', 'u', 'r', 'n'] ++ [' ']) := .keyword (by decide)
  have parts : ("return " ++ body ++ ";").toList =
      (['r', 'e', 't', 'u', 'r', 'n'] ++ [' ']) ++ (body.toList ++ [';']) := by simp
  rw [parts, keyword, solid]
  rfl

section

variable {runtime : Prop} {expr : Expr} {imports : List String} (phrased : expr.Phrased runtime)
  (known : ∀ address ∈ imports, address = Mapping.materialImport ∨ address = Form.translationImport)
include phrased known

theorem squeeze_text {options : Options} (valid : options.fault? = none) :
    squeeze (text options (expr.render options.layout options.rootLevel) imports).toList =
      (lines options (expr.render options.layout options.rootLevel) imports).flatMap fun line => squeeze line.toList := by
  have ends := (phrased.render options.layout options.rootLevel).endsFirmly
  have reads := (text_laidOut valid phrased known).read
  obtain ⟨line, more, lines_eq⟩ := exists_lines options (expr.render options.layout options.rootLevel) imports
  rw [text, lines_eq, break_intercalate, ← lines_eq] at reads
  rw [← squeeze_broken (solid_of_read (lines_closed options ends imports) reads rfl), lines_eq, ← break_intercalate,
    Dart.squeeze_added rfl, text, lines_eq]

theorem squeeze_text_eq {options : Options} {layout : Dart.Layout} (valid : options.fault? = none)
    (otherValid : (options.withLayout layout).fault? = none) :
    squeeze (text options (expr.render options.layout options.rootLevel) imports).toList =
      squeeze (text (options.withLayout layout) (expr.render layout options.rootLevel) imports).toList := by
  have bodies := phrased.squeeze_render options.layout layout options.rootLevel options.rootLevel
  have solid := (phrased.render options.layout options.rootLevel).solid
  have otherSolid := (phrased.render layout options.rootLevel).solid
  have related : List.Forall₂ (fun s t => squeeze s.toList = squeeze t.toList)
      (lines options (expr.render options.layout options.rootLevel) imports)
      (lines (options.withLayout layout) (expr.render layout options.rootLevel) imports) := by
    refine lines_related (R := fun s t => squeeze s.toList = squeeze t.toList) (fun _ => rfl) (fun level s => ?_) ?_
      bodies imports
    · rw [squeeze_pad, squeeze_pad]
    · rw [squeeze_pad, squeeze_pad, squeeze_statement solid, squeeze_statement otherSolid, bodies]
  rw [squeeze_text phrased known valid, flatMap_squeeze_eq related]
  exact (squeeze_text phrased known otherValid).symm

end

end Source

variable (options : Options) {root : Node}

/-- Of a source in another layout only the text is another, and it differs in nothing that is not layout. In the compact
format it takes no more lines than in the expanded one. -/
theorem generate_withLayout (layout : Dart.Layout) (valid : options.fault? = none)
    (otherValid : (options.withLayout layout).fault? = none)
    (named : ∀ widget, Node.Within root widget → widget.kind = .generic → widget.Named) :
    ∃ generation other, generate options .empty root = .ok generation ∧
      generate (options.withLayout layout) .empty root = .ok other ∧
      generation.imports = other.imports ∧ generation.widgetCount = other.widgetCount ∧
      generation.maxDepth = other.maxDepth ∧ generation.statistics = other.statistics ∧
      squeeze generation.code.toList = squeeze other.code.toList ∧
      (options.format = .compact → layout.format = .expanded → generation.lineCount ≤ other.lineCount) := by
  have phrased : (root.renderRoot options .empty).expr.Phrased True :=
    Node.render_phrased options 0 options.rootLevel root named fun _ => trivial
  have known := Node.allImports options root
  have same : root.renderRoot options .empty = root.renderRoot (options.withLayout layout) .empty :=
    Node.render_empty_eq options (options.withLayout layout) rfl rfl 0 options.rootLevel options.rootLevel root
  refine ⟨.ofRendering options (root.renderRoot options .empty),
    .ofRendering (options.withLayout layout) (root.renderRoot options .empty), by rw [generate, valid], ?_, rfl, rfl, rfl,
    rfl, ?_, fun compact expanded => ?_⟩
  · rw [generate, otherValid, same]
  · exact Source.squeeze_text_eq phrased known valid otherValid
  · have isCompact : options.layout.format = .compact := compact
    have noLonger := Expr.render_noLonger isCompact expanded options.rootLevel options.rootLevel
      (root.renderRoot options .empty).expr
    exact Nat.succ_le_succ (Source.text_noLonger noLonger _)

def compactOptions : Options :=
  { indentSize := 1, format := .compact }

theorem notice_withLayout : compactOptions.fault? = none ∧ (compactOptions.withLayout ⟨4, .expanded⟩).fault? = none ∧
    (∀ widget, Node.Within notice widget → widget.kind = .generic → widget.Named) ∧
    ∃ generation other, generate compactOptions .empty notice = .ok generation ∧
      generate (compactOptions.withLayout ⟨4, .expanded⟩) .empty notice = .ok other ∧
      generation.imports = other.imports ∧ generation.widgetCount = other.widgetCount ∧
      generation.maxDepth = other.maxDepth ∧ generation.statistics = other.statistics ∧
      squeeze generation.code.toList = squeeze other.code.toList ∧ generation.lineCount ≤ other.lineCount := by
  have valid : compactOptions.fault? = none := by decide
  have otherValid : (compactOptions.withLayout ⟨4, .expanded⟩).fault? = none := by decide
  obtain ⟨generation, other, generated, otherGenerated, imports, widgets, depth, statistics, squeezed, lines⟩ :=
    generate_withLayout compactOptions ⟨4, .expanded⟩ valid otherValid notice_named
  exact ⟨valid, otherValid, notice_named, generation, other, generated, otherGenerated, imports, widgets, depth,
    statistics, squeezed, lines rfl rfl⟩

end WidgetSource
