import WidgetSource.Proofs.Congruence
import WidgetSource.Proofs.Sources

/-!
# Sources around an expression

On a deeper level an expression is the same text with more space behind every break. The source of a tree is therefore
the text of its expression alone, moved to the level of the class and put between fixed lines.
-/
namespace WidgetSource

open Dart (Expr)

namespace Dart

def deepen (n : Nat) (cs : List Char) : List Char :=
  cs.flatMap fun c => if c = '\n' then '\n' :: List.replicate n ' ' else [c]

theorem deepen_oneLine {n : Nat} {cs : List Char} (oneLine : '\n' ∉ cs) : deepen n cs = cs := by
  induction cs with
  | nil => rfl
  | cons c cs ih =>
    rw [List.mem_cons, not_or] at oneLine
    have rest := ih oneLine.2
    rw [deepen] at rest ⊢
    rw [List.flatMap_cons, if_neg (Ne.symm oneLine.1), rest]
    rfl

theorem deepen_append (n : Nat) (cs ds : List Char) : deepen n (cs ++ ds) = deepen n cs ++ deepen n ds :=
  List.flatMap_append

theorem deepen_break (n : Nat) (cs : List Char) :
    deepen n ('\n' :: cs) = '\n' :: (List.replicate n ' ' ++ deepen n cs) :=
  List.flatMap_cons

theorem break_mem_deepen {n : Nat} {cs : List Char} : '\n' ∈ deepen n cs ↔ '\n' ∈ cs := by
  rw [deepen, List.mem_flatMap]
  constructor
  · rintro ⟨c, member, inside⟩
    by_cases isBreak : c = '\n'
    · exact isBreak ▸ member
    · rw [if_neg isBreak, List.mem_singleton] at inside
      exact absurd inside.symm isBreak
  · exact fun member => ⟨'\n', member, List.mem_cons_self⟩

theorem deepen_keeps (layout : Layout) (levels : Nat) :
    layout.Keeps levels fun cs ds => ds = deepen (layout.indent * levels) cs where
  line oneLine := (deepen_oneLine oneLine).symm
  append first second := by rw [deepen_append, first, second]
  pad level := by
    have spaces : '\n' ∉ List.replicate (layout.indent * level) ' ' := by simp
    rw [deepen_break, deepen_oneLine spaces, ← List.replicate_add, ← Nat.mul_add, Nat.add_comm]
  breaks related := by rw [related, break_mem_deepen]

theorem Expr.Phrased.render_deeper {runtime : Prop} {expr : Expr} (phrased : expr.Phrased runtime) (layout : Layout)
    (level levels : Nat) : (expr.render layout (level + levels)).toList =
      deepen (layout.indent * levels) (expr.render layout level).toList := by
  have keeps := deepen_keeps layout levels
  induction phrased generalizing level with
  | text phrase => exact keeps.line phrase.oneLine
  | @call constant name positional named isName _ _ allowed _ positional_ih named_ih =>
    have next : level + levels + 1 = level + 1 + levels := Nat.add_right_comm level levels 1
    have first : Related (fun cs ds => ds = deepen (layout.indent * levels) cs)
        (renderPositional layout (level + 1) positional).toList
        (renderPositional layout (level + 1 + levels) positional).toList := by
      cases positional with
      | none => exact .nil
      | some value => exact .cons (positional_ih value rfl (level + 1)) .nil
    have more : Related (fun cs ds => ds = deepen (layout.indent * levels) cs)
        (renderNamed layout (level + 1) named) (renderNamed layout (level + 1 + levels) named) := by
      rw [renderNamed_eq_map, renderNamed_eq_map, Related, List.forall₂_map_left_iff, List.forall₂_map_right_iff,
        List.forall₂_same]
      intro ⟨label, value⟩ member
      have value_eq := named_ih _ member (level + 1)
      cases label with
      | named label =>
        have isLabel := name_oneLine (isWord_iff.mp (isWord_of_isIdentifier (allowed _ member).1)).2
        have colon : '\n' ∉ ": ".toList := by decide
        simpa [Label.write] using keeps.append (keeps.line isLabel) (keeps.append (keeps.line colon) value_eq)
      | spelled label => exact value_eq
    rw [Expr.render, Expr.render, next]
    exact keeps.constant (keeps.call (keeps.line (name_oneLine (isWord_iff.mp isName).2)) first more level) constant
  | @list items _ ih =>
    have next : level + levels + 1 = level + 1 + levels := Nat.add_right_comm level levels 1
    have related : Related (fun cs ds => ds = deepen (layout.indent * levels) cs)
        (renderItems layout (level + 1) items) (renderItems layout (level + 1 + levels) items) := by
      rw [renderItems_eq_map, renderItems_eq_map, Related, List.forall₂_map_left_iff, List.forall₂_map_right_iff,
        List.forall₂_same]
      exact fun item member => ih item member (level + 1)
    rw [Expr.render, Expr.render, next]
    exact keeps.list related level

def deepened (n : Nat) (s : String) : String :=
  String.ofList (deepen n s.toList)

end Dart

namespace Source

def row (space : Nat) (line : String) : String :=
  Dart.spaces space ++ line ++ "\n"

def preface (options : Options) (imports : List String) : String :=
  (if options.includeComments then
    "/// Generated Flutter widget.\n/// Produced from a visual builder widget tree.\n\n"
  else "") ++
  if options.includeImports then String.join (imports.map fun address => "import '" ++ address ++ "';\n") ++ "\n"
  else ""

def methodText (indent : Nat) (body : String) : String :=
  row indent "@override" ++ row indent "Widget build(BuildContext context) \x7b" ++
    row (2 * indent) ("return " ++ body ++ ";") ++ row indent "\x7d"

def statelessText (name : String) (indent : Nat) (body : String) : String :=
  row 0 ("class " ++ name ++ " extends StatelessWidget \x7b") ++
    row indent ("const " ++ name ++ "(\x7bsuper.key\x7d);") ++ row 0 "" ++ methodText indent body ++ "\x7d"

def statefulText (name : String) (indent : Nat) (body : String) : String :=
  let state := "_" ++ name ++ "State"
  row 0 ("class " ++ name ++ " extends StatefulWidget \x7b") ++
    row indent ("const " ++ name ++ "(\x7bsuper.key\x7d);") ++ row 0 "" ++ row indent "@override" ++
    row indent ("State<" ++ name ++ "> createState() => " ++ state ++ "();") ++ row 0 "\x7d" ++ row 0 "" ++
    row 0 ("class " ++ state ++ " extends State<" ++ name ++ "> \x7b") ++ methodText indent body ++ "\x7d"

/-- The source around an expression that is given as it is written alone. In a class it stands two levels deeper. -/
def around (options : Options) (imports : List String) (bare : String) : String :=
  let body := Dart.deepened (2 * options.indentSize) bare
  preface options imports ++
    if options.wrapInClass then
      if options.isStateful then statefulText options.widgetName options.indentSize body
      else statelessText options.widgetName options.indentSize body
    else bare

theorem intercalate_append (lines : List String) {more : List String} (nonempty : more ≠ []) :
    "\n".intercalate (lines ++ more) = String.join (lines.map (· ++ "\n")) ++ "\n".intercalate more := by
  induction lines with
  | nil => simp
  | cons line lines ih =>
    obtain ⟨next, rest, same⟩ := List.exists_cons_of_ne_nil (List.append_ne_nil_of_right_ne_nil lines nonempty)
    rw [List.cons_append, same, String.intercalate_cons_cons, ← same, ih]
    simp [String.append_assoc]

variable (options : Options) (body : String)

theorem text_eq_preface (imports : List String) :
    text options body imports = preface options imports ++ "\n".intercalate (widgetLines options body) := by
  have empty : String.join ([""].map (· ++ "\n")) = "\n" := rfl
  have comment : String.join ((header ++ [""]).map (· ++ "\n")) =
      "/// Generated Flutter widget.\n/// Produced from a visual builder widget tree.\n\n" := rfl
  rw [text, lines, intercalate_append _ widgetLines_ne_nil, preface]
  congr 1
  rw [List.map_append, String.join_append]
  congr 1
  · split
    · exact comment
    · rfl
  · split
    · simp [importLine, Function.comp_def, String.append_assoc]
    · rfl

theorem spaces_zero : Dart.spaces 0 = "" := rfl

theorem pad_eq (level : Nat) : pad options level = Dart.spaces (level * options.indentSize) := by
  rw [Nat.mul_comm]
  rfl

theorem statelessClass_text : "\n".intercalate (statelessClass options body) =
    statelessText options.widgetName options.indentSize body := by
  simp only [statelessClass, constructor, buildMethod, bodyLevel, pad_eq, Nat.one_mul, List.cons_append,
    List.nil_append, String.intercalate_cons_cons, String.intercalate_singleton, statelessText, methodText, row,
    spaces_zero, String.empty_append, String.append_assoc]

theorem statefulClass_text : "\n".intercalate (statefulClass options body) =
    statefulText options.widgetName options.indentSize body := by
  simp only [statefulClass, constructor, stateName, buildMethod, bodyLevel, pad_eq, Nat.one_mul, List.cons_append,
    List.nil_append, String.intercalate_cons_cons, String.intercalate_singleton, statefulText, methodText, row,
    spaces_zero, String.empty_append, String.append_assoc]

end Source

def Options.bare (options : Options) : Options :=
  { options with includeImports := false, includeComments := false, wrapInClass := false }

variable (options : Options) {root : Node}

theorem Options.bare_valid (valid : options.fault? = none) : options.bare.fault? = none := by
  unfold fault? at valid ⊢
  split at valid
  · cases valid
  · rename_i inRange
    exact if_neg inRange

theorem Source.text_eq_around {runtime : Prop} {expr : Expr} (phrased : expr.Phrased runtime) (imports : List String) :
    text options (expr.render options.layout options.rootLevel) imports =
      around options imports (expr.render options.layout 0) := by
  rw [text_eq_preface, around, widgetLines]
  congr 1
  cases wrapped : options.wrapInClass with
  | false => simp [Options.rootLevel, wrapped]
  | true =>
    have deeper := phrased.render_deeper options.layout 0 bodyLevel
    have body : expr.render options.layout options.rootLevel =
        Dart.deepened (2 * options.indentSize) (expr.render options.layout 0) := by
      rw [Options.rootLevel, wrapped, if_pos rfl, ← String.toList_inj, Dart.deepened, String.toList_ofList,
        Nat.mul_comm, ← Nat.zero_add bodyLevel, deeper]
      rfl
    rw [body]
    cases options.isStateful with
    | false => exact statelessClass_text options _
    | true => exact statefulClass_text options _

/-- The source of a tree of names is the expression alone with fixed text around it. In a class only the space behind its
breaks is wider. -/
theorem generate_around (valid : options.fault? = none)
    (named : ∀ widget, Node.Within root widget → widget.kind = .generic → widget.Named) :
    ∃ generation bare, generate options .empty root = .ok generation ∧
      generate options.bare .empty root = .ok bare ∧
      generation.code = Source.around options generation.imports bare.code := by
  have phrased : (root.renderRoot options .empty).expr.Phrased True :=
    Node.render_phrased options 0 options.rootLevel root named fun _ => trivial
  have same : root.renderRoot options .empty = root.renderRoot options.bare .empty :=
    Node.render_empty_eq options options.bare rfl rfl 0 options.rootLevel options.bare.rootLevel root
  refine ⟨.ofRendering options (root.renderRoot options .empty),
    .ofRendering options.bare (root.renderRoot options .empty), by rw [generate, valid], ?_, ?_⟩
  · rw [generate, options.bare_valid valid, same]
  · have alone : (Generation.ofRendering options.bare (root.renderRoot options .empty)).code =
        (root.renderRoot options .empty).expr.render options.layout 0 :=
      String.intercalate_singleton (s := "\n")
    rw [alone]
    exact Source.text_eq_around options phrased _

def statefulOptions : Options :=
  { indentSize := 3, isStateful := true }

theorem notice_around : statefulOptions.fault? = none ∧
    (∀ widget, Node.Within notice widget → widget.kind = .generic → widget.Named) ∧
    ∃ generation bare, generate statefulOptions .empty notice = .ok generation ∧
      generate statefulOptions.bare .empty notice = .ok bare ∧
      generation.code = Source.around statefulOptions generation.imports bare.code :=
  have valid : statefulOptions.fault? = none := by decide
  ⟨valid, notice_named, generate_around statefulOptions valid notice_named⟩

end WidgetSource
