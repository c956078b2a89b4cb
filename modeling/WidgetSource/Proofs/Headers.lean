import WidgetSource.Proofs.Exchanges
import WidgetSource.Proofs.Respelling

namespace WidgetSource

open Dart (Expr)

variable {options : Options} {table : Mapping.Table} {depth another level : Nat}

theorem Fields.get?_insert_of_ne {α : Type} {name other : String} {a : α} {fields more : Fields α}
    (apart : other ≠ name) : get? name (fields ++ (other, a) :: more) = get? name (fields ++ more) := by
  rw [get?_append, get?_append, get?, if_neg apart]

theorem Fields.get?_insert_self {α : Type} {name : String} {a : α} {fields more : Fields α}
    (missing : get? name (fields ++ more) = none) : get? name (fields ++ (name, a) :: more) = some a := by
  rw [get?_append, Option.or_eq_none_iff] at missing
  rw [get?_append, missing.1, get?, if_pos rfl]
  rfl

theorem Kind.normalizeType_of_appBar {type : String} (isBar : ofType type = .appBar) :
    normalizeType type = "appbar" := by
  unfold ofType at isBar
  cases found : spellings.lookup (normalizeType type) with
  | none =>
    rw [found] at isBar
    cases isBar
  | some kind =>
    rw [found] at isBar
    obtain rfl : kind = .appBar := isBar
    obtain ⟨front, back, split, _⟩ := List.lookup_eq_some_iff.mp found
    have member : (normalizeType type, Kind.appBar) ∈ spellings := by simp [split]
    have only : ∀ entry ∈ spellings, entry.2 = .appBar → entry.1 = "appbar" := by decide
    exact only (normalizeType type, .appBar) member rfl

/-- A scaffold with the properties of its app bar. They stand between other properties or, as a widget, between
children. -/
structure Screen where
  id : Option String
  type : String
  early : Fields Value
  late : Fields Value
  before : List Node
  after : List Node
  bar : String
  header : Fields Value
  isScaffold : Kind.ofType type = .scaffold
  isBar : Kind.ofType bar = .appBar
  only : ∀ child ∈ before ++ after, child.kind ≠ .appBar
  unset : Fields.get? "appBar" (early ++ late) = none
  untyped : ∀ name, Fields.get? "type" header ≠ some (.text name)

namespace Screen

variable (screen : Screen)

def barChild : Node :=
  ⟨none, screen.bar, screen.header, []⟩

def withChild : Node :=
  ⟨screen.id, screen.type, screen.early ++ screen.late, screen.before ++ screen.barChild :: screen.after⟩

def withProperty : Node :=
  ⟨screen.id, screen.type, screen.early ++ ("appBar", .map screen.header) :: screen.late, screen.before ++ screen.after⟩

theorem appBar?_header : (Value.map screen.header).appBar? = some ⟨none, "AppBar", screen.header, []⟩ := by
  have undescribed : (Value.map screen.header).widget? = none := by
    unfold Value.widget?
    split
    · rename_i name typed
      exact absurd typed (screen.untyped name)
    · rfl
  unfold Value.appBar?
  rw [undescribed]

theorem barChild_respelled : screen.barChild.Respelled table ⟨none, "AppBar", screen.header, []⟩ := by
  refine .mk ⟨?_, .inr (.inl ?_)⟩ .nil
  · rw [Kind.normalizeType_of_appBar screen.isBar]
    decide
  · rw [screen.isBar]
    exact Kind.noConfusion

theorem barChild_agrees : (screen.barChild.render options table (depth + 1) (level + 1)).Agrees
    ((⟨none, "AppBar", screen.header, []⟩ : Node).render options table (another + 1) (level + 1)) := by
  -- The one bar may be spelled otherwise than the other, which the scaffold makes itself.
  apply Node.render_agrees_at (R := Node.Respelled table) Node.Respelled.id_eq Node.Respelled.entryImports_eq
  · exact Node.Respelled.isConstEligible_eq options.useConstConstructors
  · exact Node.Respelled.form_rel
  · exact screen.barChild_respelled

theorem property?_eq {name : String} (apart : "appBar" ≠ name) :
    screen.withProperty.property? name = screen.withChild.property? name :=
  congrArg (Option.filter _) (Fields.get?_insert_of_ne apart)

theorem property?_appBar : screen.withProperty.property? "appBar" = some (.map screen.header) := by
  show Option.filter _ (Fields.get? "appBar" (screen.early ++ ("appBar", .map screen.header) :: screen.late)) = _
  rw [Fields.get?_insert_self screen.unset]
  rfl

theorem not_isAppBar {child : Node} (member : child ∈ screen.before ++ screen.after) : Form.isAppBar child = false :=
  beq_eq_false_iff_ne.mpr (screen.only child member)

theorem isAppBar_barChild : Form.isAppBar screen.barChild = true :=
  beq_iff_eq.mpr screen.isBar

theorem splitHeader_withProperty :
    Form.splitHeader screen.withProperty.children = (none, screen.before ++ screen.after) := by
  have none : (screen.before ++ screen.after).filter Form.isAppBar = [] :=
    List.filter_eq_nil_iff.mpr fun child member => by simp [screen.not_isAppBar member]
  show Form.splitHeader (screen.before ++ screen.after) = _
  rw [Form.splitHeader, none]

theorem splitHeader_withChild :
    Form.splitHeader screen.withChild.children = (some screen.barChild, screen.before ++ screen.after) := by
  have front (child : Node) (member : child ∈ screen.before) : Form.isAppBar child = false :=
    screen.not_isAppBar (List.mem_append_left _ member)
  have back (child : Node) (member : child ∈ screen.after) : Form.isAppBar child = false :=
    screen.not_isAppBar (List.mem_append_right _ member)
  have bars : (screen.before ++ screen.barChild :: screen.after).filter Form.isAppBar = [screen.barChild] := by
    rw [List.filter_append, List.filter_cons_of_pos screen.isAppBar_barChild,
      List.filter_eq_nil_iff.mpr fun child member => by simp [front child member],
      List.filter_eq_nil_iff.mpr fun child member => by simp [back child member]]
    rfl
  have others : (screen.before ++ screen.barChild :: screen.after).filter (!Form.isAppBar ·) =
      screen.before ++ screen.after := by
    rw [List.filter_append, List.filter_cons_of_neg (by simp [screen.isAppBar_barChild]),
      List.filter_eq_self.mpr fun child member => by simp [front child member],
      List.filter_eq_self.mpr fun child member => by simp [back child member]]
  show Form.splitHeader (screen.before ++ screen.barChild :: screen.after) = _
  rw [Form.splitHeader, bars, others]

theorem headerSlot_alike : ArgsAlike options table depth another level
    (Form.headerSlot (some screen.barChild) screen.withChild) (Form.headerSlot none screen.withProperty) := by
  have agrees : (screen.barChild.render options table (depth + 1) (level + 1)).Agrees
      ((⟨none, "AppBar", screen.header, []⟩ : Node).render options table (another + 1) (level + 1)) :=
    screen.barChild_agrees
  rw [Form.headerSlot, Form.headerSlot, screen.property?_appBar, Option.bind_some, screen.appBar?_header]
  refine .cons ⟨?_, ?_⟩ .nil
  · simp only [Argument.map, Slot.map, Argument.inset, Slot.inset, Argument.entry, Slot.expr, agrees.expr]
  · simp only [Argument.map, Slot.map, Argument.inset, Slot.inset, Argument.imports, Argument.items, Slot.toList,
      List.flatMap_singleton, agrees.imports]

theorem floatingSlot_eq : Form.floatingSlot screen.withProperty = Form.floatingSlot screen.withChild := by
  rw [Form.floatingSlot, Form.floatingSlot, screen.property?_eq (by decide)]

theorem scaffold_agrees : Form.Agrees options table depth another level (Form.scaffold screen.withChild)
    (Form.scaffold screen.withProperty) := by
  have background := screen.property?_eq (show "appBar" ≠ "backgroundColor" by decide)
  have color : screen.withProperty.named [("backgroundColor", Dart.colorOf?)] =
      screen.withChild.named [("backgroundColor", Dart.colorOf?)] := by
    simp only [Node.named, Node.written?, List.flatMap_singleton, background]
  unfold Form.scaffold
  rw [screen.splitHeader_withChild, screen.splitHeader_withProperty, color, screen.property?_eq (by decide),
    screen.property?_eq (by decide), screen.floatingSlot_eq]
  exact .ofArgs (((((ArgsAlike.after _ screen.headerSlot_alike).before _).before _).before _).before _)

theorem withChild_canBeConst : screen.withChild.canBeConst table = false := by
  have bar : screen.barChild.canBeConst table = false := by
    have kind : screen.barChild.kind = .appBar := screen.isBar
    rw [Node.canBeConst_eq, Node.allowsConst, Node.isLocallyConst, kind]
    rfl
  have children : screen.withChild.children.all (·.canBeConst table) = false :=
    List.all_eq_false.mpr ⟨screen.barChild, by simp [withChild], by simp [bar]⟩
  rw [Node.canBeConst_eq, children, Bool.and_false]

theorem withProperty_canBeConst : screen.withProperty.canBeConst table = false := by
  have isScaffold : screen.withProperty.kind = .scaffold := screen.isScaffold
  have blocks : screen.withProperty.blocksConst table = true := by
    rw [Node.blocksConst_of_scaffold isScaffold, List.any_cons, screen.property?_appBar]
    rfl
  rw [Node.canBeConst_eq, Node.allowsConst, Node.not_const_of_blocks blocks]
  rfl

end Screen

inductive Node.MovesBar : Node → Node → Prop
  | mk (screen : Screen) : MovesBar screen.withChild screen.withProperty

theorem Node.MovesBar.interchangeable {node other : Node} (moves : node.MovesBar other) :
    node.Interchangeable options table other := by
  obtain ⟨screen⟩ := moves
  have constant : screen.withChild.canBeConst table = screen.withProperty.canBeConst table := by
    rw [screen.withChild_canBeConst, screen.withProperty_canBeConst]
  refine ⟨rfl, constant, fun depth another level => ?_⟩
  apply agrees_of_form
  · rfl
  · rfl
  · rw [isConstEligible, isConstEligible, constant]
  · have child : screen.withChild.kind = .scaffold := screen.isScaffold
    have property : screen.withProperty.kind = .scaffold := screen.isScaffold
    apply Form.Agrees.ofKind
    rw [child, property]
    exact screen.scaffold_agrees

/-- A scaffold is written alike with its app bar as a child and as a property, wherever the scaffold is in a tree, and
wherever the app bar stands among the children. -/
theorem generate_movesBar (options : Options) (table : Mapping.Table) {root other : Node}
    (exchanged : root.Exchanged Node.MovesBar other) (valid : options.fault? = none) :
    ∃ generation another, generate options table root = .ok generation ∧
      generate options table other = .ok another ∧
      generation.code = another.code ∧ generation.lineCount = another.lineCount ∧
      generation.imports = another.imports := by
  refine ⟨.ofRendering options (root.renderRoot options table), .ofRendering options (other.renderRoot options table),
    by rw [generate, valid], by rw [generate, valid], ?_⟩
  exact exchanged.source_eq options Node.MovesBar.interchangeable

def homeScreen : Screen where
  id := some "home"
  type := "Scaffold"
  early := []
  late := [("backgroundColor", .text "red")]
  before := [.ofType "text"]
  after := [.ofType "chip"]
  bar := "app_bar"
  header := [("title", .text "Home"), ("leading", .map [("type", .text "card")])]
  isScaffold := by decide
  isBar := by decide
  only := by decide
  unset := by decide
  untyped _ := nofun

theorem homeScreen_generated : homeScreen.withChild.Exchanged Node.MovesBar homeScreen.withProperty ∧
    ({} : Options).fault? = none ∧
    ∃ generation another, generate {} .stock homeScreen.withChild = .ok generation ∧
      generate {} .stock homeScreen.withProperty = .ok another ∧
      generation.code = another.code ∧ generation.lineCount = another.lineCount ∧
      generation.imports = another.imports := by
  have exchanged : homeScreen.withChild.Exchanged Node.MovesBar homeScreen.withProperty := .here (.mk homeScreen)
  have valid : ({} : Options).fault? = none := by decide
  exact ⟨exchanged, valid, generate_movesBar {} .stock exchanged valid⟩

end WidgetSource
