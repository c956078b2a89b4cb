import WidgetSource.Form.Leaf

namespace WidgetSource.Form

open Dart (Expr)

/-- A slot that a single text or number fills with a text. -/
def labelSlot (name : String) (node : Node) : List (Argument Node) :=
  match node.property? name with
  | some (.text s) => [.text name ("Text(" ++ Dart.textOf (.text s) ++ ")")]
  | some (.number x) => [.text name ("Text(" ++ Dart.textOf (.number x) ++ ")")]
  | value => Node.embeddedIn name value

def iconSlot (name : String) (node : Node) : List (Argument Node) :=
  match node.property? name with
  | some (.text icon) => [.text name ("Icon(" ++ Dart.iconOf icon ++ ")")]
  | value => Node.embeddedIn name value

def listTile (node : Node) : Form :=
  { target := "ListTile"
    args :=
      iconSlot "leading" node ++ labelSlot "title" node ++ labelSlot "subtitle" node ++ iconSlot "trailing" node ++
      node.named [
        ("dense", Dart.boolOf?), ("enabled", Dart.boolOf?), ("onTap", .constant tapStub),
        ("onLongPress", .constant tapStub)] }

def appBar (node : Node) : Form :=
  { target := "AppBar"
    args :=
      iconSlot "leading" node ++ node.named [("automaticallyImplyLeading", Dart.boolOf?)] ++ labelSlot "title" node ++
      Node.embeddedIn "actions" (node.property? "actions") ++
      node.named [
        ("elevation", Dart.doubleOf?), ("backgroundColor", Dart.colorOf?), ("foregroundColor", Dart.colorOf?),
        ("centerTitle", Dart.boolOf?), ("toolbarHeight", Dart.doubleOf?)] }

def isAppBar (node : Node) : Bool :=
  node.kind == .appBar

/-- The app bar among the children if there is exactly one, and the children of the body. -/
def splitHeader (nodes : List Node) : Option Node × List Node :=
  match nodes.filter isAppBar with
  | [header] => (some header, nodes.filter (!isAppBar ·))
  | _ => (none, nodes)

def headerSlot (header : Option Node) (node : Node) : List (Argument Node) :=
  match header with
  | some header => [.slot "appBar" false (.one header)]
  | none => (((node.property? "appBar").bind Value.appBar?).map fun bar => .slot "appBar" true (.one bar)).toList

def floatingButton (properties : Fields Value) : Expr :=
  let property (name : String) := (Fields.get? name properties).filter (!·.isNull)
  let icon := ((property "icon").bind Value.text?).map Dart.iconOf
  .ofArgs "FloatingActionButton" (Dart.given [
    some ("onPressed", .text (if (property "onPressed").isSome then tapStub else "null")),
    Dart.argument? "tooltip" ((property "tooltip").bind Writer.text),
    Dart.argument? "backgroundColor" ((property "backgroundColor").bind Dart.colorOf?),
    some ("child", .text ("Icon(" ++ icon.getD "Icons.add" ++ ")"))])

/-- The slot of the floating button: a widget, or the properties of a floating button. -/
def floatingSlot (node : Node) : List (Argument Node) :=
  match node.property? "floatingActionButton" with
  | none => []
  | some value =>
    match value.widget?, value with
    | some widget, _ => [.slot "floatingActionButton" true (.one widget)]
    | none, .map properties => [.value (.named "floatingActionButton") (floatingButton properties)]
    | none, _ => []

def scaffold (node : Node) : Form :=
  let (header, body) := splitHeader node.children
  { target := "Scaffold"
    args :=
      node.named [("backgroundColor", Dart.colorOf?)] ++ headerSlot header node ++ Node.childSlot "body" body ++
      Node.embeddedIn "drawer" (node.property? "drawer") ++
      Node.embeddedIn "bottomNavigationBar" (node.property? "bottomNavigationBar") ++ floatingSlot node }

variable (node : Node)

theorem labelSlot_lighter (name : String) : Lighter node (labelSlot name node) := by
  unfold labelSlot
  split
  · exact .cons_text _ _ .nil
  · exact .cons_text _ _ .nil
  · exact .embeddedProperty name name

theorem iconSlot_lighter (name : String) : Lighter node (iconSlot name node) := by
  unfold iconSlot
  split
  · exact .cons_text _ _ .nil
  · exact .embeddedProperty name name

theorem listTile_lighter : Lighter node (listTile node).args :=
  .append (.append (.append (.append (iconSlot_lighter node _) (labelSlot_lighter node _)) (labelSlot_lighter node _))
    (iconSlot_lighter node _)) (.named _)

theorem appBar_lighter : Lighter node (appBar node).args :=
  .append (.append (.append (.append (iconSlot_lighter node _) (.named _)) (labelSlot_lighter node _))
    (.embeddedProperty _ _)) (.named _)

theorem header_mem {nodes body : List Node} {header : Node} (h : splitHeader nodes = (some header, body)) :
    header ∈ nodes := by
  unfold splitHeader at h
  split at h
  · rename_i only same
    simp only [Prod.mk.injEq, Option.some.injEq] at h
    exact (List.mem_filter.mp (h.1 ▸ same ▸ List.mem_singleton_self only)).1
  · simp at h

theorem body_subset {nodes body : List Node} {header : Option Node} (h : splitHeader nodes = (header, body)) :
    ∀ child ∈ body, child ∈ nodes := by
  unfold splitHeader at h
  intro child member
  split at h <;> simp only [Prod.mk.injEq] at h <;> rw [← h.2] at member
  · exact (List.mem_filter.mp member).1
  · exact member

theorem headerSlot_lighter {header : Option Node} (h : ∀ bar, header = some bar → bar.weight < node.weight) :
    Lighter node (headerSlot header node) := by
  intro arg member item inside
  unfold headerSlot at member
  split at member
  · simp only [List.mem_singleton] at member
    subst member
    simp only [Argument.items, Slot.toList, List.mem_singleton] at inside
    exact h item (by rw [inside])
  · obtain ⟨bar, found, rfl⟩ := Option.map_eq_some_iff.mp (Option.mem_toList.mp member)
    obtain ⟨value, given, found⟩ := Option.bind_eq_some_iff.mp found
    simp only [Argument.items, Slot.toList, List.mem_singleton] at inside
    exact Nat.lt_of_le_of_lt (inside ▸ Value.appBar?_weight found) (Node.property?_weight given)

theorem floatingSlot_lighter : Lighter node (floatingSlot node) := by
  intro arg member item inside
  unfold floatingSlot at member
  split at member
  · simp at member
  · rename_i value given
    split at member <;> simp only [List.mem_singleton, List.not_mem_nil] at member <;> subst member
    · rename_i widget found
      simp only [Argument.items, Slot.toList, List.mem_singleton] at inside
      exact Nat.lt_of_le_of_lt (inside ▸ Value.widget?_weight found) (Node.property?_weight given)
    · simp [Argument.items] at inside

theorem scaffold_lighter : Lighter node (scaffold node).args := by
  have header (bar : Node) (h : (splitHeader node.children).1 = some bar) : bar.weight < node.weight :=
    Node.child_weight (header_mem (Prod.ext h rfl))
  have body (child : Node) (h : child ∈ (splitHeader node.children).2) : child.weight < node.weight :=
    Node.child_weight (body_subset rfl child h)
  exact .append (.append (.append (.append (.append (.named _) (headerSlot_lighter node header)) (.childSlot _ body))
    (.embeddedProperty _ _)) (.embeddedProperty _ _)) (floatingSlot_lighter node)

end WidgetSource.Form
