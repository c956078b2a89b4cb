import WidgetSource.Dart.Property
import WidgetSource.Form.Many
import WidgetSource.Form.Single

/-!
# Widgets without a form of their own

They are written under the target of their entry in the mapping table, or under their own type. Every property becomes
an argument: a widget in its slot, or an expression that the template for the property may put into another form. Of
two arguments with one name the first counts.
-/
namespace WidgetSource.Form

open Dart (Expr Label)

inductive Piece
  | positional (text : String)
  | argument (arg : Argument Node)

def Piece.positional? : Piece → Option String
  | .positional text => some text
  | .argument _ => none

def Piece.argument? : Piece → Option (Argument Node)
  | .positional _ => none
  | .argument arg => some arg

def argumentName? (text : String) : Option String :=
  match text.toList.dropWhile Text.isSpace with
  | [] => none
  | c :: cs =>
    match Dart.beginsIdentifier c, (cs.dropWhile Dart.continuesIdentifier).dropWhile Text.isSpace with
    | true, ':' :: _ => some (String.ofList (c :: cs.takeWhile Dart.continuesIdentifier))
    | _, _ => none

def Piece.ofText (text : String) : Piece :=
  match argumentName? text with
  | some name => .argument (.value (.spelled name) (.text (Text.trim text)))
  | none => .positional text

def propertyExpr (name : String) (value : Value) : Expr :=
  if isDynamicName name && Text.beginsWith "on" name then .text tapStub
  else (Dart.propertyOf? name value).getD (.text (Dart.textOf value))

/-- What a property becomes; nothing if it is not set, or if it cannot be named. -/
def pieceOf? (write : Expr → String) (entry : Option Mapping.Entry) (name : String) (value : Value) : Option Piece :=
  if value.isNull then none
  else
    match if isValueName name then none else Node.embeddedSlot? value with
    | some place => some (.argument (.slot name true place))
    | none =>
      let expr := propertyExpr name value
      match entry.bind (·.template? name) with
      | some template => some (.ofText (Template.renderProperty template (write expr)))
      | none => if Dart.isIdentifier name then some (.argument (.value (.named name) expr)) else none

def piecesOf (write : Expr → String) (entry : Option Mapping.Entry) (properties : Fields Value) : List Piece :=
  properties.filterMap fun (name, value) => pieceOf? write entry name value

/-- The first arguments of their names, and those that repeat a name. -/
def splitRepeated (seen : List String) : List (Argument Node) → List (Argument Node) × List (Argument Node)
  | [] => ([], [])
  | arg :: args =>
    if seen.contains arg.name then
      let (first, repeated) := splitRepeated seen args
      (first, arg :: repeated)
    else
      let (first, repeated) := splitRepeated (arg.name :: seen) args
      (arg :: first, repeated)

def mappedChildren : List Node → List (Argument Node)
  | [] => []
  | [child] => Node.childSlot "child" [child]
  | children => Node.childList children

/-- The form of a widget by its entry. Expressions for templates are written by `write`. -/
def mapped (write : Expr → String) (table : Mapping.Table) (node : Node) : Form :=
  let entry := table.lookup? node.type
  let pieces := piecesOf write entry node.properties
  let (first, repeated) := splitRepeated [] (pieces.filterMap Piece.argument?)
  { target := genericTarget table node.type
    positional := ((pieces.filterMap Piece.positional?).head?).map Expr.text
    args := first ++ if takesChildren table node.type then mappedChildren node.children else []
    shadowed := repeated }

/-- All that a property can become: its widgets in a slot, a filled template, or an argument of its name. -/
theorem pieceOf?_cases {write : Expr → String} {entry : Option Mapping.Entry} {name : String} {value : Value}
    {piece : Piece} (becomes : pieceOf? write entry name value = some piece) : value.isNull = false ∧
      ((∃ place, isValueName name = false ∧ Node.embeddedSlot? value = some place ∧
          piece = .argument (.slot name true place)) ∨
        (∃ template, entry.bind (·.template? name) = some template ∧
          piece = .ofText (Template.renderProperty template (write (propertyExpr name value)))) ∨
        Dart.isIdentifier name = true ∧ piece = .argument (.value (.named name) (propertyExpr name value))) := by
  unfold pieceOf? at becomes
  split at becomes
  · cases becomes
  rename_i set
  refine ⟨by simpa using set, ?_⟩
  split at becomes
  · rename_i place found
    cases becomes
    split at found
    · cases found
    · rename_i slotted
      exact .inl ⟨place, by simpa using slotted, found, rfl⟩
  · split at becomes
    · rename_i template filled
      cases becomes
      exact .inr (.inl ⟨template, filled, rfl⟩)
    · split at becomes <;> cases becomes
      rename_i named
      exact .inr (.inr ⟨named, rfl⟩)

theorem splitRepeated_subset (seen : List String) (args : List (Argument Node)) :
    (∀ arg ∈ (splitRepeated seen args).1, arg ∈ args) ∧ ∀ arg ∈ (splitRepeated seen args).2, arg ∈ args := by
  induction args generalizing seen with
  | nil => simp [splitRepeated]
  | cons first args ih =>
    simp only [splitRepeated]
    split
    · obtain ⟨kept, repeated⟩ := ih seen
      refine ⟨fun arg member => List.mem_cons_of_mem _ (kept arg member), fun arg member => ?_⟩
      exact (List.mem_cons.mp member).elim (· ▸ List.mem_cons_self) fun h => List.mem_cons_of_mem _ (repeated arg h)
    · obtain ⟨kept, repeated⟩ := ih (first.name :: seen)
      refine ⟨fun arg member => ?_, fun arg member => List.mem_cons_of_mem _ (repeated arg member)⟩
      exact (List.mem_cons.mp member).elim (· ▸ List.mem_cons_self) fun h => List.mem_cons_of_mem _ (kept arg h)

variable (write : Expr → String) (table : Mapping.Table) (node : Node)

theorem pieces_lighter (entry : Option Mapping.Entry) :
    Lighter node ((piecesOf write entry node.properties).filterMap Piece.argument?) := by
  intro arg member item inside
  obtain ⟨piece, member, isArgument⟩ := List.mem_filterMap.mp member
  obtain ⟨⟨name, value⟩, member, becomes⟩ := List.mem_filterMap.mp member
  refine Nat.lt_of_le_of_lt ?_ (Node.value_weight member)
  obtain ⟨-, ⟨place, -, found, rfl⟩ | ⟨template, -, rfl⟩ | ⟨-, rfl⟩⟩ := pieceOf?_cases becomes
  · cases isArgument
    exact Lighter.embeddedSlot? found inside
  · unfold Piece.ofText at isArgument
    split at isArgument <;> cases isArgument
    cases inside
  · cases isArgument
    cases inside

theorem mappedChildren_lighter : Lighter node (mappedChildren node.children) := by
  have light (child : Node) (member : child ∈ node.children) : child.weight < node.weight := Node.child_weight member
  unfold mappedChildren
  split
  · exact .nil
  · rename_i child same
    exact .childSlot _ fun c member => light c (same ▸ member)
  · exact .childList light

theorem mapped_lighter : Lighter node ((mapped write table node).args ++ (mapped write table node).shadowed) := by
  have pieces := pieces_lighter write node (table.lookup? node.type)
  have subset := splitRepeated_subset [] ((piecesOf write (table.lookup? node.type) node.properties).filterMap
    Piece.argument?)
  refine .append (.append (pieces.of_subset subset.1) ?_) (pieces.of_subset subset.2)
  split
  · exact mappedChildren_lighter node
  · exact .nil

end WidgetSource.Form
