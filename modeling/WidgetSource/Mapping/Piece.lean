import WidgetSource.Mapping.Tag

namespace WidgetSource.Template

/-- A tag in its place: whether it has a line of its own. -/
structure PlacedTag extends MarkedTag where
  alone : Bool

inductive Piece
  | text (cs : List Char)
  | tag (placed : PlacedTag)

/-- The plain text up to the next tag, and the rest. One backslash before braces keeps them as text, and of several
one is dropped; `slashes` of them stand right before. -/
def scanPlain (slashes : Nat) : List Char → List Char × List Char
  | [] => (List.replicate slashes '\\', [])
  | '\x7b' :: '\x7b' :: rest =>
    match slashes, rest with
    | 0, rest => ([], '\x7b' :: '\x7b' :: rest)
    | 1, '\x7b' :: '\x7b' :: rest =>
      let (text, after) := scanPlain 0 rest
      (['\x7b', '\x7b', '\x7b', '\x7b'] ++ text, after)
    | 1, rest =>
      let (text, after) := scanPlain 0 rest
      (['\x7b', '\x7b'] ++ text, after)
    | more, rest => (List.replicate (more - 1) '\\', '\x7b' :: '\x7b' :: rest)
  | '\\' :: rest => scanPlain (slashes + 1) rest
  | c :: rest =>
    let (text, after) := scanPlain 0 rest
    (List.replicate slashes '\\' ++ c :: text, after)

theorem scanPlain_suffix (slashes : Nat) (cs : List Char) : (scanPlain slashes cs).2 <:+ cs := by
  fun_induction scanPlain slashes cs with
  | case1 | case2 | case5 => exact List.suffix_refl _
  | case3 rest text after found ih =>
    rw [found] at ih
    exact ih.trans (List.suffix_append ['\x7b', '\x7b', '\x7b', '\x7b'] rest)
  | case4 rest other text after found ih =>
    rw [found] at ih
    exact ih.trans (List.suffix_append ['\x7b', '\x7b'] rest)
  | case6 slashes rest ih => exact ih.trans (List.suffix_cons _ _)
  | case7 slashes c rest other noSlash text after found ih =>
    rw [found] at ih
    exact ih.trans (List.suffix_cons _ _)

def isBlankChar (c : Char) : Bool := c == ' ' || c == '\t'

def isBreakChar (c : Char) : Bool := c == '\n' || c == '\r'

def beginsBlankLine (cs : List Char) : Bool :=
  match cs.dropWhile isBlankChar with
  | c :: _ => isBreakChar c
  | [] => false

/-- Whether only blanks stand before on the line; what stands before is given from its end. -/
def endsBlankLine (before : List Char) : Bool :=
  match before.dropWhile isBlankChar with
  | c :: _ => isBreakChar c
  | [] => true

/-- What has been read of a text if `rest` is left, from its end, behind what stood before the text. -/
def consumed (before cs rest : List Char) : List Char :=
  (cs.take (cs.length - rest.length)).reverse ++ before

def pieces? (before cs : List Char) : Option (List Piece) :=
  let plain := scanPlain 0 cs
  match _same : plain.2 with
  | '\x7b' :: '\x7b' :: inside =>
    match scanTag? inside with
    | some ⟨marked, rest, _shorter⟩ =>
      let alone := endsBlankLine (consumed before cs plain.2) && beginsBlankLine rest
      (pieces? (consumed before cs rest) rest).map fun more => .text plain.1 :: .tag ⟨marked, alone⟩ :: more
    | none => none
  | _ => some [.text plain.1]
termination_by cs.length
decreasing_by
  have := (scanPlain_suffix 0 cs).length_le
  have : plain.2.length = inside.length + 2 := by rw [_same]; rfl
  simp only [plain] at this
  omega

def dropLineEnd (cs : List Char) : List Char :=
  match cs.dropWhile isBlankChar with
  | '\r' :: '\n' :: rest => rest
  | '\n' :: rest => rest
  | rest => rest

def PlacedTag.takesLine (placed : PlacedTag) : Bool :=
  match placed.tag with
  | .comment | .opens .. | .otherwise | .closes _ => placed.alone
  | _ => false

def trimBefore (cs : List Char) : List Piece → List Char
  | .tag placed :: _ =>
    let cs := if placed.trimsBefore then Text.dropEndWhile Text.isSpace cs else cs
    if placed.takesLine then Text.dropEndWhile isBlankChar cs else cs
  | _ => cs

/-- The pieces with the white space that tags take removed. `trims` and `line` say whether the last tag takes the
white space after it or the rest of its line. -/
def settle (trims line : Bool) : List Piece → List Piece
  | [] => []
  | .text cs :: rest =>
    if cs.isEmpty || (trims && cs.all isTagSpace) then settle trims line rest
    else
      let cs := if trims then cs.dropWhile Text.isSpace else if line then dropLineEnd cs else cs
      .text (trimBefore cs rest) :: settle trims false rest
  | .tag placed :: rest =>
    let trims := match placed.tag with
      | .comment => trims
      | _ => placed.trimsAfter
    let line := match placed.tag with
      | .shows _ | .raw .. | .failure => line
      | _ => placed.takesLine
    .tag placed :: settle trims line rest

end WidgetSource.Template
