import WidgetSource.Text.CaseTable

/-!
# Letter case

Full case mapping: a character may become several, and a capital sigma at the end of a word becomes a final sigma.
-/
namespace WidgetSource.Text

def inRanges : List (Nat × Nat) → Nat → Bool
  | [], _ => false
  | (first, last) :: ranges, n =>
    if n < first then false else n ≤ last || inRanges ranges n

def CaseRun.shift? : List CaseRun → Nat → Option Int
  | [], _ => none
  | run :: runs, n =>
    if n < run.first then none
    else if n ≤ run.last then
      if (n - run.first) % run.step = 0 then some run.shift else none
    else CaseRun.shift? runs n

def mapCase (runs : List CaseRun) (long : List (Nat × List Nat)) (c : Char) : List Char :=
  match CaseRun.shift? runs c.toNat with
  | some shift => [Char.ofNat (Int.toNat (c.toNat + shift))]
  | none =>
    match long.lookup c.toNat with
    | some ns => ns.map Char.ofNat
    | none => [c]

def lowerChar (c : Char) : List Char :=
  mapCase lowerRuns lowerLong c

def upperChar (c : Char) : List Char :=
  mapCase upperRuns upperLong c

/-- Whether the first character that does not ignore case is a letter with case. -/
def meetsCased (cs : List Char) : Bool :=
  match cs.dropWhile (fun c => inRanges caseIgnorableRanges c.toNat) with
  | c :: _ => inRanges casedRanges c.toNat
  | [] => false

def lowerAfter (before : List Char) : List Char → List Char
  | [] => []
  | c :: rest =>
    (if c = 'Σ' then [if meetsCased before && !meetsCased rest then 'ς' else 'σ'] else lowerChar c)
      ++ lowerAfter (c :: before) rest

/-- The lower form of a text. A capital sigma becomes `ς` after a letter with case and before none. -/
def lowerChars (cs : List Char) : List Char :=
  lowerAfter [] cs

def upperChars (cs : List Char) : List Char :=
  cs.flatMap upperChar

def asciiLower (c : Char) : Char :=
  if 'A' ≤ c ∧ c ≤ 'Z' then Char.ofNat (c.toNat + 32) else c

def asciiLowerText (s : String) : String :=
  String.ofList (s.toList.map asciiLower)

end WidgetSource.Text
