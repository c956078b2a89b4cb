import WidgetSource.Text.Case
import WidgetSource.Text.ClusterTable

/-!
# Clusters

Cutting a text into user-perceived characters. The rules for Hangul syllables, Indic conjuncts and flags join
letters without case and are left out: where words begin does not depend on them.
-/
namespace WidgetSource.Text

inductive ClusterClass
  | carriageReturn | lineFeed | control | extend | joiner | spacingMark | prepend | pictograph | other
  deriving DecidableEq

def ClusterClass.of (c : Char) : ClusterClass :=
  let n := c.toNat
  if c = '\r' then .carriageReturn
  else if c = '\n' then .lineFeed
  else if n = 0x200D then .joiner
  else if inRanges controlRanges n then .control
  else if inRanges extendRanges n then .extend
  else if inRanges spacingMarkRanges n then .spacingMark
  else if inRanges prependRanges n then .prepend
  else if inRanges pictographRanges n then .pictograph
  else .other

/-- How far a sequence of pictographs joined into one has got. -/
inductive PictographRun
  | outside | shown | joined
  deriving DecidableEq

def PictographRun.next (run : PictographRun) : ClusterClass → PictographRun
  | .pictograph => .shown
  | .extend => if run = .shown then .shown else .outside
  | .joiner => if run = .shown then .joined else .outside
  | _ => .outside

/-- Whether a character of the second class stays in the cluster of the character of the first class before it. -/
def ClusterClass.joins (before : ClusterClass) (run : PictographRun) (after : ClusterClass) : Bool :=
  match before, after with
  | .carriageReturn, .lineFeed => true
  | .carriageReturn, _ | .lineFeed, _ | .control, _ => false
  | _, .carriageReturn | _, .lineFeed | _, .control => false
  | _, .extend | _, .joiner | _, .spacingMark => true
  | .prepend, _ => true
  | .joiner, .pictograph => run = .joined
  | _, _ => false

def clustersAfter (before : ClusterClass) (run : PictographRun) : List Char → List Char × List (List Char)
  | [] => ([], [])
  | c :: rest =>
    let here := ClusterClass.of c
    let (head, tail) := clustersAfter here (run.next here) rest
    if before.joins run here then (c :: head, tail) else ([], (c :: head) :: tail)

def clusters : List Char → List (List Char)
  | [] => []
  | c :: rest =>
    let here := ClusterClass.of c
    let (head, tail) := clustersAfter here (PictographRun.outside.next here) rest
    (c :: head) :: tail

end WidgetSource.Text
