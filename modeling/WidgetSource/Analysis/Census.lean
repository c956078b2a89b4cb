import WidgetSource.Analysis.Constness

namespace WidgetSource

/-- Numbers by name, in ascending order of the names. -/
abbrev Counts := Fields Nat

def Counts.bump (name : String) : Counts → Counts
  | [] => [(name, 1)]
  | (n, k) :: rest =>
    if name < n then (name, 1) :: (n, k) :: rest
    else if n = name then (n, k + 1) :: rest
    else (n, k) :: bump name rest

structure Statistics where
  totalWidgets : Nat := 0
  maxDepth : Nat := 0
  widgetTypeCounts : Counts := []
  propertyUsageCounts : Counts := []
  constEligibleCount : Nat := 0
  hasNavigation : Bool := false
  hasForms : Bool := false
  hasAnimations : Bool := false
  deriving DecidableEq, Repr

structure Visit where
  node : Node
  depth : Nat
  eligible : Bool

def navigates (normalizedType : String) : Bool :=
  Text.endsWith "button" normalizedType || normalizedType == "gesturedetector" || Text.beginsWith "ink" normalizedType

def takesInput (normalizedType : String) : Bool :=
  ["textfield", "textformfield", "form"].contains normalizedType

def moves (normalizedType : String) : Bool :=
  Text.beginsWith "animated" normalizedType

namespace Statistics

def record (stats : Statistics) (visit : Visit) : Statistics :=
  let type := visit.node.normalizedType
  { totalWidgets := stats.totalWidgets + 1
    maxDepth := max stats.maxDepth visit.depth
    widgetTypeCounts := stats.widgetTypeCounts.bump visit.node.type
    propertyUsageCounts := visit.node.properties.foldl (fun counts (name, _) => counts.bump name)
      stats.propertyUsageCounts
    constEligibleCount := stats.constEligibleCount + if visit.eligible then 1 else 0
    hasNavigation := stats.hasNavigation || navigates type
    hasForms := stats.hasForms || takesInput type
    hasAnimations := stats.hasAnimations || moves type }

def recordAll (stats : Statistics) (visits : List Visit) : Statistics :=
  visits.foldl record stats

end Statistics

/-- The visits of a walk, and whether all that was walked through is written as constant. -/
structure Walk where
  visits : List Visit
  eligible : Bool

mutual

/-- Walks through a tree, children first. -/
def Node.walk (useConst : Bool) (table : Mapping.Table) (depth : Nat) : Node → Walk
  | ⟨id, type, properties, children⟩ =>
    let node : Node := ⟨id, type, properties, children⟩
    let below := walkAll useConst table (depth + 1) children
    let eligible := useConst && node.allowsConst table && below.eligible
    ⟨below.visits ++ [⟨node, depth, eligible⟩], eligible⟩

def walkAll (useConst : Bool) (table : Mapping.Table) (depth : Nat) : List Node → Walk
  | [] => ⟨[], true⟩
  | node :: nodes =>
    let first := node.walk useConst table depth
    let rest := walkAll useConst table depth nodes
    ⟨first.visits ++ rest.visits, first.eligible && rest.eligible⟩

end

namespace Statistics

def visit (useConst : Bool) (table : Mapping.Table) (stats : Statistics) (root : Node) : Statistics :=
  stats.recordAll (root.walk useConst table 0).visits

def ofTrees (useConst : Bool) (table : Mapping.Table) (roots : List Node) : Statistics :=
  roots.foldl (visit useConst table) {}

end Statistics

end WidgetSource
