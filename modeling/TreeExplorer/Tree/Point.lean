/-
Places in a source. The engine counts rows and columns from zero; people count
from one. What is shown fits in 32 bits: larger numbers show as the largest one.
-/

namespace TreeExplorer

/-- A row and a column, in bytes, both counted from zero. -/
structure Point where
  row : Nat
  column : Nat
  deriving DecidableEq, Repr

/-- A line and a column, both counted from one. -/
structure Position where
  line : Nat
  column : Nat
  deriving DecidableEq, Repr

/-- The largest number of 32 bits. -/
def maxWord : Nat := 4294967295

/-- A count from zero as a count from one. -/
def oneBased (n : Nat) : Nat :=
  min (n + 1) maxWord

/-- A point as people count. -/
def Point.position (p : Point) : Position :=
  ⟨oneBased p.row, oneBased p.column⟩

end TreeExplorer
