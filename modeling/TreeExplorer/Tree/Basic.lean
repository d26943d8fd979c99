/-
Syntax trees as the engine reports them: one row for each node, in pre-order,
each naming its parent. A node is known by the number of its row.
-/
import TreeExplorer.Tree.Point
import TreeExplorer.Walk.View

namespace TreeExplorer

/-- What the engine says of one node. -/
structure Row where
  /-- The row of the parent; the root has none. -/
  parent : Option Nat
  kind : String
  named : Bool
  isError : Bool
  isMissing : Bool
  startByte : Nat
  endByte : Nat
  start : Point
  stop : Point
  deriving DecidableEq, Repr

/-- A syntax tree as a table of rows. Row 0 is the root. -/
structure SyntaxTree where
  rows : List Row
  deriving DecidableEq, Repr

namespace SyntaxTree

/-- The row of a node. -/
def row? (t : SyntaxTree) (n : Nat) : Option Row :=
  t.rows[n]?

/-- The kind of a node. -/
def kind (t : SyntaxTree) (n : Nat) : String :=
  ((t.row? n).map (·.kind)).getD ""

/-- The nodes whose parent is `n`, in table order. -/
def children (t : SyntaxTree) (n : Nat) : List Nat :=
  (t.rows.zipIdx.filter fun r => r.1.parent == some n).map (·.2)

/-- The named nodes whose parent is `n`, in table order. -/
def namedChildren (t : SyntaxTree) (n : Nat) : List Nat :=
  (t.rows.zipIdx.filter fun r => r.1.parent == some n && r.1.named).map (·.2)

/-- Looks up a child; the engine takes indices of 32 bits only. -/
def pick (nodes : List Nat) (i : Nat) : Option Nat :=
  if i ≤ maxWord then nodes[i]? else none

/-- The accessors of a tree's nodes. -/
def view (t : SyntaxTree) : NodeView Nat where
  childCount n := (t.children n).length
  child n i := pick (t.children n) i
  namedChildCount n := (t.namedChildren n).length
  namedChild n i := pick (t.namedChildren n) i

end SyntaxTree

end TreeExplorer
