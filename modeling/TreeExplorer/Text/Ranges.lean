/-
Classes of characters as tables: closed ranges of code points, ascending and
apart.
-/

namespace TreeExplorer.Text

/-- Whether a character lies in one of the ranges. -/
def inRanges (ranges : List (Nat × Nat)) (c : Char) : Bool :=
  ranges.any fun r => decide (r.1 ≤ c.toNat) && decide (c.toNat ≤ r.2)

end TreeExplorer.Text
