/-
Letter case within ASCII. Characters outside `A` to `Z` are their own lower
case, so a comparison that ignores case never equates two letters outside
ASCII.
-/

namespace TreeExplorer.Text

/-- The lower case of an ASCII letter; every other character is itself. -/
def lowerChar (c : Char) : Char :=
  if 'A' ≤ c ∧ c ≤ 'Z' then Char.ofNat (c.toNat + 32) else c

/-- The text with its ASCII letters in lower case. -/
def lower (s : String) : String :=
  String.ofList (s.toList.map lowerChar)

/-- Equality up to the case of ASCII letters. -/
def sameIgnoringCase (s t : String) : Bool :=
  lower s == lower t

end TreeExplorer.Text
