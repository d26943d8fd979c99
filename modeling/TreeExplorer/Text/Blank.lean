/-
Blank characters and trimming. The set is the White_Space property of Unicode:
twenty-five code points, written out below as ranges.
-/
import TreeExplorer.Text.Ranges

namespace TreeExplorer.Text

/-- The closed ranges of code points that are blank. -/
def blankRanges : List (Nat × Nat) :=
  [(0x09, 0x0D), (0x20, 0x20), (0x85, 0x85), (0xA0, 0xA0), (0x1680, 0x1680), (0x2000, 0x200A),
   (0x2028, 0x2029), (0x202F, 0x202F), (0x205F, 0x205F), (0x3000, 0x3000)]

/-- Whether a character is blank. -/
def isBlank (c : Char) : Bool :=
  inRanges blankRanges c

/-- Drops the blanks at the front. -/
def trimStartList (cs : List Char) : List Char :=
  cs.dropWhile isBlank

/-- Drops the blanks at the back. -/
def trimEndList (cs : List Char) : List Char :=
  (cs.reverse.dropWhile isBlank).reverse

/-- Drops the blanks at both ends. -/
def trimList (cs : List Char) : List Char :=
  trimEndList (trimStartList cs)

/-- Drops the blanks at both ends of a text. -/
def trim (s : String) : String :=
  String.ofList (trimList s.toList)

/-- Drops the blanks at the back of a text. -/
def trimEnd (s : String) : String :=
  String.ofList (trimEndList s.toList)

end TreeExplorer.Text
