/-
The lines of a text, and the first of them with a mark where more follow. A line
ends at a newline; a carriage return right before it belongs to the line ending.
-/
import TreeExplorer.Text.Cut

namespace TreeExplorer.Text

/-- Drops one carriage return at the end. -/
def dropFinalReturn (cs : List Char) : List Char :=
  match cs.reverse with
  | '\r' :: rest => rest.reverse
  | _ => cs

/-- The mark that text follows the first line. -/
def ellipsis : Char :=
  Char.ofNat 0x2026

/-- The lines of a text: what stands before each newline, without one carriage return at
its end, and what stands behind the last newline, if that is anything. -/
def lines (cs : List Char) : List (List Char) :=
  (cut (· == '\n') cs).dropLast.map dropFinalReturn
    ++ (cut (· == '\n') cs).getLast?.toList.filter (!·.isEmpty)

/-- The first of the lines, and the mark if there is a second. -/
def firstLineList (cs : List Char) : List Char :=
  match lines cs with
  | [] => []
  | [first] => first
  | first :: _ :: _ => first ++ [ellipsis]

/-- The first line of a text, and the mark if a second line follows it. -/
def firstLine (s : String) : String :=
  String.ofList (firstLineList s.toList)

end TreeExplorer.Text
