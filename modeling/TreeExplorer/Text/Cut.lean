/-
Cutting a text into the pieces between separators. There is one piece more than
there are separators, and pieces may be empty.
-/

namespace TreeExplorer.Text

/-- Cuts at every character that satisfies `p`; `cur` is the piece under way,
reversed. -/
def cutLoop (p : Char → Bool) : List Char → List Char → List (List Char)
  | cur, [] => [cur.reverse]
  | cur, c :: cs => if p c then cur.reverse :: cutLoop p [] cs else cutLoop p (c :: cur) cs

/-- Cuts a text at every character that satisfies `p`. -/
def cut (p : Char → Bool) (cs : List Char) : List (List Char) :=
  cutLoop p [] cs

end TreeExplorer.Text
