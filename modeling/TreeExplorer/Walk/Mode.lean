/-
The two orders of a walk and the names they go by.
-/
import TreeExplorer.Error

namespace TreeExplorer

/-- The order in which a walk visits nodes. -/
inductive Mode where
  /-- A node, then everything below it, before its next sibling. -/
  | depthFirst
  /-- Every node of one depth before any of the next. -/
  | breadthFirst
  deriving DecidableEq, Repr

namespace Mode

/-- The name of an order in output. -/
def name : Mode → String
  | depthFirst => "depth-first"
  | breadthFirst => "breadth-first"

/-- The names under which an order may be asked for. -/
def aliases : Mode → List String
  | depthFirst => ["dfs", "depth-first", "depth_first", "depthfirst"]
  | breadthFirst => ["bfs", "breadth-first", "breadth_first", "breadthfirst"]

/-- Both orders. -/
def all : List Mode :=
  [depthFirst, breadthFirst]

/-- Walks are depth first unless asked otherwise. -/
instance : Inhabited Mode := ⟨depthFirst⟩

/-- The order of a name, whatever its ASCII case and the blanks around it. The
refusal keeps the case of the text and drops the blanks. -/
def parse (text : String) : Except Error Mode :=
  match all.find? fun m => m.aliases.contains (Text.lower (Text.trim text)) with
  | some m => .ok m
  | none => .error (.unsupportedMode (Text.trim text))

end Mode

end TreeExplorer
