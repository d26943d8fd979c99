/-
A source and its tree: the text of a node, walks from the root, and the places
where the source does not fit its grammar.
-/
import TreeExplorer.Text.Utf8
import TreeExplorer.Tree.Basic
import TreeExplorer.Walk.Basic

namespace TreeExplorer

/-- A source with the tree that the engine made of it. -/
structure ParsedSource where
  language : Language
  source : String
  tree : SyntaxTree
  /-- Whether the engine says that the tree holds errors. -/
  hasErrors : Bool
  deriving Repr

/-- A place where the source does not fit its grammar. -/
structure Diagnostic where
  startByte : Nat
  endByte : Nat
  position : Position
  message : String
  deriving DecidableEq, Repr

/-- The text of a source between two bytes; where there is no such text, nothing. -/
def sourceText (source : String) (startByte endByte : Nat) : String :=
  (Text.slice? source startByte endByte).getD ""

/-- Whether a node marks an error. -/
def Row.isFlagged (r : Row) : Bool :=
  r.isError || r.isMissing

/-- The error that a node marks. A missing node is told by its kind, any other by
the text it covers, without the blanks around it. -/
def Row.diagnostic (source : String) (r : Row) : Diagnostic where
  startByte := r.startByte
  endByte := r.endByte
  position := r.start.position
  message :=
    if r.isMissing then "missing " ++ r.kind
    else "unexpected `" ++ Text.trim (sourceText source r.startByte r.endByte) ++ "`"

namespace ParsedSource

/-- The text that a row covers. The row may come from another tree. -/
def textOf (p : ParsedSource) (r : Row) : String :=
  sourceText p.source r.startByte r.endByte

/-- Pulls a walk up to the limit, or to its end. A tree has no more nodes than
rows, so one pull more than that finds the end. -/
def pull (p : ParsedSource) (limit : Option Nat) (w : Walk Nat) : Walk.Taken Nat :=
  w.take p.tree.view (limit.getD (p.tree.rows.length + 1))

/-- The errors of the source, in the order of the tree. -/
def diagnostics (p : ParsedSource) : List Diagnostic :=
  let nodes := (p.pull none (Walk.start 0 .depthFirst false)).nodes
  ((nodes.filterMap p.tree.row?).filter Row.isFlagged).map (Row.diagnostic p.source)

end ParsedSource

end TreeExplorer
