/-
What is printed: a record for each node of a walk, a record for each match of a
query, either as a line of JSON or in lines for people.
-/
import TreeExplorer.Json.Basic
import TreeExplorer.Query.Match
import TreeExplorer.Text.Lines
import TreeExplorer.Tree.Source

namespace TreeExplorer

/-- A node as it is printed. -/
structure NodeRecord where
  kind : String
  named : Bool
  start : Position
  stop : Position
  startByte : Nat
  endByte : Nat
  text : Option String := none
  deriving DecidableEq, Repr

/-- A match as it is printed, its captures in the order of their names. -/
structure MatchRecord where
  pattern : Nat
  captures : List (String × NodeRecord)
  deriving DecidableEq, Repr

/-- A position as a JSON object. -/
def Position.json (p : Position) : Json :=
  .obj [("line", .nat p.line), ("column", .nat p.column)]

namespace NodeRecord

/-- The record of a node, without its text. -/
def ofRow (r : Row) : NodeRecord where
  kind := r.kind
  named := r.named
  start := r.start.position
  stop := r.stop.position
  startByte := r.startByte
  endByte := r.endByte

/-- The record with a text. -/
def withText (r : NodeRecord) (text : String) : NodeRecord :=
  { r with text := some text }

/-- A record as a JSON object. The text is left out where there is none. -/
def json (r : NodeRecord) : Json :=
  .obj ([("kind", .str r.kind), ("named", .bool r.named), ("start", r.start.json),
      ("end", r.stop.json), ("start_byte", .nat r.startByte), ("end_byte", .nat r.endByte)]
    ++ match r.text with
      | some t => [("text", .str t)]
      | none => [])

/-- From where to where a node goes. -/
def span (r : NodeRecord) : String :=
  Text.decimal r.start.line ++ ":" ++ Text.decimal r.start.column ++ "-"
    ++ Text.decimal r.stop.line ++ ":" ++ Text.decimal r.stop.column

/-- A record for people: kind, place and the first line of the text. The kind of an
anonymous node is in quotes. -/
def human (r : NodeRecord) : String :=
  let kind := if r.named then r.kind else Text.quoted r.kind
  match r.text with
  | some t => kind ++ " " ++ r.span ++ " " ++ Text.firstLine t
  | none => kind ++ " " ++ r.span

end NodeRecord

namespace MatchRecord

/-- Puts an entry before the first one with a larger name. -/
def place {α : Type} (entry : String × α) : List (String × α) → List (String × α)
  | [] => [entry]
  | e :: rest => if entry.1 < e.1 then entry :: e :: rest else e :: place entry rest

/-- Entries in the order of their names. -/
def sortByName {α : Type} : List (String × α) → List (String × α)
  | [] => []
  | e :: rest => place e (sortByName rest)

/-- The record of a match over a source. -/
def ofMatch (p : ParsedSource) (m : Query.Match Nat) : MatchRecord where
  pattern := m.pattern
  captures := sortByName (m.captures.filterMap fun c =>
    (p.tree.row? c.2).map fun r => (c.1, (NodeRecord.ofRow r).withText (p.textOf r)))

/-- A record as a JSON object. -/
def json (r : MatchRecord) : Json :=
  .obj [("pattern_index", .nat r.pattern),
    ("captures", .obj (r.captures.map fun c => (c.1, c.2.json)))]

/-- A record for people: the number of the match, then a line for each capture. -/
def human (number : Nat) (r : MatchRecord) : List String :=
  ("match " ++ Text.decimal number ++ " (pattern " ++ Text.decimal r.pattern ++ ")")
    :: r.captures.map fun c => "  @" ++ c.1 ++ " " ++ c.2.human

end MatchRecord

end TreeExplorer
