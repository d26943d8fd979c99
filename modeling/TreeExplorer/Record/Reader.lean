/-
Reading records back from JSON.
-/
import TreeExplorer.Json.Reader
import TreeExplorer.Record.Writer

namespace TreeExplorer

namespace Json

/-- A whole number that is not negative. -/
def nat? : Json → Option Nat
  | .int i => if 0 ≤ i then some i.toNat else none
  | _ => none

/-- A text. -/
def str? : Json → Option String
  | .str s => some s
  | _ => none

/-- A truth value. -/
def bool? : Json → Option Bool
  | .bool b => some b
  | _ => none

/-- The fields of an object. -/
def fields? : Json → Option (List (String × Json))
  | .obj fields => some fields
  | _ => none

/-- The value of a field of an object. -/
def get? (v : Json) (name : String) : Option Json :=
  v.fields?.bind fun fields => field? fields name

end Json

/-- Reads a position. -/
def Position.ofJson? (v : Json) : Option Position := do
  let fields ← v.fields?
  return ⟨← (← Json.field? fields "line").nat?, ← (← Json.field? fields "column").nat?⟩

/-- Reads the record of a node. -/
def NodeRecord.ofJson? (v : Json) : Option NodeRecord := do
  let fields ← v.fields?
  let get := Json.field? fields
  let kind ← (← get "kind").str?
  let named ← (← get "named").bool?
  let start ← Position.ofJson? (← get "start")
  let stop ← Position.ofJson? (← get "end")
  let startByte ← (← get "start_byte").nat?
  let endByte ← (← get "end_byte").nat?
  match get "text" with
  | none => return { kind, named, start, stop, startByte, endByte }
  | some t => return { kind, named, start, stop, startByte, endByte, text := some (← t.str?) }

/-- Reads the record of a match. -/
def MatchRecord.ofJson? (v : Json) : Option MatchRecord := do
  let fields ← v.fields?
  let pattern ← (← Json.field? fields "pattern_index").nat?
  let captures ← (← Json.field? fields "captures").fields?
  return ⟨pattern, ← captures.mapM fun c => do return (c.1, ← NodeRecord.ofJson? c.2)⟩

/-- Reads a record of either kind. -/
def Record.ofJson? (v : Json) : Option Record :=
  match NodeRecord.ofJson? v with
  | some r => some (.node r)
  | none => (MatchRecord.ofJson? v).map .found

end TreeExplorer
