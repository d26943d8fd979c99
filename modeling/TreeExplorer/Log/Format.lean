/-
The two shapes of a log line.
-/
import TreeExplorer.Text.Ascii

namespace TreeExplorer.Log

/-- The shape of log lines. -/
inductive Format where
  /-- One JSON object a line. -/
  | json
  /-- One line of plain text. -/
  | compact
  deriving DecidableEq, Repr

namespace Format

/-- The name of a shape. -/
def name : Format → String
  | json => "json"
  | compact => "compact"

/-- Both shapes. -/
def all : List Format :=
  [json, compact]

/-- Lines are plain text unless asked otherwise. -/
instance : Inhabited Format := ⟨compact⟩

/-- The shape of exactly this name. -/
def ofName? (text : String) : Option Format :=
  all.find? (·.name == text)

/-- The shape of a name, whatever its ASCII case. -/
def parse? (text : String) : Option Format :=
  all.find? fun f => Text.sameIgnoringCase f.name text

/-- The wording when a text names no shape. -/
def unknownMessage : String :=
  "Matching variant not found"

end Format

end TreeExplorer.Log
