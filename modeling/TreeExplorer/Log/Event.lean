/-
Log events: how grave they are, which part of the program speaks, what it says,
and named values that go with it.
-/
import TreeExplorer.Json.Basic

namespace TreeExplorer.Log

/-- How grave an event is. -/
inductive Level where
  | error
  | warn
  | info
  | debug
  | trace
  deriving DecidableEq, Repr

namespace Level

/-- The name of a level in log lines. -/
def name : Level → String
  | error => "ERROR"
  | warn => "WARN"
  | info => "INFO"
  | debug => "DEBUG"
  | trace => "TRACE"

/-- The place of a level, the gravest first. -/
def rank : Level → Nat
  | error => 1
  | warn => 2
  | info => 3
  | debug => 4
  | trace => 5

end Level

/-- A value that goes with an event. -/
inductive Field where
  | text (s : String)
  | nat (n : Nat)
  | bool (b : Bool)
  deriving DecidableEq, Repr

/-- A value in a line of plain text. -/
def Field.shown : Field → String
  | .text s => s
  | .nat n => Text.decimal n
  | .bool b => if b then "true" else "false"

/-- A value in a JSON object. -/
def Field.json : Field → Json
  | .text s => .str s
  | .nat n => .nat n
  | .bool b => .bool b

/-- An event. -/
structure Event where
  level : Level
  /-- The part of the program that speaks. -/
  target : String
  message : String
  fields : List (String × Field) := []
  deriving DecidableEq, Repr

namespace Event

/-- An event as a line of plain text. -/
def line (e : Event) : String :=
  e.fields.foldl (fun s f => s ++ " " ++ f.1 ++ "=" ++ f.2.shown)
    (e.level.name ++ " " ++ e.target ++ ": " ++ e.message)

/-- An event as a JSON object. -/
def json (e : Event) : Json :=
  .obj ([("level", .str e.level.name), ("message", .str e.message)]
    ++ e.fields.map (fun f => (f.1, f.2.json)) ++ [("target", .str e.target)])

end Event

end TreeExplorer.Log
