/-
The configuration of the program, and its two forms as JSON: an object, whose
unknown fields are ignored, or an array of the values in the order of the
fields. What is left out takes its default.
-/
import TreeExplorer.Json.Basic
import TreeExplorer.Log.Format
import TreeExplorer.Query.Settings
import TreeExplorer.Tree.Point

namespace TreeExplorer

/-- What can be configured. -/
structure Config where
  /-- Which log events are written. -/
  logFilter : String := "warn"
  logFormat : Log.Format := .compact
  matchLimit : Option Nat := none
  maxStartDepth : Option Nat := none
  deriving DecidableEq, Repr

namespace Config

/-- The names of the fields, in their order. -/
def fieldNames : List String :=
  ["log_filter", "log_format", "match_limit", "max_start_depth"]

/-- The filter that is in force unless another is configured. -/
def defaultFilter : String := "warn"

/-- The limits for running queries. -/
def options (c : Config) : Query.Options :=
  { matchLimit := c.matchLimit, maxStartDepth := c.maxStartDepth }

/-- Why a value cannot be used. -/
inductive Fault where
  /-- A value of another kind was expected. -/
  | kind (found : Json) (expected : String)
  /-- A value of the right kind is out of range. -/
  | range (found : Json) (expected : String)
  /-- A text names no log format. -/
  | logFormat (text : String)
  /-- An array has more items than there are fields. -/
  | length (items : Nat)
  deriving Repr

/-- A value as it is called in a refusal. -/
def shown : Json → String
  | .null => "null"
  | .bool b => "boolean `" ++ (if b then "true" else "false") ++ "`"
  | .int i => "integer `" ++ Text.decimalInt i ++ "`"
  | .fraction d => "floating point `" ++ d.text ++ "`"
  | .str s => "string " ++ Text.quoted s
  | .arr _ => "sequence"
  | .obj _ => "map"

/-- The wording of a refusal. -/
def Fault.message : Fault → String
  | .kind v expected => "invalid type: " ++ shown v ++ ", expected " ++ expected
  | .range v expected => "invalid value: " ++ shown v ++ ", expected " ++ expected
  | .logFormat text => "unknown variant `" ++ text ++ "`, expected `json` or `compact`"
  | .length n => "invalid length " ++ Text.decimal n ++ ", expected fewer elements in array"

/-- Reads a log filter. -/
def readFilter : Json → Except Fault String
  | .str s => .ok s
  | v => .error (.kind v "a string")

/-- Reads the name of a log format. -/
def readFormatName (text : String) : Except Fault Log.Format :=
  match Log.Format.ofName? text with
  | some f => .ok f
  | none => .error (.logFormat text)

/-- Reads a log format: its name, or an object that has the name as its only field
and nothing in it. -/
def readFormat : Json → Except Fault Log.Format
  | .str s => readFormatName s
  | .obj [(name, content)] => do
    let f ← readFormatName name
    match content with
    | .null => .ok f
    | v => .error (.kind v "unit")
  | .obj fields => .error (.range (.obj fields) "map with a single key")
  | v => .error (.kind v "string or map")

/-- Reads a limit: nothing, or a number of 32 bits. -/
def readLimit : Json → Except Fault (Option Nat)
  | .null => .ok none
  | .int i =>
    if 0 ≤ i ∧ i ≤ (maxWord : Int) then .ok (some i.toNat) else .error (.range (.int i) "u32")
  | v => .error (.kind v "u32")

/-- Reads a value, or takes the default where there is none. -/
def orElse {α : Type} (fallback : α) (read : Json → Except Fault α) : Option Json → Except Fault α
  | none => .ok fallback
  | some v => read v

/-- Reads a configuration whose values, where given, are these. -/
def ofValues (filter format limit depth : Option Json) : Except Fault Config := do
  let logFilter ← orElse defaultFilter readFilter filter
  let logFormat ← orElse default readFormat format
  let matchLimit ← orElse none readLimit limit
  let maxStartDepth ← orElse none readLimit depth
  return { logFilter, logFormat, matchLimit, maxStartDepth }

/-- Reads a configuration from the fields of an object. -/
def ofFields (fields : List (String × Json)) : Except Fault Config :=
  let get := Json.field? fields
  ofValues (get "log_filter") (get "log_format") (get "match_limit") (get "max_start_depth")

/-- Reads a configuration from a JSON value. -/
def ofJson : Json → Except Fault Config
  | .obj fields => ofFields fields
  | .arr items => do
    let c ← ofValues items[0]? items[1]? items[2]? items[3]?
    if items.length ≤ 4 then return c else .error (.length items.length)
  | v => .error (.kind v "struct Config")

/-- A limit as a JSON value. -/
def limitJson : Option Nat → Json
  | none => .null
  | some n => .nat n

/-- A configuration as a JSON object. -/
def toJson (c : Config) : Json :=
  .obj [("log_filter", .str c.logFilter), ("log_format", .str c.logFormat.name),
    ("match_limit", limitJson c.matchLimit), ("max_start_depth", limitJson c.maxStartDepth)]

end Config

end TreeExplorer
