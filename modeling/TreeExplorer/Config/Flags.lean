/-
Flags for configuration. They stand between the program's name and its command,
and are split off before the command line is read.
-/
import TreeExplorer.Config.Basic
import TreeExplorer.Usage.Value

namespace TreeExplorer.Config

/-- The flags for configuration. -/
def flagNames : List String :=
  ["--config-path", "--log-filter", "--log-format", "--match-limit", "--max-start-depth"]

/-- What is split off the front of a command line, and the place from which on
arguments belong to the command. -/
structure Split where
  configuration : List Argument
  commandStart : Nat
  deriving DecidableEq

/-- Splits off one argument more. -/
def Split.push (s : Split) (a : Argument) : Split :=
  ⟨s.configuration ++ [a], s.commandStart + 1⟩

/-- Whether a flag takes the next argument as its value, which it does unless a value
is attached. None if the argument is no flag. -/
def wantsValue? (a : Argument) : Option Bool :=
  let (name, value) := Argument.splitValue a
  if flagNames.contains name.shown then some value.isNone else none

/-- Splits off the leading flags and their values, with `pending` values still to come.
A value is taken whatever it looks like. -/
def takeFlags : Nat → Split → List Argument → Split
  | _, s, [] => s
  | pending + 1, s, a :: rest => takeFlags pending (s.push a) rest
  | 0, s, a :: rest =>
    match wantsValue? a with
    | some wants => takeFlags (if wants then 1 else 0) (s.push a) rest
    | none => s

/-- Splits the program's path and the leading flags off a command line. -/
def split : List Argument → Split
  | [] => ⟨[], 0⟩
  | program :: rest => takeFlags 0 ⟨[program], 1⟩ rest

/-- What is left of a command line: the program's path and the arguments from the
command on. -/
def Split.command (s : Split) (arguments : List Argument) : List Argument :=
  arguments.head?.toList ++ arguments.drop s.commandStart

/-- A command line cut in two; both parts begin with the program's path. -/
structure Division where
  configuration : List Argument
  command : List Argument

/-- Cuts a command line. -/
def divide (arguments : List Argument) : Division :=
  let s := split arguments
  ⟨s.configuration, s.command arguments⟩

/-- The values that flags give. -/
structure Flags where
  configPath : Option Argument := none
  logFilter : Option String := none
  logFormat : Option Log.Format := none
  matchLimit : Option Nat := none
  maxStartDepth : Option Nat := none
  deriving DecidableEq

/-- The largest number of 64 bits with a sign. -/
def maxSigned : Nat := 9223372036854775807

/-- Reads a limit: a whole number that fits 32 bits. -/
def readFlagLimit (text : String) : Except String Nat :=
  match Text.readInt maxSigned text.toList with
  | .error f => .error f.message
  | .ok i =>
    if 0 ≤ i ∧ i ≤ (maxWord : Int) then .ok i.toNat
    else .error (Text.decimalInt i ++ " is not in 0..=" ++ Text.decimal maxWord)

/-- Reads a log format, whatever the case of its name. -/
def readFlagFormat (text : String) : Except String Log.Format :=
  match Log.Format.parse? text with
  | some f => .ok f
  | none => .error Log.Format.unknownMessage

/-- The command line of flags alone. -/
def flagGrammar : Usage.Grammar Flags where
  options := [
    Usage.valued "config-path" "PATH" Usage.pathValue
      (fun v f => { f with configPath := some v }) [],
    Usage.valued "log-filter" "LOG_FILTER" Usage.textValue
      (fun v f => { f with logFilter := some v }) [],
    Usage.valued "log-format" "LOG_FORMAT" (Usage.readValue readFlagFormat)
      (fun v f => { f with logFormat := some v }) [],
    Usage.valued "match-limit" "MATCH_LIMIT" (Usage.readValue readFlagLimit)
      (fun v f => { f with matchLimit := some v }) [],
    Usage.valued "max-start-depth" "MAX_START_DEPTH" (Usage.readValue readFlagLimit)
      (fun v f => { f with maxStartDepth := some v }) []]

/-- Reads flags, the program's path first. -/
def readFlags (arguments : List Argument) : Except Usage.Stop Flags :=
  (flagGrammar.parse {} arguments.tail).map Usage.Scan.values

/-- The fields that flags set. -/
def Flags.fields (f : Flags) : List (String × Json) :=
  (f.logFilter.map fun v => ("log_filter", .str v)).toList
    ++ (f.logFormat.map fun v => ("log_format", .str v.name)).toList
    ++ (f.matchLimit.map fun v => ("match_limit", .nat v)).toList
    ++ (f.maxStartDepth.map fun v => ("max_start_depth", .nat v)).toList

end TreeExplorer.Config
