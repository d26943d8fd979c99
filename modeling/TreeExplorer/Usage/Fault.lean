/-
How a command line can be wrong, and how that is told.
-/

namespace TreeExplorer.Usage

/-- What is wrong with a command line. Options are told by their label: the name
and, where they take one, the placeholder of the value. -/
inductive Fault where
  | unexpectedArgument (shown : String)
  | unknownCommand (shown : String)
  /-- An option that may be given once is given again. -/
  | repeated (label : String)
  | conflict (label other : String)
  /-- A value is attached to an option that takes none. -/
  | unexpectedValue (shown label : String)
  /-- A value is missing; `choices` are the values that would do, if they are few. -/
  | missingValue (label : String) (choices : List String)
  | noChoice (shown label : String) (choices : List String)
  | badValue (shown label reason : String)
  /-- A value that has to be text has stray bytes. -/
  | notText
  | missingArguments (labels : List String)
  | missingCommand (program : String) (commands : List String)
  deriving DecidableEq, Repr

/-- The line that lists the values or commands to choose from. -/
def choiceLine (title : String) : List String → String
  | [] => ""
  | names => "\n  [" ++ title ++ ": " ++ String.intercalate ", " names ++ "]"

/-- The wording of a fault. -/
def Fault.message : Fault → String
  | .unexpectedArgument a => "unexpected argument '" ++ a ++ "' found"
  | .unknownCommand a => "unrecognized subcommand '" ++ a ++ "'"
  | .repeated l => "the argument '" ++ l ++ "' cannot be used multiple times"
  | .conflict l o => "the argument '" ++ l ++ "' cannot be used with '" ++ o ++ "'"
  | .unexpectedValue v l =>
    "unexpected value '" ++ v ++ "' for '" ++ l ++ "' found; no more were expected"
  | .missingValue l choices =>
    "a value is required for '" ++ l ++ "' but none was supplied"
      ++ choiceLine "possible values" choices
  | .noChoice v l choices =>
    "invalid value '" ++ v ++ "' for '" ++ l ++ "'" ++ choiceLine "possible values" choices
  | .badValue v l reason => "invalid value '" ++ v ++ "' for '" ++ l ++ "': " ++ reason
  | .notText => "invalid UTF-8 was detected in one or more arguments"
  | .missingArguments labels =>
    "the following required arguments were not provided:"
      ++ String.join (labels.map ("\n  " ++ ·))
  | .missingCommand program commands =>
    "'" ++ program ++ "' requires a subcommand but one was not provided"
      ++ choiceLine "subcommands" commands

/-- The text that tells of a fault. -/
def Fault.report (f : Fault) : String :=
  "error: " ++ f.message ++ "\n\nFor more information, try '--help'.\n"

/-- Why reading a command line stops. -/
inductive Stop where
  | fault (fault : Fault)
  /-- Help was asked for, in full or as a summary. -/
  | help (full : Bool)
  | version
  deriving DecidableEq, Repr

end TreeExplorer.Usage
