/-
The command line of the program: one of two commands with its options, and how
records are to look, which may be said before or after the command.
-/
import TreeExplorer.Path
import TreeExplorer.Record.Writer
import TreeExplorer.Usage.Help
import TreeExplorer.Usage.Value
import TreeExplorer.Walk.Mode

namespace TreeExplorer.Usage

/-- What to walk and how. -/
structure WalkRequest where
  file : String
  language : Option Language
  mode : Mode
  namedOnly : Bool
  limit : Option Nat
  deriving DecidableEq, Repr

/-- Where the text of a query comes from. -/
inductive QuerySource where
  | inline (text : String)
  | file (path : String)
  deriving DecidableEq, Repr

/-- What to query and how. -/
structure QueryRequest where
  file : String
  language : Option Language
  query : QuerySource
  limit : Option Nat
  deriving DecidableEq, Repr

/-- What the program is to do. -/
inductive Command where
  | walk (request : WalkRequest)
  | query (request : QueryRequest)
  deriving DecidableEq, Repr

/-- A command line that has been read. -/
structure Invocation where
  output : OutputFormat
  command : Command
  deriving DecidableEq, Repr

/-- Why a command line asks for nothing to be done. -/
inductive Notice where
  | fault (fault : Fault)
  | help (topic : Topic) (full : Bool)
  | version
  /-- The program was called with nothing at all. -/
  | nothingGiven
  deriving DecidableEq, Repr

/-- What has been given to a command. -/
structure Given where
  file : Option String := none
  language : Option Language := none
  mode : Option Mode := none
  namedOnly : Bool := false
  query : Option String := none
  queryFile : Option String := none
  limit : Option Nat := none
  output : Option OutputFormat := none
  deriving DecidableEq, Repr

/-! ## Options -/

/-- The largest limit. -/
def maxLimit : Nat := 18446744073709551615

/-- Reads a limit. -/
def readLimit (text : String) : Except String Nat :=
  (Text.readNat maxLimit text.toList).mapError Text.NumberFault.message

/-- Reads a language. -/
def readLanguage (text : String) : Except String Language :=
  (Language.parse text).mapError Language.UnknownName.message

/-- Reads the order of a walk. -/
def readMode (text : String) : Except String Mode :=
  (Mode.parse text).mapError Error.message

/-- How records are to look. -/
def outputOption : OptionSpec Given :=
  valued "output" "OUTPUT" (choiceValue OutputFormat.ofName?)
    (fun v g => { g with output := some v }) (OutputFormat.all.map OutputFormat.name)

/-- The language of the source. -/
def languageOption : OptionSpec Given :=
  valued "language" "LANGUAGE" (readValue readLanguage)
    (fun v g => { g with language := some v }) []

/-- The order of a walk. -/
def modeOption : OptionSpec Given :=
  valued "mode" "MODE" (readValue readMode) (fun v g => { g with mode := some v }) []

/-- Named nodes only. -/
def namedOption : OptionSpec Given :=
  switch "named" fun g => { g with namedOnly := true }

/-- How many records at most. -/
def limitOption : OptionSpec Given :=
  valued "limit" "N" (readValue readLimit) (fun v g => { g with limit := some v }) []

/-- The text of a query. -/
def queryOption : OptionSpec Given :=
  valued "query" "QUERY" textValue (fun v g => { g with query := some v }) []

/-- The file that holds a query. -/
def queryFileOption : OptionSpec Given :=
  valued "query-file" "PATH" textValue (fun v g => { g with queryFile := some v }) []

/-- The source file. -/
def fileOperand : Slot Given :=
  operandText "FILE" fun v g => { g with file := some v }

/-! ## Grammars -/

/-- The program before its command. -/
def programGrammar : Grammar Given where
  options := [outputOption]
  commands := ["walk", "query"]
  hasVersion := true

/-- The walk command. -/
def walkGrammar : Grammar Given where
  options := [languageOption, outputOption, modeOption, namedOption, limitOption]
  operand := some fileOperand

/-- The query command. -/
def queryGrammar : Grammar Given where
  options := [languageOption, outputOption, queryOption, queryFileOption, limitOption]
  operand := some fileOperand

/-! ## Commands -/

/-- The label of a query text. -/
def queryLabel : String := "--query <QUERY>"

/-- The label of a query file. -/
def queryFileLabel : String := "--query-file <PATH>"

/-- The request that was given to the walk command. -/
def walkRequest (s : Scan Given) : Except Fault Command :=
  match s.values.file with
  | none => .error (.missingArguments ["<FILE>"])
  | some file =>
    .ok (.walk {
      file
      language := s.values.language
      mode := s.values.mode.getD default
      namedOnly := s.values.namedOnly
      limit := s.values.limit })

/-- The fault of two sources for one query; the one given first is told first. -/
def querySourceConflict (s : Scan Given) : Fault :=
  if s.given.find? (fun l => l == queryLabel || l == queryFileLabel) = some queryLabel then
    .conflict queryLabel queryFileLabel
  else .conflict queryFileLabel queryLabel

/-- The request that was given to the query command. -/
def queryRequest (s : Scan Given) : Except Fault Command :=
  let source : Except Fault (Option QuerySource) :=
    match s.values.query, s.values.queryFile with
    | some _, some _ => .error (querySourceConflict s)
    | some text, none => .ok (some (.inline text))
    | none, some path => .ok (some (.file path))
    | none, none => .ok none
  match source with
  | .error f => .error f
  | .ok source =>
    match source, s.values.file with
    | some query, some file =>
      .ok (.query { file, language := s.values.language, query, limit := s.values.limit })
    | source, file =>
      .error (.missingArguments
        ((if source.isNone then ["<" ++ queryLabel ++ "|" ++ queryFileLabel ++ ">"] else [])
          ++ if file.isNone then ["<FILE>"] else []))

/-! ## Command lines -/

/-- A reason to stop while reading about a topic. -/
def Stop.notice (topic : Topic) : Stop → Notice
  | .fault f => .fault f
  | .help full => .help topic full
  | .version => .version

/-- Reads the arguments of a command. -/
def readCommand (topic : Topic) (g : Grammar Given) (request : Scan Given → Except Fault Command)
    (arguments : List Argument) : Except Notice (Command × Option OutputFormat) :=
  match g.parse {} arguments with
  | .error stop => .error (stop.notice topic)
  | .ok s =>
    match request s with
    | .ok c => .ok (c, s.values.output)
    | .error f => .error (.fault f)

/-- The name by which the program was called: the file name of its path. -/
def calledName : List Argument → Option String
  | [] => none
  | program :: _ => Argument.text? program |>.bind Path.fileName

/-- The notice where no command was given. -/
def withoutCommand (arguments : List Argument) (s : Scan Given) : Notice :=
  if s.given.isEmpty then .nothingGiven
  else
    .fault (.missingCommand ((calledName arguments).getD programName) programGrammar.commands)

/-- Reads a command line, the program's path first. How records are to look is
taken from behind the command if it is said there. -/
def readCommandLine (arguments : List Argument) : Except Notice Invocation :=
  match programGrammar.readAll { values := {} } arguments.tail with
  | .error stop => .error (stop.notice .program)
  | .ok (s, command) =>
    let outcome : Except Notice (Option (Command × Option OutputFormat)) :=
      match command with
      | none => .ok none
      | some (name, rest) =>
        (if name = "walk" then readCommand .walk walkGrammar walkRequest rest
          else readCommand .query queryGrammar queryRequest rest).map some
    match outcome with
    | .error n => .error n
    | .ok done =>
      match s.resolve with
      | .error f => .error (.fault f)
      | .ok s =>
        match done with
        | none => .error (withoutCommand arguments s)
        | some (c, output) =>
          .ok ⟨(output.or s.values.output).getD default, c⟩

/-- Whether a notice is what was asked for. -/
def Notice.isAnswer : Notice → Bool
  | .help _ _ => true
  | .version => true
  | _ => false

/-- The text of a notice, for a program called by this name. -/
def Notice.text (name : Option String) : Notice → String
  | .fault f => f.report
  | .help topic full => topic.help name full
  | .version => versionText
  | .nothingGiven => Topic.help .program name false

end TreeExplorer.Usage
