/-
The program: it reads its command line, loads its configuration, sets logging up
and carries out the command. What fails first is told, and nothing after it
happens.
-/
import TreeExplorer.Config.Load
import TreeExplorer.Log.Telemetry
import TreeExplorer.Query.Runner

namespace TreeExplorer.Program

/-- What the program finds around it. -/
structure Surroundings where
  engine : Engine
  files : FileSystem
  environment : Variables

/-- What keeps the program from doing what it is told. -/
inductive Failure where
  | configuration (faults : List Config.LoadFault)
  | telemetry (fault : Log.TelemetryFault)
  | source (path : String) (fault : ReadFault)
  | queryFile (path : String) (fault : ReadFault)
  | unknownLanguage (path : String)
  | exploring (error : Error)
  | writing (fault : WriteFault)

/-- The wording of a failure. -/
def Failure.message : Failure → String
  | .configuration fs => "failed to load configuration: " ++ Config.faultsMessage fs
  | .telemetry f => "failed to initialise telemetry: " ++ f.message
  | .source path f => "failed to read " ++ path ++ ": " ++ f.message
  | .queryFile path f => "failed to read query file " ++ path ++ ": " ++ f.message
  | .unknownLanguage path => "cannot detect the language of " ++ path ++ "; pass --language"
  | .exploring e => e.message
  | .writing f => f.message

/-! ## Events -/

/-- A walk has come to its end. -/
def walkExhausted (mode : Mode) : Log.Event :=
  ⟨.trace, "sylvan_iter::traversal", "traversal exhausted", [("mode", .text mode.name)]⟩

/-- A source has errors. -/
def sourceFlawed (file : String) (errors : Nat) : Log.Event :=
  ⟨.warn, "sylvan_cli::commands", "source contains syntax errors",
    [("file", .text file), ("errors", .nat errors)]⟩

/-- A walk has been written. -/
def walkFinished (r : Usage.WalkRequest) (visited : Nat) : Log.Event :=
  ⟨.debug, "sylvan_cli::commands", "walk finished",
    [("file", .text r.file), ("mode", .text r.mode.name), ("named_only", .bool r.namedOnly),
      ("visited", .nat visited)]⟩

/-- A query has been compiled. -/
def queryCompiled (q : CompiledQuery) : Log.Event :=
  ⟨.debug, "sylvan_iter::query::cursor", "compiled query",
    [("language", .text q.language.name), ("patterns", .nat q.patterns),
      ("captures", .nat q.captures.length)]⟩

/-- A stream of matches has begun. -/
def streamStarted (names : Nat) : Log.Event :=
  ⟨.debug, "sylvan_iter::query", "bound query match iterator", [("captures", .nat names)]⟩

/-- A stream of matches has come to its end. -/
def streamExhausted : Log.Event :=
  ⟨.trace, "sylvan_iter::query", "query matches exhausted", []⟩

/-- A match captures under an index that its query does not define. -/
def captureUnknown (index count : Nat) : Log.Event :=
  ⟨.warn, "sylvan_iter::query", "cursor reported an unknown capture index",
    [("index", .nat index), ("capture_count", .nat count)]⟩

/-- A limit in the words of the log. -/
def shownLimit : Option Nat → String
  | none => "None"
  | some n => "Some(" ++ Text.decimal n ++ ")"

/-- The engine dropped matches. -/
def matchesDropped (limit : Option Nat) : Log.Event :=
  ⟨.warn, "sylvan_cli::commands", "match limit exceeded; some matches were dropped",
    [("match_limit", .text (shownLimit limit))]⟩

/-- The matches of a query have been written. -/
def queryFinished (file : String) (found : Nat) : Log.Event :=
  ⟨.debug, "sylvan_cli::commands", "query finished",
    [("file", .text file), ("matches", .nat found)]⟩

/-! ## Commands -/

/-- What has come of a command. -/
structure Performance where
  writer : RecordWriter
  events : List Log.Event := []
  failure : Option Failure := none

/-- Reads and parses a source file. The language is that asked for, or that of the
file's extension. -/
def parseFile (s : Surroundings) (path : String) (language : Option Language) :
    Except Failure ParsedSource :=
  match language.or (Language.ofPath path) with
  | none => .error (.unknownLanguage path)
  | some l =>
    match s.files.readText path with
    | .error f => .error (.source path f)
    | .ok text => (s.engine.parseSource l text).mapError .exploring

/-- The events of a parsed source. Its errors are counted, by a walk of their own,
only if the event that tells them is written. -/
def sourceEvents (t : Log.Telemetry) (path : String) (p : ParsedSource) : List Log.Event :=
  if p.hasErrors && t.enables (sourceFlawed path 0) then
    [walkExhausted .depthFirst, sourceFlawed path p.diagnostics.length]
  else []

/-- Walks a source and writes a record for each node. -/
def walkSource (r : Usage.WalkRequest) (p : ParsedSource) (w : RecordWriter) : Performance :=
  let taken := p.pull r.limit (Walk.start 0 r.mode r.namedOnly)
  let records := (taken.nodes.filterMap p.tree.row?).map fun row => .node (.ofRow row)
  match w.writeAll records with
  | (w, some f) => { writer := w, failure := some (.writing f) }
  | (w, none) =>
    { writer := w
      events := (if taken.ended then [walkExhausted r.mode] else [])
        ++ [walkFinished r w.written] }

/-- Carries out the walk command. -/
def walk (s : Surroundings) (t : Log.Telemetry) (r : Usage.WalkRequest) (w : RecordWriter) :
    Performance :=
  match parseFile s r.file r.language with
  | .error f => { writer := w, failure := some f }
  | .ok p =>
    let done := walkSource r p w
    { done with events := sourceEvents t r.file p ++ done.events }

/-- The text of a query. -/
def queryText (s : Surroundings) : Usage.QuerySource → Except Failure String
  | .inline text => .ok text
  | .file path => (s.files.readText path).mapError (.queryFile path)

/-- Writes the matches of a stream, and tells how the stream ended. -/
def writeMatches (c : Config) (r : Usage.QueryRequest) (p : ParsedSource)
    (taken : Query.Stream.Taken Nat) (runner : Query.Runner) (w : RecordWriter) : Performance :=
  match w.writeAll (taken.found.map fun m => .found (.ofMatch p m)) with
  | (w, some f) => { writer := w, failure := some (.writing f) }
  | (w, none) =>
    match taken.ending with
    | .failed e =>
      { writer := w
        events := match e with
          | .unknownCapture i n => [captureUnknown i n]
          | _ => []
        failure := some (.exploring e) }
    | ending =>
      { writer := w
        events := (if ending = .ended then [streamExhausted] else [])
          ++ (if runner.exceeded then [matchesDropped c.matchLimit] else [])
          ++ [queryFinished r.file w.written] }

/-- Queries a source and writes a record for each match. -/
def querySource (s : Surroundings) (c : Config) (r : Usage.QueryRequest) (text : String)
    (p : ParsedSource) (w : RecordWriter) : Performance :=
  match s.engine.compileQuery p.language text with
  | .error e => { writer := w, failure := some (.exploring e) }
  | .ok q =>
    match (Query.Runner.withOptions c.options).collectAll s.engine q p r.limit with
    | .error e => { writer := w, events := [queryCompiled q], failure := some (.exploring e) }
    | .ok (taken, runner) =>
      let done := writeMatches c r p taken runner w
      { done with
        events := [queryCompiled q, streamStarted taken.stream.names.length] ++ done.events }

/-- Carries out the query command. The text of the query is read before the
source. -/
def query (s : Surroundings) (t : Log.Telemetry) (c : Config) (r : Usage.QueryRequest)
    (w : RecordWriter) : Performance :=
  match queryText s r.query with
  | .error f => { writer := w, failure := some f }
  | .ok text =>
    match parseFile s r.file r.language with
    | .error f => { writer := w, failure := some f }
    | .ok p =>
      let done := querySource s c r text p w
      { done with events := sourceEvents t r.file p ++ done.events }

/-- Carries out a command, and flushes the output if that succeeds. -/
def perform (s : Surroundings) (t : Log.Telemetry) (c : Config) (command : Usage.Command)
    (w : RecordWriter) : Performance :=
  let done :=
    match command with
    | .walk r => walk s t r w
    | .query r => query s t c r w
  match done.failure with
  | some _ => done
  | none => { done with failure := done.writer.finish.map .writing }

/-! ## Runs -/

/-- How the program is called. -/
structure Call where
  arguments : List Argument
  /-- Whether output goes to a terminal. -/
  terminal : Bool
  output : Sink
  diagnostics : Sink

/-- What a run leaves behind. -/
structure Outcome where
  success : Bool
  output : Sink
  diagnostics : Sink
  telemetry : Log.Telemetry
  /-- What was logged. -/
  log : List Json

/-- The outcome of a run that ends in a failure. -/
def failed (call : Call) (t : Log.Telemetry) (f : Failure) : Outcome where
  success := false
  output := call.output
  diagnostics := (call.diagnostics.write ("error: " ++ f.message ++ "\n")).1
  telemetry := t
  log := []

/-- The outcome of a run that ends with a notice: what was asked for is output and
a success, all else is neither. -/
def noticed (call : Call) (t : Log.Telemetry) (n : Usage.Notice) : Outcome :=
  let text := n.text (Usage.calledName call.arguments)
  { success := n.isAnswer
    output := if n.isAnswer then (call.output.write text).1 else call.output
    diagnostics := if n.isAnswer then call.diagnostics else (call.diagnostics.write text).1
    telemetry := t
    log := [] }

/-- The outcome of a command. -/
def performed (call : Call) (t : Log.Telemetry) (p : Performance) : Outcome where
  success := p.failure.isNone
  output := p.writer.sink
  diagnostics :=
    match p.failure with
    | none => call.diagnostics
    | some f => (call.diagnostics.write ("error: " ++ f.message ++ "\n")).1
  telemetry := t
  log := t.lines p.events

/-- The files that a command reads. -/
def commandPaths : Usage.Command → List String
  | .walk r => [r.file]
  | .query r =>
    match r.query with
    | .inline _ => [r.file]
    | .file path => [path, r.file]

/-- Every file that a run may read, as far as the files that are known tell. -/
def paths (files : FileSystem) (environment : Variables) (arguments : List Argument) :
    List String :=
  let parts := Config.divide arguments
  let named :=
    match Config.readFlags parts.configuration with
    | .ok flags => (flags.configPath.bind Argument.text?).toList
    | .error _ => []
  let read :=
    match Usage.readCommandLine parts.command with
    | .ok invocation => commandPaths invocation.command
    | .error _ => []
  let candidates :=
    Config.candidates environment (FileSystem.absolute files.workingDirectory)
  (named ++ candidates).flatMap (Config.chainPaths files (files.entries.length + 1)) ++ read

/-- Runs the program. -/
def run (s : Surroundings) (t : Log.Telemetry) (call : Call) : Outcome :=
  let parts := Config.divide call.arguments
  match Usage.readCommandLine parts.command with
  | .error n => noticed call t n
  | .ok invocation =>
    match Config.load s.files s.environment parts.configuration with
    | .error fs => failed call t (.configuration fs)
    | .ok c =>
      match t.initialise c with
      | .error f => failed call t (.telemetry f)
      | .ok t =>
        performed call t (perform s t c invocation.command
          { sink := call.output, format := invocation.output.resolve call.terminal })

end TreeExplorer.Program
