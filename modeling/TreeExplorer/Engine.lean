/-
The engine that parses sources and runs queries stands outside this library. It
is a parameter: whether it can use the grammar of a language, and what it answers when
asked to parse, to compile and to run. An engine may also be given by a record of its
answers.
-/
import TreeExplorer.Query.Settings
import TreeExplorer.Query.Stream
import TreeExplorer.Tree.Source

namespace TreeExplorer

/-- Why the engine rejects a query; row and column count from zero. -/
structure QueryFault where
  row : Nat
  column : Nat
  reason : String
  deriving DecidableEq, Repr

/-- A query that the engine has accepted. -/
structure CompiledQuery where
  language : Language
  text : String
  patterns : Nat
  captures : List String
  deriving DecidableEq, Repr

/-- The captures that a query defines. -/
def CompiledQuery.table (q : CompiledQuery) : Query.CaptureTable :=
  .ofNames q.captures

/-- A run of a query: its matches, and the number of advances from which on the
engine reports dropped matches. -/
structure QueryRun where
  found : List (Query.RawMatch Nat)
  exceededFrom : Option Nat
  deriving DecidableEq, Repr

/-- What the engine makes of a source. -/
structure Parse where
  tree : SyntaxTree
  /-- Whether the engine says that the tree holds errors. -/
  hasErrors : Bool
  deriving Repr

/-- What the engine makes of a query: the number of its patterns and the names of
its captures. -/
structure Signature where
  patterns : Nat
  captures : List String
  deriving DecidableEq, Repr

/-- What the engine answers. -/
structure Engine where
  /-- Why the grammar of a language does not fit the engine, if it does not. -/
  misfit : Language → Option String
  parse : Language → String → Option Parse
  compile : Language → String → Except QueryFault Signature
  run : CompiledQuery → ParsedSource → Nat → Query.Settings → QueryRun

namespace Engine

/-- Sets a parser up and parses a source, which keeps the language it was parsed as. -/
def parseSource (e : Engine) (language : Language) (source : String) : Except Error ParsedSource :=
  match e.misfit language with
  | some reason => .error (.parserInit language reason)
  | none =>
    match e.parse language source with
    | some p => .ok ⟨language, source, p.tree, p.hasErrors⟩
    | none => .error (.noTree language "parser returned no tree")

/-- Compiles a query, which keeps the language it was compiled for; the place of a
fault counts from one. -/
def compileQuery (e : Engine) (language : Language) (text : String) : Except Error CompiledQuery :=
  match e.compile language text with
  | .ok s => .ok ⟨language, text, s.patterns, s.captures⟩
  | .error f => .error (.queryRejected language (oneBased f.row) (oneBased f.column) f.reason)

end Engine

/-! ## Recorded answers -/

/-- A recorded run: the parsed source by number, the node it starts at, the
settings in force, and what came of it. -/
structure RunRecord where
  parse : Nat
  root : Nat
  settings : Query.Settings
  run : QueryRun
  deriving Repr

/-- A recorded compilation, with the runs of the query. -/
structure QueryRecord where
  language : Language
  text : String
  outcome : Except QueryFault (CompiledQuery × List RunRecord)

/-- The record of an engine's answers. -/
structure EngineRecord where
  parses : List ParsedSource := []
  queries : List QueryRecord := []

namespace EngineRecord

/-- The number of a recorded parse. -/
def parseNumber (r : EngineRecord) (language : Language) (source : String) : Option Nat :=
  r.parses.findIdx? fun p => p.language == language && p.source == source

/-- The record of a query. -/
def query? (r : EngineRecord) (language : Language) (text : String) : Option QueryRecord :=
  r.queries.find? fun q => q.language == language && q.text == text

/-- The recorded run of a query over a source. -/
def run? (r : EngineRecord) (q : CompiledQuery) (p : ParsedSource) (root : Nat)
    (settings : Query.Settings) : Option QueryRun := do
  let number ← r.parseNumber p.language p.source
  let record ← r.query? q.language q.text
  match record.outcome with
  | .error _ => none
  | .ok (_, runs) =>
    (runs.find? fun x => x.parse == number && x.root == root && x.settings == settings).map (·.run)

/-- The engine that gives the recorded answers. Every grammar fits it, a run that is
not recorded has no matches, and a query that is not recorded is rejected. -/
def engine (r : EngineRecord) : Engine where
  misfit _ := none
  parse language source :=
    ((r.parseNumber language source).bind fun i => r.parses[i]?).map fun p => ⟨p.tree, p.hasErrors⟩
  compile language text :=
    match r.query? language text with
    | some q => q.outcome.map fun x => ⟨x.1.patterns, x.1.captures⟩
    | none => .error ⟨0, 0, "no such query"⟩
  run q p root settings := (r.run? q p root settings).getD ⟨[], none⟩

end EngineRecord

end TreeExplorer
