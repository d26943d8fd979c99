/-
A session holds parsed sources, compiled queries, walks and one runner, and
carries out one request after another. Sources, queries and walks are numbered
in the order in which they come into being.
-/
import TreeExplorer.Query.Runner

namespace TreeExplorer.Session

/-- A request. -/
inductive Request where
  | parse (language : Language) (source : String)
  | diagnostics (source : Nat)
  /-- The text that `source` has where node `node` of source `owner` lies. -/
  | text (source owner node : Nat)
  | children (source node index : Nat)
  | walk (source : Nat) (mode : String) (namedOnly : Bool) (root : Nat)
  | pull (walk : Nat) (limit : Option Nat)
  | compile (language : Language) (query : String)
  | captureName (query index : Nat)
  | newRunner (options : Option Query.Options)
  | configure (options : Query.Options)
  /-- Without a root the query runs over the whole source. -/
  | run (source query : Nat) (root : Option Nat) (limit : Option Nat)
  | exceeded
  deriving Repr

/-- A match with the texts of its captures. -/
structure ShownMatch where
  pattern : Nat
  captures : List (String × Nat × String)
  deriving DecidableEq, Repr

/-- The answer to a request. -/
inductive Reply where
  | parsed (number : Nat) (language : Language) (bytes : Nat) (root : String) (hasErrors : Bool)
  | diagnostics (list : List Diagnostic)
  | text (text : String)
  | children (count namedCount : Nat) (child namedChild : Option Nat)
  | walk (number : Nat)
  | nodes (nodes : List (Nat × String)) (hint : Nat × Option Nat)
  | compiled (number : Nat) (query : CompiledQuery)
  | captureName (name : Option String) (count : Nat)
  | runner (description : String)
  | found (names : List String) (list : List ShownMatch) (failure : Option Error) (exceeded : Bool)
  | exceeded (flag : Bool)
  | failed (error : Error)
  /-- A number in the request belongs to nothing. -/
  | unknown
  deriving Repr

end Session

/-- The state of a session. A walk goes with the number of its source. -/
structure Session where
  sources : List ParsedSource := []
  queries : List CompiledQuery := []
  walks : List (Nat × Walk Nat) := []
  runner : Query.Runner := .fresh

namespace Session

/-- A match with the texts that a source has for its captures. -/
def shown (p : ParsedSource) (m : Query.Match Nat) : ShownMatch where
  pattern := m.pattern
  captures := m.captures.map fun c => (c.1, c.2, ((p.tree.row? c.2).map p.textOf).getD "")

/-- The answer to a run. -/
def foundReply (p : ParsedSource) (t : Query.Stream.Taken Nat) (r : Query.Runner) : Reply :=
  .found t.stream.names (t.found.map (shown p))
    (match t.ending with | .failed e => some e | _ => none) r.exceeded

/-- Parses a source and keeps it. -/
def parse (s : Session) (e : Engine) (language : Language) (source : String) : Reply × Session :=
  match e.parseSource language source with
  | .error err => (.failed err, s)
  | .ok p =>
    (.parsed s.sources.length p.language p.source.utf8ByteSize (p.tree.kind 0) p.hasErrors,
      { s with sources := s.sources ++ [p] })

/-- Compiles a query and keeps it. -/
def compile (s : Session) (e : Engine) (language : Language) (text : String) : Reply × Session :=
  match e.compileQuery language text with
  | .error err => (.failed err, s)
  | .ok q => (.compiled s.queries.length q, { s with queries := s.queries ++ [q] })

/-- Starts a walk and keeps it. -/
def walk (s : Session) (source : Nat) (mode : String) (namedOnly : Bool) (root : Nat) :
    Reply × Session :=
  match Mode.parse mode with
  | .error err => (.failed err, s)
  | .ok m =>
    (.walk s.walks.length,
      { s with walks := s.walks ++ [(source, Walk.start root m namedOnly)] })

/-- Pulls a walk. -/
def pull (s : Session) (k : Nat) (limit : Option Nat) : Reply × Session :=
  match s.walks[k]? with
  | none => (.unknown, s)
  | some (source, w) =>
    match s.sources[source]? with
    | none => (.unknown, s)
    | some p =>
      let t := p.pull limit w
      (.nodes (t.nodes.map fun n => (n, p.tree.kind n)) t.walk.sizeHint,
        { s with walks := s.walks.set k (source, t.walk) })

/-- Runs a query. -/
def run (s : Session) (e : Engine) (source query : Nat) (root limit : Option Nat) :
    Reply × Session :=
  match s.sources[source]?, s.queries[query]? with
  | some p, some q =>
    match root with
    | some n =>
      let (t, r) := s.runner.collect e q p n limit
      (foundReply p t r, { s with runner := r })
    | none =>
      match s.runner.collectAll e q p limit with
      | .error err => (.failed err, s)
      | .ok (t, r) => (foundReply p t r, { s with runner := r })
  | _, _ => (.unknown, s)

/-- The text of one source where a node of another lies. -/
def text (s : Session) (source owner node : Nat) : Reply :=
  match s.sources[source]?, (s.sources[owner]?).bind fun o => o.tree.row? node with
  | some p, some r => .text (p.textOf r)
  | _, _ => .unknown

/-- The children of a node, counted and looked up. -/
def children (s : Session) (source node index : Nat) : Reply :=
  match s.sources[source]? with
  | none => .unknown
  | some p =>
    let view := p.tree.view
    .children (view.childCount node) (view.namedChildCount node) (view.child node index)
      (view.namedChild node index)

/-- Carries out a request. -/
def step (e : Engine) (s : Session) : Request → Reply × Session
  | .parse language source => s.parse e language source
  | .diagnostics k =>
    match s.sources[k]? with
    | some p => (.diagnostics p.diagnostics, s)
    | none => (.unknown, s)
  | .text source owner node => (s.text source owner node, s)
  | .children source node index => (s.children source node index, s)
  | .walk source mode namedOnly root => s.walk source mode namedOnly root
  | .pull k limit => s.pull k limit
  | .compile language query => s.compile e language query
  | .captureName k index =>
    match s.queries[k]? with
    | some q => (.captureName (q.table.name index) q.table.count, s)
    | none => (.unknown, s)
  | .newRunner options =>
    let r := (options.map Query.Runner.withOptions).getD .fresh
    (.runner r.describe, { s with runner := r })
  | .configure options =>
    let r := s.runner.configure options
    (.runner r.describe, { s with runner := r })
  | .run source query root limit => s.run e source query root limit
  | .exceeded => (.exceeded s.runner.exceeded, s)

end Session

end TreeExplorer
