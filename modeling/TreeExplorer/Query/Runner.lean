/-
A runner keeps settings from run to run, and remembers of its last run whether
the engine dropped matches. Nothing else of a run outlives it.
-/
import TreeExplorer.Engine

namespace TreeExplorer.Query

/-- A runner: the settings for the next run and the cursor of the last one. -/
structure Runner where
  settings : Settings
  cursor : Cursor Nat
  deriving Repr

namespace Runner

/-- A runner without limits that has not run anything. -/
def fresh : Runner :=
  ⟨({} : Options).settings, { answers := [] }⟩

/-- Replaces the settings. The report on the last run stays. -/
def configure (r : Runner) (o : Options) : Runner :=
  { r with settings := o.settings }

/-- A runner with the given limits that has not run anything. -/
def withOptions (o : Options) : Runner :=
  fresh.configure o

/-- A runner as shown to developers. -/
def describe (r : Runner) : String :=
  "QueryRunner \x7b match_limit: " ++ Text.decimal r.settings.matchLimit ++ ", .. \x7d"

/-- The stream of a query's matches below a node. -/
def start (r : Runner) (e : Engine) (q : CompiledQuery) (p : ParsedSource) (root : Nat) : Stream Nat :=
  let run := e.run q p root r.settings
  Stream.start q.table { answers := run.found.map .found, exceededFrom := run.exceededFrom }

/-- Runs a query below a node and hands out matches up to the limit. -/
def collect (r : Runner) (e : Engine) (q : CompiledQuery) (p : ParsedSource) (root : Nat)
    (limit : Option Nat) : Stream.Taken Nat × Runner :=
  let t := (r.start e q p root).takeUpTo limit
  (t, { r with cursor := t.stream.cursor })

/-- Runs a query over a whole source and hands out matches up to the limit. A
query of another language is refused and leaves the runner as it was. -/
def collectAll (r : Runner) (e : Engine) (q : CompiledQuery) (p : ParsedSource)
    (limit : Option Nat) : Except Error (Stream.Taken Nat × Runner) :=
  if q.language = p.language then .ok (r.collect e q p 0 limit)
  else .error (.languageMismatch q.language p.language)

/-- Whether the engine dropped matches in the last run. -/
def exceeded (r : Runner) : Bool :=
  r.cursor.exceeded

end Runner

end TreeExplorer.Query
