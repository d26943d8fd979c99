/-
Where log events go. A process installs one subscriber, the first time that an
acceptable filter is configured; from then on it stays as it is.
-/
import TreeExplorer.Config.Basic
import TreeExplorer.Log.Filter

namespace TreeExplorer.Log

/-- What writes the events of a process. -/
structure Subscriber where
  filter : Filter
  format : Format
  deriving DecidableEq, Repr

namespace Subscriber

/-- Whether an event is written. -/
def enables (s : Subscriber) (e : Event) : Bool :=
  s.filter.enables e

/-- An event as it is written. -/
def render (s : Subscriber) (e : Event) : Json :=
  match s.format with
  | .json => e.json
  | .compact => .str e.line

end Subscriber

/-- The state of logging in a process. -/
inductive Telemetry where
  /-- Nothing is installed. -/
  | idle
  /-- Something outside this program has installed a subscriber of its own. -/
  | taken
  | installed (subscriber : Subscriber)
  deriving DecidableEq, Repr

/-- Why logging cannot be set up. -/
inductive TelemetryFault where
  | filter (fault : FilterFault)
  | taken
  deriving DecidableEq, Repr

/-- The wording of a failure. -/
def TelemetryFault.message : TelemetryFault → String
  | .filter f => "invalid log filter: " ++ f.message
  | .taken =>
    "failed to install telemetry subscriber: a global default trace dispatcher has already been set"

namespace Telemetry

/-- Sets logging up, unless that has been done. The filter is looked at first. -/
def initialise (t : Telemetry) (c : Config) : Except TelemetryFault Telemetry :=
  match t with
  | installed s => .ok (installed s)
  | idle =>
    match Filter.parse c.logFilter with
    | .ok f => .ok (installed ⟨f, c.logFormat⟩)
    | .error e => .error (.filter e)
  | taken =>
    match Filter.parse c.logFilter with
    | .ok _ => .error .taken
    | .error e => .error (.filter e)

/-- Whether an event would be written. -/
def enables : Telemetry → Event → Bool
  | installed s, e => s.enables e
  | _, _ => false

/-- The lines that a process writes for events. -/
def lines : Telemetry → List Event → List Json
  | installed s, es => (es.filter s.enables).map s.render
  | _, _ => []

/-- Logging that is set up and writes nothing. -/
def silent : Telemetry :=
  installed ⟨⟨[]⟩, .compact⟩

end Telemetry

end TreeExplorer.Log
