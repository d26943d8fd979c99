/-
Writing records to a sink, one after another, until one does not fit.
-/
import TreeExplorer.Record.Basic
import TreeExplorer.Sink
import TreeExplorer.Text.Ascii

namespace TreeExplorer

/-- The form of output that a user asks for. -/
inductive OutputFormat where
  /-- For people on a terminal, JSON otherwise. -/
  | auto
  | human
  | json
  deriving DecidableEq, Repr

namespace OutputFormat

/-- The name of a form. -/
def name : OutputFormat → String
  | auto => "auto"
  | human => "human"
  | json => "json"

/-- Every form. -/
def all : List OutputFormat :=
  [auto, human, json]

instance : Inhabited OutputFormat := ⟨auto⟩

/-- The form of exactly this name. -/
def ofName? (text : String) : Option OutputFormat :=
  all.find? (·.name == text)

/-- The form of a name, whatever its ASCII case. -/
def parse? (text : String) : Option OutputFormat :=
  all.find? fun f => Text.sameIgnoringCase f.name text

/-- The wording when a text names no form. -/
def unknownMessage (text : String) : String :=
  "invalid variant: " ++ text

end OutputFormat

/-- The form in which records are written. -/
inductive RecordFormat where
  | human
  | json
  deriving DecidableEq, Repr

/-- The form that is written when output goes to a terminal or elsewhere. -/
def OutputFormat.resolve (f : OutputFormat) (terminal : Bool) : RecordFormat :=
  match f with
  | .auto => if terminal then .human else .json
  | .human => .human
  | .json => .json

/-- What writes records, and how many it has written. -/
structure RecordWriter where
  sink : Sink
  format : RecordFormat
  written : Nat := 0

/-- A record of either kind. -/
inductive Record where
  | node (record : NodeRecord)
  | found (record : MatchRecord)
  deriving DecidableEq, Repr

namespace Record

/-- A record as a JSON object. -/
def json : Record → Json
  | node r => r.json
  | found r => r.json

/-- A record in lines for people, as the record of that number. -/
def human (number : Nat) : Record → List String
  | node r => [r.human]
  | found r => r.human number

end Record

/-- Why a record could not be written. -/
inductive WriteFault where
  /-- The sink failed within a JSON value. -/
  | serialise (fault : SinkFault)
  | write (fault : SinkFault)
  deriving DecidableEq, Repr

/-- The wording of a failure. -/
def WriteFault.message : WriteFault → String
  | .serialise f => "failed to serialise output record: " ++ f.message
  | .write f => "failed to write output: " ++ f.message

namespace RecordWriter

/-- Writes lines, each with its line end, and says whether all went in. -/
def writeLines (sink : Sink) : List String → Sink × Bool
  | [] => (sink, true)
  | l :: rest =>
    match sink.write (l ++ "\n") with
    | (s, true) => writeLines s rest
    | (s, false) => (s, false)

/-- Writes a JSON value and a line end. -/
def writeJson (sink : Sink) (v : Json) : Sink × Option WriteFault :=
  match sink.write v.text with
  | (s, false) => (s, some (.serialise .full))
  | (s, true) =>
    match s.write "\n" with
    | (s, true) => (s, none)
    | (s, false) => (s, some (.write .full))

/-- Writes a record. -/
def write (w : RecordWriter) (r : Record) : RecordWriter × Option WriteFault :=
  match w.format with
  | .json =>
    match writeJson w.sink r.json with
    | (s, none) => ({ w with sink := s, written := w.written + 1 }, none)
    | (s, some f) => ({ w with sink := s }, some f)
  | .human =>
    match writeLines w.sink (r.human (w.written + 1)) with
    | (s, true) => ({ w with sink := s, written := w.written + 1 }, none)
    | (s, false) => ({ w with sink := s }, some (.write .full))

/-- Writes records until one does not fit. -/
def writeAll (w : RecordWriter) : List Record → RecordWriter × Option WriteFault
  | [] => (w, none)
  | r :: rest =>
    match w.write r with
    | (w, none) => writeAll w rest
    | (w, some f) => (w, some f)

/-- Flushes the sink. -/
def finish (w : RecordWriter) : Option WriteFault :=
  if w.sink.flushFails then some (.write .flushRefused) else none

end RecordWriter

end TreeExplorer
