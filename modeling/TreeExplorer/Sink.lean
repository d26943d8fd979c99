/-
Where output goes. A sink may have room for so many bytes only: it takes what
fits, even part of a text, and then refuses. It may also refuse to be flushed.
-/

namespace TreeExplorer

/-- A sink and the bytes it has taken. -/
structure Sink where
  /-- How many bytes still fit; none if there is no limit. -/
  room : Option Nat := none
  flushFails : Bool := false
  bytes : ByteArray := .empty

/-- Why output failed. -/
inductive SinkFault where
  | full
  | flushRefused
  deriving DecidableEq, Repr

/-- The wording of a failure. -/
def SinkFault.message : SinkFault → String
  | .full => "sink full"
  | .flushRefused => "flush refused"

namespace Sink

/-- Writes a text: the sink after it, and whether all of it went in. -/
def write (s : Sink) (text : String) : Sink × Bool :=
  match s.room with
  | none => ({ s with bytes := s.bytes ++ text.toUTF8 }, true)
  | some room =>
    let size := text.utf8ByteSize
    if size ≤ room then
      ({ s with room := some (room - size), bytes := s.bytes ++ text.toUTF8 }, true)
    else
      ({ s with room := some 0, bytes := s.bytes ++ text.toUTF8.extract 0 room }, false)

end Sink

end TreeExplorer
