/-
Matches one at a time. A cursor answers each advance with a match, with the end,
or with a failure; a stream on top of it binds names and stops for good at the
first answer that is no match, or at a match that cannot be bound.
-/
import TreeExplorer.Query.Match

namespace TreeExplorer.Query

universe u

/-- What a cursor answers when it is advanced. -/
inductive Answer (ν : Type u) where
  | found (raw : RawMatch ν)
  | exhausted
  | failed (error : Error)
  deriving DecidableEq, Repr

/-- A cursor: the answers it will give, and how often it has been advanced. Past
its answers it is exhausted. -/
structure Cursor (ν : Type u) where
  answers : List (Answer ν)
  advances : Nat := 0
  /-- The number of advances from which on the engine reports that it dropped
  matches because of the match limit. -/
  exceededFrom : Option Nat := none
  deriving Repr

namespace Cursor

variable {ν : Type u}

/-- Advances the cursor by one answer. -/
def next (c : Cursor ν) : Answer ν × Cursor ν :=
  match c.answers with
  | [] => (.exhausted, { c with advances := c.advances + 1 })
  | a :: rest => (a, { c with answers := rest, advances := c.advances + 1 })

/-- Whether the engine has reported dropped matches. -/
def exceeded (c : Cursor ν) : Bool :=
  match c.exceededFrom with
  | some k => decide (k ≤ c.advances)
  | none => false

end Cursor

/-- A stream of matches: the names of the captures, the cursor, and whether the
stream is over. -/
structure Stream (ν : Type u) where
  names : List String
  cursor : Cursor ν
  finished : Bool
  deriving Repr

/-- What a stream hands out. -/
inductive Pulled (ν : Type u) where
  | item (found : Match ν)
  | failed (error : Error)
  | ended
  deriving DecidableEq, Repr

/-- Why the pulling of several matches stopped. -/
inductive Ending where
  /-- The asked number was reached. -/
  | reached
  | ended
  | failed (error : Error)
  deriving DecidableEq, Repr

namespace Stream

variable {ν : Type u}

/-- The stream of a cursor, under the names that the table has now. -/
def start (table : CaptureTable) (cursor : Cursor ν) : Stream ν :=
  ⟨table.snapshot, cursor, false⟩

/-- Hands out the next match. A stream that is over leaves its cursor alone. -/
def next (s : Stream ν) : Pulled ν × Stream ν :=
  if s.finished then (.ended, s)
  else
    match s.cursor.next with
    | (.exhausted, c) => (.ended, { s with cursor := c, finished := true })
    | (.failed e, c) => (.failed e, { s with cursor := c, finished := true })
    | (.found raw, c) =>
      match raw.bind s.names with
      | .ok m => (.item m, { s with cursor := c })
      | .error e => (.failed e, { s with cursor := c, finished := true })

/-- The outcome of several pulls. -/
structure Taken (ν : Type u) where
  found : List (Match ν)
  ending : Ending
  stream : Stream ν

/-- Hands out up to `k` matches. It pulls no more than `k` times and stops where
the stream does. -/
def take : Nat → Stream ν → Taken ν
  | 0, s => ⟨[], .reached, s⟩
  | k + 1, s =>
    match s.next with
    | (.item m, s') =>
      let t := take k s'
      ⟨m :: t.found, t.ending, t.stream⟩
    | (.failed e, s') => ⟨[], .failed e, s'⟩
    | (.ended, s') => ⟨[], .ended, s'⟩

/-- Hands out matches up to the limit, or all there are. -/
def takeUpTo (limit : Option Nat) (s : Stream ν) : Taken ν :=
  s.take (limit.getD (s.cursor.answers.length + 1))

end Stream

end TreeExplorer.Query
