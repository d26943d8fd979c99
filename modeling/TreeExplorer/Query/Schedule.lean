/-
A cursor that passes from stream to stream. While a stream holds the cursor,
matches come out bound to names; once it is released the cursor answers
directly, until a new stream takes it over.
-/
import TreeExplorer.Query.Stream

namespace TreeExplorer.Query

universe u

/-- One order to a cursor or the stream that holds it. -/
inductive Order where
  | next
  | names
  | release
  | pull
  | bind
  deriving DecidableEq, Repr

/-- The answer to an order. -/
inductive Reply (ν : Type u) where
  | pulled (pulled : Pulled ν)
  | names (names : List String)
  /-- The cursor is free and has this many answers left. -/
  | released (remaining : Nat)
  | raw (answer : Answer ν)
  | bound
  /-- The order does not fit: there is no stream, or there is one already. -/
  | refused
  deriving DecidableEq, Repr

/-- Who holds the cursor. -/
inductive Schedule (ν : Type u) where
  | streaming (stream : Stream ν)
  | free (cursor : Cursor ν)
  deriving Repr

namespace Schedule

variable {ν : Type u}

/-- The cursor, whoever holds it. -/
def cursor : Schedule ν → Cursor ν
  | streaming s => s.cursor
  | free c => c

/-- Carries out an order. -/
def step (table : CaptureTable) : Schedule ν → Order → Reply ν × Schedule ν
  | streaming s, .next => (.pulled s.next.1, streaming s.next.2)
  | streaming s, .names => (.names s.names, streaming s)
  | streaming s, .release => (.released s.cursor.answers.length, free s.cursor)
  | free c, .pull => (.raw c.next.1, free c.next.2)
  | free c, .bind => (.bound, streaming (Stream.start table c))
  | s, _ => (.refused, s)

end Schedule

end TreeExplorer.Query
