/-
Matches of a query and the names of their captures. The engine reports captures
by index; a query's table gives each index a name, and a match as it is handed
out binds names to nodes. Of several captures under one name the last counts.
-/
import TreeExplorer.Error

namespace TreeExplorer.Query

universe u

/-- The captures that a query defines. A slot below the count may lack a name. -/
structure CaptureTable where
  count : Nat
  name : Nat → Option String

namespace CaptureTable

/-- The table whose slots have the given names. -/
def ofNames (names : List String) : CaptureTable :=
  ⟨names.length, fun i => names[i]?⟩

/-- The names by index; a slot without a name has the empty one. -/
def snapshot (t : CaptureTable) : List String :=
  (List.range t.count).map fun i => (t.name i).getD ""

end CaptureTable

/-- A match as the engine reports it: captures by index, in the engine's order. -/
structure RawMatch (ν : Type u) where
  pattern : Nat
  captures : List (Nat × ν)
  deriving DecidableEq, Repr

/-- A match with its captures bound to names, each name once. -/
structure Match (ν : Type u) where
  pattern : Nat
  captures : List (String × ν)
  deriving DecidableEq, Repr

/-- Binds a name, in place of what it was bound to before. -/
def rebind {ν : Type u} (name : String) (node : ν) : List (String × ν) → List (String × ν)
  | [] => [(name, node)]
  | (k, n) :: rest => if k = name then (k, node) :: rest else (k, n) :: rebind name node rest

namespace Match

variable {ν : Type u}

/-- The node bound to a name. -/
def capture (m : Match ν) (name : String) : Option ν :=
  m.captures.lookup name

/-- The number of names bound. -/
def size (m : Match ν) : Nat :=
  m.captures.length

/-- Whether no name is bound. -/
def isEmpty (m : Match ν) : Bool :=
  m.captures.isEmpty

end Match

namespace RawMatch

variable {ν : Type u}

/-- Binds captures one after another to what is bound already; the first index
without a name ends the attempt. -/
def bindInto (names : List String) :
    List (String × ν) → List (Nat × ν) → Except Nat (List (String × ν))
  | bound, [] => .ok bound
  | bound, (i, n) :: rest =>
    match names[i]? with
    | some name => bindInto names (rebind name n bound) rest
    | none => .error i

/-- The match with its captures bound to names. -/
def bind (names : List String) (raw : RawMatch ν) : Except Error (Match ν) :=
  match bindInto names [] raw.captures with
  | .ok captures => .ok ⟨raw.pattern, captures⟩
  | .error i => .error (.unknownCapture i names.length)

end RawMatch

end TreeExplorer.Query
