/-
Several walks over one tree, pulled in any order. A walk may be copied at any
point; the copies go on from there independently.
-/
import TreeExplorer.Walk.Basic

namespace TreeExplorer.Walk

universe u

/-- One order to a set of walks, which are numbered as they appear. -/
inductive Order (ν : Type u) where
  | start (root : ν) (mode : Mode) (namedOnly : Bool)
  | next (walk : Nat)
  | nth (walk count : Nat)
  | take (walk count : Nat)
  | hint (walk : Nat)
  | settings (walk : Nat)
  | copy (walk : Nat)
  deriving Repr

/-- The answer to an order. -/
inductive Reply (ν : Type u) where
  /-- A walk has appeared under this number. -/
  | walk (number : Nat)
  | node (node : Option ν)
  | nodes (nodes : List ν)
  | hint (lower : Nat) (upper : Option Nat)
  | settings (mode : Mode) (namedOnly : Bool)
  /-- No walk has the number. -/
  | unknown
  deriving DecidableEq, Repr

/-- The walks under way and the number of slots read for them. -/
structure Schedule (ν : Type u) where
  walks : List (Walk ν) := []
  slotsRead : Nat := 0

namespace Schedule

variable {ν : Type u}

/-- What an order leads to. -/
structure Result (ν : Type u) where
  reply : Reply ν
  accesses : List (Access ν)
  schedule : Schedule ν

/-- Puts a walk in the place of walk `k` and counts the slots read. -/
def update (s : Schedule ν) (k : Nat) (w : Walk ν) (accesses : List (Access ν)) : Schedule ν :=
  { walks := s.walks.set k w, slotsRead := s.slotsRead + (accesses.filter Access.isSlot).length }

/-- Adds a walk. -/
def add (s : Schedule ν) (w : Walk ν) : Result ν :=
  ⟨.walk s.walks.length, [], { s with walks := s.walks ++ [w] }⟩

/-- Carries out an order for the walk it names. -/
def onWalk (s : Schedule ν) (k : Nat) (f : Walk ν → Result ν) : Result ν :=
  match s.walks[k]? with
  | some w => f w
  | none => ⟨.unknown, [], s⟩

/-- Carries out an order. -/
def step (view : NodeView ν) (s : Schedule ν) : Order ν → Result ν
  | .start root mode namedOnly => s.add (Walk.start root mode namedOnly)
  | .next k => s.onWalk k fun w =>
    let p := w.next view
    ⟨.node p.node, p.accesses, s.update k p.walk p.accesses⟩
  | .nth k n => s.onWalk k fun w =>
    let p := w.nth view n
    ⟨.node p.node, p.accesses, s.update k p.walk p.accesses⟩
  | .take k n => s.onWalk k fun w =>
    let t := w.take view n
    ⟨.nodes t.nodes, t.accesses, s.update k t.walk t.accesses⟩
  | .hint k => s.onWalk k fun w => ⟨.hint w.sizeHint.1 w.sizeHint.2, [], s⟩
  | .settings k => s.onWalk k fun w => ⟨.settings w.mode w.namedOnly, [], s⟩
  | .copy k => s.onWalk k fun w => s.add w

end Schedule

end TreeExplorer.Walk
