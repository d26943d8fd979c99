/-
A walk over a tree that reads no more of it than it has to. The node given out
last is looked into only when the next one is asked for, so a walk that is
stopped has never touched the children of its last node.
-/
import TreeExplorer.Walk.Mode
import TreeExplorer.Walk.View

namespace TreeExplorer

universe u

/-- A walk under way. -/
structure Walk (ν : Type u) where
  mode : Mode
  namedOnly : Bool
  /-- The nodes known and not given out, in the order in which they will be. -/
  frontier : List ν
  /-- The node given out last, its children not looked at yet. -/
  pending : Option ν
  deriving Repr

namespace Walk

variable {ν : Type u}

/-- The walk that starts at a node. -/
def start (root : ν) (mode : Mode) (namedOnly : Bool) : Walk ν :=
  { mode, namedOnly, frontier := [root], pending := none }

/-- Reads the children of a node, which come out from left to right. The slots are
read from the last one to the first when depth comes first. -/
def expand (view : NodeView ν) (mode : Mode) (namedOnly : Bool) (n : ν) : Reading ν (List ν) :=
  (view.readCount namedOnly n).bind fun count =>
    match mode with
    | .depthFirst => (view.readSlots namedOnly n (List.range count).reverse).map List.reverse
    | .breadthFirst => view.readSlots namedOnly n (List.range count)

/-- Children join the frontier before the other nodes when depth comes first,
and after them otherwise. -/
def enqueue (mode : Mode) (children frontier : List ν) : List ν :=
  match mode with
  | .depthFirst => children ++ frontier
  | .breadthFirst => frontier ++ children

/-- The frontier once the pending node has been looked into. -/
def ready (view : NodeView ν) (w : Walk ν) : Reading ν (List ν) :=
  match w.pending with
  | none => .pure w.frontier
  | some n => (expand view w.mode w.namedOnly n).map (enqueue w.mode · w.frontier)

/-- The outcome of one pull. -/
structure Pull (ν : Type u) where
  node : Option ν
  walk : Walk ν
  accesses : List (Access ν)

/-- Gives out the next node, if there is one. -/
def next (view : NodeView ν) (w : Walk ν) : Pull ν :=
  let frontier := w.ready view
  match frontier.value with
  | [] => ⟨none, { w with frontier := [], pending := none }, frontier.accesses⟩
  | n :: rest => ⟨some n, { w with frontier := rest, pending := some n }, frontier.accesses⟩

/-- The outcome of several pulls. -/
structure Taken (ν : Type u) where
  nodes : List ν
  /-- Whether a pull found the walk at its end. -/
  ended : Bool
  walk : Walk ν
  accesses : List (Access ν)

/-- Gives out up to `k` nodes. It pulls no more than `k` times and stops at the
first pull that finds nothing. -/
def take (view : NodeView ν) : Nat → Walk ν → Taken ν
  | 0, w => ⟨[], false, w, []⟩
  | k + 1, w =>
    let p := w.next view
    match p.node with
    | none => ⟨[], true, p.walk, p.accesses⟩
    | some n =>
      let t := take view k p.walk
      ⟨n :: t.nodes, t.ended, t.walk, p.accesses ++ t.accesses⟩

/-- Skips `k` nodes and gives out the one after them; nothing is pulled after a
pull that finds nothing. -/
def nth (view : NodeView ν) : Nat → Walk ν → Pull ν
  | 0, w => w.next view
  | k + 1, w =>
    let p := w.next view
    match p.node with
    | none => p
    | some _ =>
      let q := nth view k p.walk
      ⟨q.node, q.walk, p.accesses ++ q.accesses⟩

/-- Bounds on the number of nodes to come: at least those on the frontier, and
none at all once a pull has found nothing. -/
def sizeHint (w : Walk ν) : Nat × Option Nat :=
  match w.pending, w.frontier with
  | none, [] => (0, some 0)
  | _, frontier => (frontier.length, none)

end Walk

end TreeExplorer
