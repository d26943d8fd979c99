/-
How a walk sees nodes: counts of children and slots that hold them. Nothing is
assumed of the two. A slot below the count may be empty, a node may be in many
slots, and slots may lead back to where they came from. What is read of a node comes
with the accesses that were made (`Reading`).
-/

namespace TreeExplorer

universe u v w

/-- The accessors of a kind of node: all children, and the named ones apart. -/
structure NodeView (ν : Type u) where
  childCount : ν → Nat
  child : ν → Nat → Option ν
  namedChildCount : ν → Nat
  namedChild : ν → Nat → Option ν

namespace NodeView

variable {ν : Type u}

/-- The number of slots of the asked family. -/
def count (view : NodeView ν) (namedOnly : Bool) (n : ν) : Nat :=
  if namedOnly then view.namedChildCount n else view.childCount n

/-- The content of a slot of the asked family. -/
def slot (view : NodeView ν) (namedOnly : Bool) (n : ν) (i : Nat) : Option ν :=
  if namedOnly then view.namedChild n i else view.child n i

end NodeView

/-- A use of an accessor. -/
inductive Access (ν : Type u) where
  /-- The number of slots was asked for. -/
  | count (named : Bool) (node : ν)
  /-- The content of one slot was asked for. -/
  | slot (named : Bool) (node : ν) (index : Nat)
  deriving DecidableEq, Repr

/-- Whether an access reads a slot. -/
def Access.isSlot {ν : Type u} : Access ν → Bool
  | .count .. => false
  | .slot .. => true

/-! ## Readings -/

/-- A value, and the accesses that were made to get it. -/
@[ext] structure Reading (ν : Type u) (α : Type v) where
  value : α
  accesses : List (Access ν)

namespace Reading

variable {ν : Type u} {α : Type v} {β : Type w}

/-- A value for which nothing is read. -/
def pure (a : α) : Reading ν α :=
  ⟨a, []⟩

/-- Goes on with what has been read. -/
def bind (r : Reading ν α) (f : α → Reading ν β) : Reading ν β :=
  let next := f r.value
  ⟨next.value, r.accesses ++ next.accesses⟩

/-- Changes what has been read, and reads nothing more. -/
def map (f : α → β) (r : Reading ν α) : Reading ν β :=
  ⟨f r.value, r.accesses⟩

@[simp] theorem value_pure (a : α) : (pure a : Reading ν α).value = a := rfl

@[simp] theorem accesses_pure (a : α) : (pure a : Reading ν α).accesses = [] := rfl

@[simp] theorem value_bind (r : Reading ν α) (f : α → Reading ν β) :
    (r.bind f).value = (f r.value).value := rfl

@[simp] theorem accesses_bind (r : Reading ν α) (f : α → Reading ν β) :
    (r.bind f).accesses = r.accesses ++ (f r.value).accesses := rfl

@[simp] theorem value_map (f : α → β) (r : Reading ν α) : (r.map f).value = f r.value := rfl

@[simp] theorem accesses_map (f : α → β) (r : Reading ν α) : (r.map f).accesses = r.accesses := rfl

end Reading

namespace NodeView

variable {ν : Type u}

/-- Asks a node for the number of its slots. -/
def readCount (view : NodeView ν) (namedOnly : Bool) (n : ν) : Reading ν Nat :=
  ⟨view.count namedOnly n, [.count namedOnly n]⟩

/-- Asks a node for the content of a slot. -/
def readSlot (view : NodeView ν) (namedOnly : Bool) (n : ν) (i : Nat) : Reading ν (Option ν) :=
  ⟨view.slot namedOnly n i, [.slot namedOnly n i]⟩

/-- Asks a node for the contents of slots, one after the other, and leaves out those
that are empty. -/
def readSlots (view : NodeView ν) (namedOnly : Bool) (n : ν) : List Nat → Reading ν (List ν)
  | [] => .pure []
  | i :: rest =>
    (view.readSlot namedOnly n i).bind fun child =>
      (readSlots view namedOnly n rest).map (child.toList ++ ·)

end NodeView

end TreeExplorer
