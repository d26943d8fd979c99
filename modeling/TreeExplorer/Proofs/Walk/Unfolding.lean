/-
The tree that a walk sees from a root. Nodes may be shared and may lead back to
themselves, so the places of that tree are not the nodes: a place is a node with
the slots that lead to it. `NodeView.unfolding` makes places nodes of a view of
their own. A walk over it does what the walk over the nodes does, place by place
(`map_node_visit`), and gives out only places of the tree (`occurs_of_mem_visit`),
none of them twice (`nodup_visit`).
-/
import Mathlib.Data.Set.Finite.Lattice
import TreeExplorer.Proofs.Walk.Run

namespace TreeExplorer

universe u

variable {ν : Type u}

/-- A place in the tree below some root: the slots to go through from the root,
and the node found there. -/
structure Occurrence (ν : Type u) where
  path : List Nat
  node : ν
  deriving DecidableEq, Repr

namespace Occurrence

/-- The place of the root itself. -/
def top (root : ν) : Occurrence ν :=
  ⟨[], root⟩

/-- The place of `n` in slot `i` of a place. -/
def below (o : Occurrence ν) (i : Nat) (n : ν) : Occurrence ν :=
  ⟨o.path ++ [i], n⟩

/-- How far below the root a place is. -/
def depth (o : Occurrence ν) : Nat :=
  o.path.length

/-- Neither place is below the other, nor are they one place. -/
def Apart (o o' : Occurrence ν) : Prop :=
  ¬o.path <+: o'.path ∧ ¬o'.path <+: o.path

@[simp] theorem node_top (root : ν) : (top root).node = root := rfl

@[simp] theorem depth_top (root : ν) : (top root).depth = 0 := rfl

@[simp] theorem node_below (o : Occurrence ν) (i : Nat) (n : ν) : (o.below i n).node = n := rfl

@[simp] theorem depth_below (o : Occurrence ν) (i : Nat) (n : ν) :
    (o.below i n).depth = o.depth + 1 := by
  simp [depth, below]

theorem Apart.symm {o o' : Occurrence ν} (h : o.Apart o') : o'.Apart o :=
  ⟨h.2, h.1⟩

theorem apart_below_below (o : Occurrence ν) {i j : Nat} (h : i ≠ j) (n n' : ν) :
    (o.below i n).Apart (o.below j n') := by
  simp only [Apart, below, List.prefix_append_right_inj, List.cons_prefix_cons, List.nil_prefix,
    and_true]
  exact ⟨h, h.symm⟩

theorem Apart.below {o o' : Occurrence ν} (h : o.Apart o') (i : Nat) (n : ν) :
    (o.below i n).Apart o' := by
  obtain ⟨h₁, h₂⟩ := h
  constructor
  · intro hp
    exact h₁ ((List.prefix_append _ _).trans hp)
  · intro hp
    rcases List.prefix_concat_iff.1 hp with he | hp
    · exact h₁ (he ▸ List.prefix_append _ _)
    · exact h₂ hp

end Occurrence

namespace NodeView

/-- The view whose nodes are places: a child is one slot further. -/
def unfolding (view : NodeView ν) : NodeView (Occurrence ν) where
  childCount o := view.childCount o.node
  child o i := (view.child o.node i).map (o.below i)
  namedChildCount o := view.namedChildCount o.node
  namedChild o i := (view.namedChild o.node i).map (o.below i)

/-- The places of the tree that starts at a root: the root, and whatever is in a
slot of a place, as far as the count of slots goes. -/
inductive Occurs (view : NodeView ν) (namedOnly : Bool) (root : ν) : Occurrence ν → Prop
  | top : Occurs view namedOnly root (.top root)
  | slot {o : Occurrence ν} {i : Nat} {n : ν} : Occurs view namedOnly root o →
      i < view.count namedOnly o.node → view.slot namedOnly o.node i = some n →
      Occurs view namedOnly root (o.below i n)

/-- The tree that starts at a root has finitely many places. -/
def FiniteBelow (view : NodeView ν) (namedOnly : Bool) (root : ν) : Prop :=
  {o | view.Occurs namedOnly root o}.Finite

variable {view : NodeView ν} {namedOnly : Bool}

@[simp] theorem count_unfolding (o : Occurrence ν) :
    view.unfolding.count namedOnly o = view.count namedOnly o.node := rfl

@[simp] theorem slot_unfolding (o : Occurrence ν) (i : Nat) :
    view.unfolding.slot namedOnly o i = (view.slot namedOnly o.node i).map (o.below i) := by
  cases namedOnly <;> rfl

theorem mem_children_unfolding {o c : Occurrence ν} :
    c ∈ view.unfolding.children namedOnly o ↔
      ∃ i n, i < view.count namedOnly o.node ∧ view.slot namedOnly o.node i = some n ∧
        c = o.below i n := by
  simp only [children, List.mem_filterMap, List.mem_range, count_unfolding, slot_unfolding,
    Option.map_eq_some_iff]
  constructor
  · rintro ⟨i, hi, n, hn, rfl⟩
    exact ⟨i, n, hi, hn, rfl⟩
  · rintro ⟨i, n, hi, hn, rfl⟩
    exact ⟨i, hi, n, hn, rfl⟩

theorem map_node_children (o : Occurrence ν) :
    (view.unfolding.children namedOnly o).map (·.node) = view.children namedOnly o.node := by
  simp only [children, count_unfolding, List.map_filterMap]
  congr 1
  funext i
  rw [slot_unfolding, Option.map_map]
  exact congrFun Option.map_id _

theorem apart_children (o : Occurrence ν) :
    (view.unfolding.children namedOnly o).Pairwise Occurrence.Apart := by
  rw [children, List.pairwise_filterMap]
  refine List.pairwise_lt_range.imp fun {i j} hij c hc c' hc' => ?_
  simp only [slot_unfolding, Option.map_eq_some_iff] at hc hc'
  obtain ⟨n, -, rfl⟩ := hc
  obtain ⟨n', -, rfl⟩ := hc'
  exact o.apart_below_below (Nat.ne_of_lt hij) n n'

theorem depth_of_mem_children {o c : Occurrence ν} (h : c ∈ view.unfolding.children namedOnly o) :
    c.depth = o.depth + 1 := by
  obtain ⟨i, n, -, -, rfl⟩ := mem_children_unfolding.1 h
  exact o.depth_below i n

theorem Occurs.child {root : ν} {o c : Occurrence ν} (ho : view.Occurs namedOnly root o)
    (hc : c ∈ view.unfolding.children namedOnly o) : view.Occurs namedOnly root c := by
  obtain ⟨i, n, hi, hn, rfl⟩ := mem_children_unfolding.1 hc
  exact ho.slot hi hn

theorem FiniteBelow.depth_le {root : ν} (h : view.FiniteBelow namedOnly root) :
    ∃ d, ∀ o, view.Occurs namedOnly root o → o.depth ≤ d := by
  obtain ⟨d, hd⟩ := (h.image Occurrence.depth).bddAbove
  exact ⟨d, fun o ho => hd ⟨o, ho, rfl⟩⟩

end NodeView

namespace Walk

variable {view : NodeView ν} {mode : Mode} {namedOnly : Bool}

/-- The places of the nodes that the first `k` pulls of a walk give out. -/
def trail (view : NodeView ν) (root : ν) (mode : Mode) (namedOnly : Bool) (k : Nat) :
    List (Occurrence ν) :=
  ((start (Occurrence.top root) mode namedOnly).run view.unfolding k).nodes

theorem map_enqueue {μ : Type u} (f : ν → μ) (mode : Mode) (children rest : List ν) :
    (enqueue mode children rest).map f = enqueue mode (children.map f) (rest.map f) := by
  cases mode <;> exact List.map_append

/-- A walk over places goes where the walk over their nodes goes. -/
theorem map_node_visit (k : Nat) (ready : List (Occurrence ν)) :
    (visit view.unfolding mode namedOnly k ready).map (·.node) =
      visit view mode namedOnly k (ready.map (·.node)) := by
  induction k generalizing ready with
  | zero => rfl
  | succ k ih =>
    cases ready with
    | nil => rfl
    | cons o rest =>
      simp only [visit, List.map_cons]
      rw [ih, map_enqueue, NodeView.map_node_children]

theorem map_node_trail (root : ν) (k : Nat) :
    (trail view root mode namedOnly k).map (·.node) =
      ((start root mode namedOnly).run view k).nodes := by
  rw [trail, nodes_run_start, nodes_run_start, map_node_visit]
  rfl

theorem Drains.map_node {o : Occurrence ν} {places : List (Occurrence ν)}
    (h : (start o mode namedOnly).Drains view.unfolding places) :
    (start o.node mode namedOnly).Drains view (places.map (·.node)) := by
  refine drains_iff.2 fun m => ?_
  have hplaces := drains_iff.1 h m
  rw [nodes_run_start] at hplaces
  rw [nodes_run_start, ← List.map_take, ← hplaces, map_node_visit]
  rfl

theorem mem_enqueue {children rest : List ν} {n : ν} :
    n ∈ enqueue mode children rest ↔ n ∈ children ∨ n ∈ rest := by
  rw [(enqueue_perm mode children rest).mem_iff, List.mem_append]

theorem occurs_of_mem_visit {root : ν} (k : Nat) (ready : List (Occurrence ν))
    (h : ∀ o ∈ ready, view.Occurs namedOnly root o) :
    ∀ o ∈ visit view.unfolding mode namedOnly k ready, view.Occurs namedOnly root o := by
  induction k generalizing ready with
  | zero => simp [visit]
  | succ k ih =>
    cases ready with
    | nil => simp
    | cons r rest =>
      have hr := h r List.mem_cons_self
      intro o ho
      simp only [visit, List.mem_cons] at ho
      rcases ho with rfl | ho
      · exact hr
      · refine ih _ (fun c hc => ?_) o ho
        rcases mem_enqueue.1 hc with hc | hc
        · exact hr.child hc
        · exact h c (List.mem_cons_of_mem _ hc)

/-- Whatever a walk gives out is at or below a place that was ready. -/
theorem prefix_of_mem_visit (k : Nat) (ready : List (Occurrence ν)) :
    ∀ o ∈ visit view.unfolding mode namedOnly k ready, ∃ r ∈ ready, r.path <+: o.path := by
  induction k generalizing ready with
  | zero => simp [visit]
  | succ k ih =>
    cases ready with
    | nil => simp
    | cons r rest =>
      intro o ho
      simp only [visit, List.mem_cons] at ho
      rcases ho with rfl | ho
      · exact ⟨o, List.mem_cons_self, List.prefix_refl _⟩
      · obtain ⟨c, hc, hp⟩ := ih _ o ho
        rcases mem_enqueue.1 hc with hc | hc
        · obtain ⟨i, n, -, -, rfl⟩ := NodeView.mem_children_unfolding.1 hc
          exact ⟨r, List.mem_cons_self, (List.prefix_append _ _).trans hp⟩
        · exact ⟨c, List.mem_cons_of_mem _ hc, hp⟩

/-- Places that are apart stay so when one of them is replaced by its children. -/
theorem apart_enqueue {r : Occurrence ν} {rest : List (Occurrence ν)}
    (h : (r :: rest).Pairwise Occurrence.Apart) :
    (enqueue mode (view.unfolding.children namedOnly r) rest).Pairwise Occurrence.Apart := by
  obtain ⟨hr, hrest⟩ := List.pairwise_cons.1 h
  rw [(enqueue_perm mode _ rest).pairwise_iff Occurrence.Apart.symm, List.pairwise_append]
  refine ⟨NodeView.apart_children r, hrest, fun c hc o ho => ?_⟩
  obtain ⟨i, n, -, -, rfl⟩ := NodeView.mem_children_unfolding.1 hc
  exact (hr o ho).below i n

theorem nodup_visit (k : Nat) (ready : List (Occurrence ν))
    (h : ready.Pairwise Occurrence.Apart) :
    (visit view.unfolding mode namedOnly k ready).Nodup := by
  induction k generalizing ready with
  | zero => simp [visit]
  | succ k ih =>
    cases ready with
    | nil => simp
    | cons r rest =>
      simp only [visit, List.nodup_cons]
      refine ⟨fun hr => ?_, ih _ (apart_enqueue h)⟩
      -- `r` would have to be at or below one of its children, or below a place apart from it.
      obtain ⟨c, hc, hp⟩ := prefix_of_mem_visit k _ r hr
      rcases mem_enqueue.1 hc with hc | hc
      · obtain ⟨i, n, -, -, rfl⟩ := NodeView.mem_children_unfolding.1 hc
        have hlen := hp.length_le
        simp only [Occurrence.below, List.length_append, List.length_singleton] at hlen
        omega
      · exact ((List.pairwise_cons.1 h).1 c hc).2 hp

theorem nodup_trail (root : ν) (k : Nat) : (trail view root mode namedOnly k).Nodup := by
  rw [trail, nodes_run_start]
  exact nodup_visit k _ (List.pairwise_singleton _ _)

theorem Drains.trail_eq {root : ν} {places : List (Occurrence ν)}
    (h : (start (.top root) mode namedOnly).Drains view.unfolding places) :
    trail view root mode namedOnly places.length = places := by
  have htrail : trail view root mode namedOnly places.length = places.take places.length :=
    drains_iff.1 h _
  rwa [List.take_length] at htrail

theorem Drains.nodup {root : ν} {places : List (Occurrence ν)}
    (h : (start (.top root) mode namedOnly).Drains view.unfolding places) : places.Nodup := by
  rw [← h.trail_eq]
  exact nodup_trail root _

theorem occurs_of_mem_trail {root : ν} {k : Nat} {o : Occurrence ν}
    (h : o ∈ trail view root mode namedOnly k) : view.Occurs namedOnly root o := by
  rw [trail, nodes_run_start] at h
  refine occurs_of_mem_visit k _ (fun r hr => ?_) o h
  rw [List.mem_singleton.1 hr]
  exact .top

theorem Drains.occurs {root : ν} {places : List (Occurrence ν)} {o : Occurrence ν}
    (h : (start (.top root) mode namedOnly).Drains view.unfolding places) (ho : o ∈ places) :
    view.Occurs namedOnly root o := by
  rw [← h.trail_eq] at ho
  exact occurs_of_mem_trail ho

end Walk

end TreeExplorer
