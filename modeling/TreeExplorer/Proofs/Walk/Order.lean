/-
The two orders in which the nodes below a node can be listed, said by recursion
and without a walk: pre-order (`NodeView.preorder`) and level by level
(`NodeView.level`, `NodeView.levels`). Views may be cyclic, so each takes the
number of steps to go down.

Over the places of a tree a level is exactly the places of one depth
(`mem_level_top`). Hence a tree is finite if and only if one of its levels is
empty (`finiteBelow_iff`), and from there on going further down adds nothing to
either order (`preorder_of_le`, `levels_of_le`). No way down a finite tree comes
back to a node it has passed (`FiniteBelow.not_cycle`). A relation that respects the
shape of the tree holds all along the pre-order (`pairwise_preorder`).
-/
import Mathlib.Logic.Relation
import TreeExplorer.Proofs.Walk.Unfolding

namespace TreeExplorer.NodeView

universe u

variable {ν : Type u}

/-- A node and what is below it, down to `d` steps: the node, then for each of
its children from left to right the child and what is below that. -/
def preorder (view : NodeView ν) (namedOnly : Bool) : Nat → ν → List ν
  | 0, v => [v]
  | d + 1, v => v :: (view.children namedOnly v).flatMap (preorder view namedOnly d)

/-- The nodes `d` steps below a node: the children of those one step above, in
the order of their parents. -/
def level (view : NodeView ν) (namedOnly : Bool) : Nat → ν → List ν
  | 0, v => [v]
  | d + 1, v => (level view namedOnly d v).flatMap (view.children namedOnly)

/-- A list of nodes, then their children, and so on down to `d` steps. -/
def levels (view : NodeView ν) (namedOnly : Bool) : Nat → List ν → List ν
  | 0, vs => vs
  | d + 1, vs => vs ++ levels view namedOnly d (vs.flatMap (view.children namedOnly))

variable {view : NodeView ν} {namedOnly : Bool}

/-! ## Levels of a node -/

theorem level_add (d e : Nat) (v : ν) :
    view.level namedOnly (d + e) v = (view.level namedOnly d v).flatMap (view.level namedOnly e) := by
  induction e with
  | zero => simp [level]
  | succ e ih =>
    rw [← Nat.add_assoc, level, ih, List.flatMap_assoc]
    rfl

theorem level_succ_eq (d : Nat) (v : ν) :
    view.level namedOnly (d + 1) v = (view.children namedOnly v).flatMap (view.level namedOnly d) := by
  rw [Nat.add_comm, level_add]
  simp [level]

theorem level_eq_nil_of_le {d e : Nat} {v : ν} (h : view.level namedOnly d v = []) (hde : d ≤ e) :
    view.level namedOnly e v = [] := by
  induction hde with
  | refl => exact h
  | step _ ih => rw [level, ih, List.flatMap_nil]

@[simp] theorem levels_nil (d : Nat) : view.levels namedOnly d [] = [] := by
  induction d with
  | zero => rfl
  | succ d ih => rw [levels, List.flatMap_nil, List.nil_append, ih]

theorem levels_eq_flatMap (d : Nat) (vs : List ν) :
    view.levels namedOnly d vs =
      (List.range (d + 1)).flatMap fun j => vs.flatMap (view.level namedOnly j) := by
  induction d generalizing vs with
  | zero => simp [levels, level]
  | succ d ih =>
    have hlevel : ∀ j, (vs.flatMap (view.children namedOnly)).flatMap (view.level namedOnly j) =
        vs.flatMap (view.level namedOnly (j + 1)) := by
      intro j
      rw [List.flatMap_assoc]
      congr 1
      funext v
      exact (level_succ_eq j v).symm
    have hzero : vs.flatMap (view.level namedOnly 0) = vs := by simp [level]
    rw [levels, ih, List.range_succ_eq_map (n := d + 1), List.flatMap_cons, List.flatMap_map, hzero]
    simp only [hlevel]

theorem levels_singleton (d : Nat) (v : ν) :
    view.levels namedOnly d [v] = (List.range (d + 1)).flatMap fun j => view.level namedOnly j v := by
  rw [levels_eq_flatMap]
  simp

theorem levels_succ_singleton (d : Nat) (v : ν) :
    view.levels namedOnly (d + 1) [v] =
      view.levels namedOnly d [v] ++ view.level namedOnly (d + 1) v := by
  rw [levels_singleton, levels_singleton, List.range_succ (n := d + 1), List.flatMap_append,
    List.flatMap_singleton]

/-! ## Going further down than the tree does -/

theorem preorder_succ_of_level_nil {d : Nat} {v : ν} (h : view.level namedOnly (d + 1) v = []) :
    view.preorder namedOnly (d + 1) v = view.preorder namedOnly d v := by
  induction d generalizing v with
  | zero =>
    have hnil : view.children namedOnly v = [] := by simpa [level] using h
    simp [preorder, hnil]
  | succ d ih =>
    rw [level_succ_eq, List.flatMap_eq_nil_iff] at h
    rw [preorder, preorder]
    congr 1
    exact List.flatMap_congr fun c hc => ih (h c hc)

theorem preorder_of_le {d e : Nat} {v : ν} (h : view.level namedOnly (d + 1) v = []) (hde : d ≤ e) :
    view.preorder namedOnly e v = view.preorder namedOnly d v := by
  induction hde with
  | refl => rfl
  | @step e hde ih =>
    rw [preorder_succ_of_level_nil (level_eq_nil_of_le h (Nat.succ_le_succ hde)), ih]

theorem levels_of_le {d e : Nat} {v : ν} (h : view.level namedOnly (d + 1) v = []) (hde : d ≤ e) :
    view.levels namedOnly e [v] = view.levels namedOnly d [v] := by
  induction hde with
  | refl => rfl
  | @step e hde ih =>
    rw [levels_succ_singleton, ih, level_eq_nil_of_le h (Nat.succ_le_succ hde), List.append_nil]

/-! ## Places by depth -/

theorem map_node_level (d : Nat) (o : Occurrence ν) :
    (view.unfolding.level namedOnly d o).map (·.node) = view.level namedOnly d o.node := by
  induction d with
  | zero => rfl
  | succ d ih =>
    rw [level, level, ← ih, List.map_flatMap, List.flatMap_map]
    simp only [map_node_children]

theorem depth_of_mem_level {d : Nat} {o x : Occurrence ν}
    (h : x ∈ view.unfolding.level namedOnly d o) : x.depth = o.depth + d := by
  induction d generalizing x with
  | zero => rw [List.mem_singleton.1 h, Nat.add_zero]
  | succ d ih =>
    obtain ⟨p, hp, hx⟩ := List.mem_flatMap.1 h
    rw [depth_of_mem_children hx, ih hp, Nat.add_assoc]

theorem Occurs.of_mem_level {root : ν} {d : Nat} {o x : Occurrence ν}
    (ho : view.Occurs namedOnly root o) (h : x ∈ view.unfolding.level namedOnly d o) :
    view.Occurs namedOnly root x := by
  induction d generalizing x with
  | zero => exact List.mem_singleton.1 h ▸ ho
  | succ d ih =>
    obtain ⟨p, hp, hx⟩ := List.mem_flatMap.1 h
    exact (ih hp).child hx

theorem Occurs.mem_level {root : ν} {o : Occurrence ν} (h : view.Occurs namedOnly root o) :
    o ∈ view.unfolding.level namedOnly o.depth (.top root) := by
  induction h with
  | top => exact List.mem_singleton_self _
  | @slot o i n _ hi hn ih =>
    rw [Occurrence.depth_below]
    exact List.mem_flatMap.2 ⟨o, ih, mem_children_unfolding.2 ⟨i, n, hi, hn, rfl⟩⟩

/-- The level `d` of a tree is its places of depth `d`. -/
theorem mem_level_top {root : ν} {d : Nat} {o : Occurrence ν} :
    o ∈ view.unfolding.level namedOnly d (.top root) ↔
      view.Occurs namedOnly root o ∧ o.depth = d := by
  constructor
  · intro h
    refine ⟨Occurs.top.of_mem_level h, ?_⟩
    simpa using depth_of_mem_level h
  · rintro ⟨h, rfl⟩
    exact h.mem_level

theorem mem_levels_top {root : ν} {d : Nat} {o : Occurrence ν} :
    o ∈ view.unfolding.levels namedOnly d [.top root] ↔
      view.Occurs namedOnly root o ∧ o.depth ≤ d := by
  simp only [levels_singleton, List.mem_flatMap, List.mem_range, mem_level_top]
  constructor
  · rintro ⟨j, hj, ho, rfl⟩
    exact ⟨ho, Nat.le_of_lt_succ hj⟩
  · rintro ⟨ho, hd⟩
    exact ⟨o.depth, Nat.lt_succ_of_le hd, ho, rfl⟩

/-- Level by level, depth never decreases. -/
theorem pairwise_depth_levels (d : Nat) (root : ν) :
    (view.unfolding.levels namedOnly d [.top root]).Pairwise fun o o' => o.depth ≤ o'.depth := by
  rw [levels_singleton, List.pairwise_flatMap]
  constructor
  · intro j _
    refine List.pairwise_of_forall_mem_list fun o ho o' ho' => ?_
    rw [depth_of_mem_level ho, depth_of_mem_level ho']
  · refine List.pairwise_lt_range.imp fun {i j} hij o ho o' ho' => ?_
    rw [depth_of_mem_level ho, depth_of_mem_level ho']
    omega

/-! ## Finite trees -/

/-- Some number of steps leads out of a finite tree from any of its places. -/
theorem FiniteBelow.level_nil {root : ν} (h : view.FiniteBelow namedOnly root) :
    ∃ d, ∀ o, view.Occurs namedOnly root o → view.level namedOnly (d + 1) o.node = [] := by
  obtain ⟨d, hd⟩ := h.depth_le
  refine ⟨d, fun o ho => ?_⟩
  rw [← map_node_level, List.map_eq_nil_iff, List.eq_nil_iff_forall_not_mem]
  intro x hx
  have hle := hd x (ho.of_mem_level hx)
  rw [depth_of_mem_level hx] at hle
  omega

theorem Occurs.depth_lt {root : ν} {d : Nat} {o : Occurrence ν} (ho : view.Occurs namedOnly root o)
    (h : view.level namedOnly d root = []) : o.depth < d := by
  refine Nat.lt_of_not_le fun hle => ?_
  have hmem := List.mem_map_of_mem (f := fun x : Occurrence ν => x.node) ho.mem_level
  rw [map_node_level, Occurrence.node_top, level_eq_nil_of_le h hle] at hmem
  exact List.not_mem_nil hmem

theorem finiteBelow_iff {root : ν} :
    view.FiniteBelow namedOnly root ↔ ∃ d, view.level namedOnly d root = [] := by
  constructor
  · intro h
    obtain ⟨d, hd⟩ := h.level_nil
    exact ⟨d + 1, hd _ .top⟩
  · rintro ⟨d, hd⟩
    -- Nothing is as deep as the empty level, so every place is on a level above it.
    refine (List.finite_toSet (view.unfolding.levels namedOnly d [.top root])).subset fun o ho => ?_
    exact mem_levels_top.2 ⟨ho, Nat.le_of_lt (Occurs.depth_lt ho hd)⟩

/-! ## Ways down -/

open Relation (ReflTransGen TransGen)

/-- `c` is in a slot of `p`, of the asked family. -/
def Child (view : NodeView ν) (namedOnly : Bool) (p c : ν) : Prop :=
  c ∈ view.children namedOnly p

theorem exists_level_nil_of_child {d : Nat} {v c : ν} (h : view.level namedOnly d v = [])
    (hc : view.Child namedOnly v c) : ∃ e, e < d ∧ view.level namedOnly e c = [] := by
  cases d with
  | zero => simp [level] at h
  | succ d =>
    rw [level_succ_eq, List.flatMap_eq_nil_iff] at h
    exact ⟨d, Nat.lt_succ_self d, h c hc⟩

theorem exists_level_nil_of_below {d : Nat} {v a : ν} (h : view.level namedOnly d v = [])
    (ha : TransGen (view.Child namedOnly) v a) : ∃ e, e < d ∧ view.level namedOnly e a = [] := by
  induction ha with
  | single hc => exact exists_level_nil_of_child h hc
  | tail _ hc ih =>
    obtain ⟨e, hed, he⟩ := ih
    obtain ⟨f, hfe, hf⟩ := exists_level_nil_of_child he hc
    exact ⟨f, Nat.lt_trans hfe hed, hf⟩

/-- A finite tree has no cycle: going round, the first empty level would be
reached ever sooner. -/
theorem FiniteBelow.not_cycle {root v : ν} (h : view.FiniteBelow namedOnly root)
    (hv : ReflTransGen (view.Child namedOnly) root v) : ¬TransGen (view.Child namedOnly) v v := by
  intro hcycle
  obtain ⟨d, hd⟩ : ∃ d, view.level namedOnly d v = [] := by
    obtain ⟨d, hd⟩ := finiteBelow_iff.1 h
    rcases Relation.reflTransGen_iff_eq_or_transGen.1 hv with rfl | hv
    · exact ⟨d, hd⟩
    · obtain ⟨e, -, he⟩ := exists_level_nil_of_below hd hv
      exact ⟨e, he⟩
  induction d using Nat.strong_induction_on with
  | _ d ih =>
    obtain ⟨e, hed, he⟩ := exists_level_nil_of_below hd hcycle
    exact ih e hed he

theorem reaches_of_mem_preorder {d : Nat} {v x : ν} (h : x ∈ view.preorder namedOnly d v) :
    ReflTransGen (view.Child namedOnly) v x := by
  induction d generalizing v with
  | zero => rw [List.mem_singleton.1 h]
  | succ d ih =>
    rcases List.mem_cons.1 h with rfl | h
    · exact .refl
    · obtain ⟨c, hc, hx⟩ := List.mem_flatMap.1 h
      exact .head hc (ih hx)

/-- Where a pre-order goes down to the end, it lists whatever can be reached. -/
theorem mem_preorder_of_reaches {d : Nat} {v x : ν} (h : view.level namedOnly (d + 1) v = [])
    (hx : ReflTransGen (view.Child namedOnly) v x) : x ∈ view.preorder namedOnly d v := by
  induction hx using ReflTransGen.head_induction_on with
  | refl => cases d <;> exact List.mem_cons_self
  | @head v c hc _ ih =>
    obtain ⟨e, hed, he⟩ := exists_level_nil_of_child h hc
    rw [← preorder_succ_of_level_nil h]
    exact List.mem_cons_of_mem _ (List.mem_flatMap.2 ⟨c, hc, ih (level_eq_nil_of_le he (by omega))⟩)

/-- What holds from a node to all below it, and from all below a child to all below
a later one, holds along the pre-order. -/
theorem pairwise_preorder {R : ν → ν → Prop} {root : ν}
    (hbelow : ∀ {v x : ν}, ReflTransGen (view.Child namedOnly) root v →
      TransGen (view.Child namedOnly) v x → R v x)
    (hbeside : ∀ {v : ν}, ReflTransGen (view.Child namedOnly) root v →
      (view.children namedOnly v).Pairwise fun c c' => ∀ x y,
        ReflTransGen (view.Child namedOnly) c x → ReflTransGen (view.Child namedOnly) c' y → R x y)
    (d : Nat) : (view.preorder namedOnly d root).Pairwise R := by
  suffices hall : ∀ {v : ν}, ReflTransGen (view.Child namedOnly) root v →
      (view.preorder namedOnly d v).Pairwise R from hall .refl
  induction d with
  | zero => exact fun _ => List.pairwise_singleton R _
  | succ d ih =>
    intro v hv
    refine List.pairwise_cons.2 ⟨fun x hx => ?_, List.pairwise_flatMap.2 ⟨fun c hc => ?_, ?_⟩⟩
    · obtain ⟨c, hc, hx⟩ := List.mem_flatMap.1 hx
      exact hbelow hv (TransGen.head' hc (reaches_of_mem_preorder hx))
    · exact ih (hv.tail hc)
    · refine (hbeside hv).imp fun hR x hx y hy => ?_
      exact hR x y (reaches_of_mem_preorder hx) (reaches_of_mem_preorder hy)

/-- A small finite tree: 0 has 1 in two of its slots and nothing in the one
between, 1 has 2 below it. None of the nodes is named. -/
def twins : NodeView Nat where
  childCount n := if n = 0 then 3 else if n = 1 then 1 else 0
  child n i := if n = 0 then if i = 1 then none else some 1 else some 2
  namedChildCount _ := 0
  namedChild _ _ := none

theorem finiteBelow_twins : twins.FiniteBelow false 0 :=
  finiteBelow_iff.2 ⟨3, by decide⟩

end TreeExplorer.NodeView
