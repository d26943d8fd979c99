/-
Where a walk ends, and what it says beforehand.

A walk gives out no place twice and nothing that is not a place of the tree. Nor
does it leave a place out: what has not been given out is below a node that is
ready, so that a pull finds nothing only when all has been (`mem_visit_of_reaches`).
The number of nodes that `m` pulls give out is therefore `m` or the number of places,
whichever is less, in either order and whether or not the tree is finite
(`lt_length_nodes_run_start_iff`).

The bounds that a walk gives for what is to come are read off its frontier while a
node is still to be looked into. An empty frontier alone thus says nothing; with no
node pending it says that a pull has found nothing (`isOver_run_start_iff`).
-/
import Mathlib.Data.Set.Card
import TreeExplorer.Proofs.Walk.BreadthFirst
import TreeExplorer.Proofs.Walk.DepthFirst

namespace TreeExplorer

universe u

variable {ν : Type u} {view : NodeView ν} {mode : Mode} {namedOnly : Bool} {root : ν}

open Relation (ReflTransGen TransGen)

theorem NodeView.Occurs.reaches {o : Occurrence ν} (h : view.Occurs namedOnly root o) :
    ReflTransGen (view.unfolding.Child namedOnly) (.top root) o := by
  induction h with
  | top => exact .refl
  | @slot o i n _ hi hn ih => exact ih.tail (mem_children_unfolding.2 ⟨i, n, hi, hn, rfl⟩)

theorem NodeView.FiniteBelow.exists_drains (h : view.FiniteBelow namedOnly root) (mode : Mode) :
    ∃ nodes, (Walk.start root mode namedOnly).Drains view nodes := by
  obtain ⟨d, hd⟩ := h.level_nil
  have hroot : view.level namedOnly (d + 1) root = [] := hd _ .top
  cases mode with
  | depthFirst => exact ⟨_, Walk.drains_depthFirst hroot⟩
  | breadthFirst => exact ⟨_, Walk.drains_breadthFirst hroot⟩

namespace Walk

/-! ## Nothing is left out -/

/-- A run that has found the end has given out whatever the ready nodes lead to. -/
theorem mem_visit_of_reaches {k : Nat} {ready : List ν} {r v : ν}
    (h : (visit view mode namedOnly k ready).length < k) (hr : r ∈ ready)
    (hv : ReflTransGen (view.Child namedOnly) r v) : v ∈ visit view mode namedOnly k ready := by
  induction k generalizing ready r with
  | zero => exact absurd h (Nat.not_lt_zero _)
  | succ k ih =>
    cases ready with
    | nil => exact absurd hr List.not_mem_nil
    | cons n rest =>
      simp only [visit, List.length_cons, Nat.add_lt_add_iff_right] at h ⊢
      rcases List.mem_cons.1 hr with rfl | hr
      · -- The way down from the node that goes out starts at one of its children.
        rcases hv.cases_head with rfl | ⟨c, hc, hv⟩
        · exact List.mem_cons_self
        · exact List.mem_cons_of_mem _ (ih h (mem_enqueue.2 (.inl hc)) hv)
      · exact List.mem_cons_of_mem _ (ih h (mem_enqueue.2 (.inr hr)) hv)

theorem length_trail (root : ν) (m : Nat) :
    (trail view root mode namedOnly m).length = ((start root mode namedOnly).run view m).nodes.length := by
  rw [← map_node_trail, List.length_map]

theorem mem_trail_of_occurs {m : Nat} {o : Occurrence ν}
    (h : ((start root mode namedOnly).run view m).nodes.length < m)
    (ho : view.Occurs namedOnly root o) : o ∈ trail view root mode namedOnly m := by
  rw [← length_trail, trail, nodes_run_start] at h
  rw [trail, nodes_run_start]
  exact mem_visit_of_reaches h (List.mem_singleton_self _) ho.reaches

theorem encard_trail (root : ν) (m : Nat) :
    {o | o ∈ trail view root mode namedOnly m}.encard =
      ((start root mode namedOnly).run view m).nodes.length := by
  classical
  rw [← List.coe_toFinset, Set.encard_coe_eq_coe_finsetCard,
    List.toFinset_card_of_nodup (nodup_trail root m), length_trail]

/-- A run that has found the end has given out as many nodes as there are places. -/
theorem encard_occurs {m : Nat} (h : ((start root mode namedOnly).run view m).nodes.length < m) :
    {o | view.Occurs namedOnly root o}.encard = ((start root mode namedOnly).run view m).nodes.length := by
  have hall : {o | view.Occurs namedOnly root o} = {o | o ∈ trail view root mode namedOnly m} :=
    Set.ext fun o => ⟨mem_trail_of_occurs h, occurs_of_mem_trail⟩
  rw [hall, encard_trail]

/-- A run gives out more than `i` nodes if and only if it makes more than `i` pulls
and there are more than `i` places, whatever the order. -/
theorem lt_length_nodes_run_start_iff (mode : Mode) (i m : Nat) :
    i < ((start root mode namedOnly).run view m).nodes.length ↔
      i < m ∧ (i : ℕ∞) < {o | view.Occurs namedOnly root o}.encard := by
  constructor
  · intro hi
    refine ⟨Nat.lt_of_lt_of_le hi (length_nodes_run_le m _), ?_⟩
    have hsub : {o | o ∈ trail view root mode namedOnly m} ⊆ {o | view.Occurs namedOnly root o} :=
      fun o ho => occurs_of_mem_trail ho
    have hcard := Set.encard_le_encard hsub
    rw [encard_trail] at hcard
    exact lt_of_lt_of_le (by exact_mod_cast hi) hcard
  · rintro ⟨him, hi⟩
    by_contra hle
    -- The run has found the end, so there are no more places than nodes.
    have hend : ((start root mode namedOnly).run view m).nodes.length < m := by omega
    rw [encard_occurs hend] at hi
    exact hle (by exact_mod_cast hi)

theorem isSome_answer_start_iff (i : Nat) :
    ((start root mode namedOnly).answer view i).isSome ↔
      (i : ℕ∞) < {o | view.Occurs namedOnly root o}.encard := by
  rw [isSome_answer_iff (Nat.lt_add_one i), lt_length_nodes_run_start_iff]
  exact and_iff_right (Nat.lt_add_one i)

/-- **A walk ends exactly when the tree does.** If the tree has `n` places, the
first `n` pulls give out a node and the later ones nothing, and so the walk comes to
its end; if it has infinitely many, and so whenever a cycle can be reached, every
pull gives out a node. The number of nodes is the same in both orders. -/
theorem isSome_answer_start_of_places (view : NodeView ν) (root : ν) (mode : Mode) (namedOnly : Bool) :
    (∀ n : Nat, {o | view.Occurs namedOnly root o}.encard = n →
      (∀ i, i < n → ((start root mode namedOnly).answer view i).isSome) ∧
      (∀ i, n ≤ i → (start root mode namedOnly).answer view i = none) ∧
      ∃ nodes, (start root mode namedOnly).Drains view nodes ∧ nodes.length = n) ∧
    ({o | view.Occurs namedOnly root o}.Infinite →
      ∀ i, ((start root mode namedOnly).answer view i).isSome) ∧
    (∀ v, ReflTransGen (view.Child namedOnly) root v → TransGen (view.Child namedOnly) v v →
      {o | view.Occurs namedOnly root o}.Infinite) ∧
    ∀ m, ((start root .depthFirst namedOnly).run view m).nodes.length =
      ((start root .breadthFirst namedOnly).run view m).nodes.length := by
  refine ⟨fun n hn => ⟨fun i hi => ?_, fun i hi => ?_, ?_⟩, fun hinf i => ?_,
    fun v hv hcycle hfin => ?_, fun m => ?_⟩
  · rw [isSome_answer_start_iff, hn]
    exact_mod_cast hi
  · rw [← Option.not_isSome_iff_eq_none, isSome_answer_start_iff, hn]
    exact_mod_cast Nat.not_lt.2 hi
  · have hfin : view.FiniteBelow namedOnly root := Set.finite_of_encard_eq_coe hn
    obtain ⟨nodes, hdrains⟩ := hfin.exists_drains mode
    refine ⟨nodes, hdrains, eq_of_forall_lt_iff fun i => ?_⟩
    rw [← hdrains.isSome_answer_iff, isSome_answer_start_iff, hn, Nat.cast_lt]
  · rw [isSome_answer_start_iff, hinf.encard_eq]
    exact ENat.natCast_lt_top i
  · exact NodeView.FiniteBelow.not_cycle hfin hv hcycle
  · refine eq_of_forall_lt_iff fun i => ?_
    rw [lt_length_nodes_run_start_iff, lt_length_nodes_run_start_iff]

/-- `NodeView.twins` has five places. In `endless` every node is a child of its own,
so that a walk over it has no end. -/
theorem isSome_answer_twins_endless :
    ({o | NodeView.twins.Occurs false 0 o}.encard = 5 ∧
      ((start 0 .breadthFirst false).answer NodeView.twins 4).isSome ∧
      (start 0 .breadthFirst false).answer NodeView.twins 5 = none) ∧
    TransGen (endless.Child true) 3 3 ∧
    ∀ i, ((start 0 .depthFirst true).answer endless i).isSome := by
  have hcard : {o | NodeView.twins.Occurs false 0 o}.encard = 5 := by
    have hshort : ((start 0 .breadthFirst false).run NodeView.twins 6).nodes.length < 6 := by decide
    rw [encard_occurs hshort]
    exact congrArg Nat.cast (by decide : _ = 5)
  obtain ⟨htwins, -⟩ := isSome_answer_start_of_places NodeView.twins 0 .breadthFirst false
  obtain ⟨hsome, hnone, -⟩ := htwins 5 hcard
  obtain ⟨-, hendless, hcycle, -⟩ := isSome_answer_start_of_places endless 0 .depthFirst true
  have hdown : ∀ n, endless.Child true n (n + 1) := fun n => List.mem_cons_of_mem _ List.mem_cons_self
  have hloop : TransGen (endless.Child true) 3 3 := .single List.mem_cons_self
  have hreach : ReflTransGen (endless.Child true) 0 3 :=
    ((ReflTransGen.single (hdown 0)).tail (hdown 1)).tail (hdown 2)
  exact ⟨⟨hcard, hsome 4 (by decide), hnone 5 (by decide)⟩, hloop, hendless (hcycle 3 hreach hloop)⟩

/-! ## What a walk says of its end -/

/-- No node is known and none is still to be looked into. -/
def IsOver (w : Walk ν) : Prop :=
  w.pending = none ∧ w.frontier = []

variable {w : Walk ν}

theorem ready_of_isOver (h : w.IsOver) : (w.ready view).value = [] := by
  rw [ready_of_pending_none h.1, h.2]
  rfl

/-- A walk is over right after the pulls that find nothing. -/
theorem isOver_next_iff : (w.next view).walk.IsOver ↔ (w.next view).node = none := by
  cases h : (w.ready view).value with
  | nil => simp [next_of_ready_nil h, IsOver]
  | cons n rest => simp [next_of_ready_cons h, IsOver]

theorem isOver_run_start_iff (m : Nat) :
    ((start root mode namedOnly).run view m).walk.IsOver ↔
      none ∈ ((start root mode namedOnly).run view m).answers := by
  induction m with
  | zero => simp [run, start, IsOver]
  | succ m ih =>
    rw [walk_run_succ, isOver_next_iff, answers_run_succ, List.mem_append, ← ih, List.mem_singleton]
    constructor
    · intro hnone
      exact .inr hnone.symm
    · rintro (hover | hnone)
      · -- The walk was over before this pull.
        rw [next_of_ready_nil (ready_of_isOver hover)]
      · exact hnone.symm

theorem sizeHint_fst : w.sizeHint.1 = w.frontier.length := by
  unfold sizeHint
  split
  · rename_i hf
    rw [hf]
    rfl
  · rfl

theorem sizeHint_of_isOver (h : w.IsOver) : w.sizeHint.2 = some 0 := by
  simp only [sizeHint, h.1, h.2]

theorem sizeHint_of_not_isOver (h : ¬w.IsOver) : w.sizeHint.2 = none := by
  unfold sizeHint
  split
  · rename_i hp hf
    exact absurd ⟨hp, hf⟩ h
  · rfl

theorem length_frontier_le (view : NodeView ν) (w : Walk ν) :
    w.frontier.length ≤ (w.ready view).value.length := by
  cases h : w.pending with
  | none =>
    rw [ready_of_pending_none h]
    exact Nat.le_refl _
  | some n =>
    rw [ready_of_pending_some h, Reading.value_map, (enqueue_perm _ _ _).length_eq, List.length_append]
    omega

/-- A pull takes one node off the frontier and children only add to it. -/
theorem min_length_le_length_visit (view : NodeView ν) (mode : Mode) (namedOnly : Bool) (k : Nat)
    (ready : List ν) :
    min k ready.length ≤ (visit view mode namedOnly k ready).length := by
  induction k generalizing ready with
  | zero => simp
  | succ k ih =>
    cases ready with
    | nil => simp
    | cons n rest =>
      have hrest := ih (enqueue mode (view.children namedOnly n) rest)
      rw [(enqueue_perm _ _ _).length_eq, List.length_append] at hrest
      simp only [visit, List.length_cons]
      omega

theorem isSome_answer_of_lt_length {i : Nat} (h : i < w.frontier.length) : (w.answer view i).isSome := by
  rw [isSome_answer_iff (Nat.lt_add_one i), nodes_run]
  have hready := length_frontier_le view w
  have hvisit := min_length_le_length_visit view w.mode w.namedOnly (i + 1) (w.ready view).value
  omega

/-- **The bounds on what is to come hold at any time.** As many pulls as the lower
bound says will each give out a node, so that it never exceeds what is left of the
walk. The upper bound is there, and is zero, if and only if a pull has found nothing. -/
theorem sizeHint_run_start (view : NodeView ν) (root : ν) (mode : Mode) (namedOnly : Bool) (m : Nat) :
    let w := ((start root mode namedOnly).run view m).walk
    (∀ i, i < w.sizeHint.1 → (w.answer view i).isSome) ∧
    (∀ nodes, (start root mode namedOnly).Drains view nodes → w.sizeHint.1 ≤ (nodes.drop m).length) ∧
    (w.sizeHint.2 = some 0 ↔ none ∈ ((start root mode namedOnly).run view m).answers) ∧
    (none ∉ ((start root mode namedOnly).run view m).answers → w.sizeHint.2 = none) := by
  intro w
  have hsome : ∀ i, i < w.sizeHint.1 → (w.answer view i).isSome := by
    intro i hi
    rw [sizeHint_fst] at hi
    exact isSome_answer_of_lt_length hi
  refine ⟨hsome, fun nodes hdrains => ?_, ⟨fun hzero => ?_, fun hnone => ?_⟩, fun hnone => ?_⟩
  · rw [List.length_drop]
    rcases Nat.eq_zero_or_pos w.sizeHint.1 with hzero | hpos
    · omega
    · -- The last of the pulls that must succeed is still within the walk.
      have hlast := hsome (w.sizeHint.1 - 1) (by omega)
      rw [answer_run, hdrains.isSome_answer_iff] at hlast
      omega
  · rw [← isOver_run_start_iff]
    by_contra hlive
    rw [sizeHint_of_not_isOver hlive] at hzero
    cases hzero
  · exact sizeHint_of_isOver ((isOver_run_start_iff m).2 hnone)
  · exact sizeHint_of_not_isOver fun hover => hnone ((isOver_run_start_iff m).1 hover)

/-- Over `NodeView.twins` no node is known after the first pull, but the walk does
not say that it is over. After the second one node is known and three are left, and
after the sixth the walk is over. -/
theorem sizeHint_twins :
    (none ∉ ((start 0 .depthFirst false).run NodeView.twins 1).answers ∧
      ((start 0 .depthFirst false).run NodeView.twins 1).walk.sizeHint.2 = none) ∧
    (((start 0 .depthFirst false).run NodeView.twins 2).walk.sizeHint.1 = 1 ∧
      (((start 0 .depthFirst false).run NodeView.twins 2).walk.answer NodeView.twins 0).isSome ∧
      (start 0 .depthFirst false).Drains NodeView.twins [0, 1, 2, 1, 2] ∧
      1 ≤ ([0, 1, 2, 1, 2].drop 2).length) ∧
    none ∈ ((start 0 .depthFirst false).run NodeView.twins 6).answers ∧
    ((start 0 .depthFirst false).run NodeView.twins 6).walk.sizeHint.2 = some 0 := by
  have hfirst : none ∉ ((start 0 .depthFirst false).run NodeView.twins 1).answers := by decide
  have hknown : ((start 0 .depthFirst false).run NodeView.twins 2).walk.sizeHint.1 = 1 := by decide
  have hlast : none ∈ ((start 0 .depthFirst false).run NodeView.twins 6).answers := by decide
  have hend : NodeView.twins.level false 3 0 = [] := by decide
  have hdrains : (start 0 .depthFirst false).Drains NodeView.twins [0, 1, 2, 1, 2] :=
    drains_depthFirst hend
  obtain ⟨-, -, -, hlive⟩ := sizeHint_run_start NodeView.twins 0 .depthFirst false 1
  obtain ⟨hsome, hleft, -, -⟩ := sizeHint_run_start NodeView.twins 0 .depthFirst false 2
  obtain ⟨-, -, hover, -⟩ := sizeHint_run_start NodeView.twins 0 .depthFirst false 6
  refine ⟨⟨hfirst, hlive hfirst⟩, ⟨hknown, hsome 0 (by omega), hdrains, ?_⟩, hlast, hover.2 hlast⟩
  have hleft := hleft _ hdrains
  rwa [hknown] at hleft

end Walk

end TreeExplorer
