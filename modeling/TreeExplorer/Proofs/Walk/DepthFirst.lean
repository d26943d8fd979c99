/-
A depth-first walk gives out nodes in pre-order, on every view: each prefix of
the walk is a prefix of the pre-order taken far enough down, and over a finite
tree the whole walk is the whole pre-order.

The frontier of such a walk is a stack of nodes whose subtrees are still to be
listed. They are not all listed equally far down (the children of a node go one
step less far than the node did), so `visit_depthFirst` gives every node of the
stack a number of steps of its own, of which only the size matters: it must
cover the pulls still to come.
-/
import TreeExplorer.Proofs.Walk.Order

namespace TreeExplorer.Walk

universe u

variable {ν : Type u} {view : NodeView ν} {namedOnly : Bool}

theorem visit_depthFirst (k : Nat) (stack : List (ν × Nat)) (h : ∀ p ∈ stack, k ≤ p.2) :
    visit view .depthFirst namedOnly k (stack.map (·.1)) =
      (stack.flatMap fun p => view.preorder namedOnly p.2 p.1).take k := by
  induction k generalizing stack with
  | zero => simp [visit]
  | succ k ih =>
    cases stack with
    | nil => simp
    | cons p rest =>
      obtain ⟨v, d⟩ := p
      have hd : k + 1 ≤ d := h (v, d) List.mem_cons_self
      obtain ⟨d, rfl⟩ : ∃ d', d = d' + 1 := ⟨d - 1, by omega⟩
      -- The children of `v` take its place, each listed one step less far.
      have hstack := ih ((view.children namedOnly v).map (·, d) ++ rest) fun q hq => by
        rcases List.mem_append.1 hq with hq | hq
        · obtain ⟨c, -, rfl⟩ := List.mem_map.1 hq
          exact Nat.le_of_succ_le_succ hd
        · exact Nat.le_of_succ_le (h q (List.mem_cons_of_mem _ hq))
      simp only [List.map_append, List.map_map, List.flatMap_append, List.flatMap_map] at hstack
      simp only [List.map_cons, visit, enqueue, List.flatMap_cons, NodeView.preorder,
        List.cons_append, List.take_succ_cons]
      congr 1
      rw [← hstack]
      congr 2
      exact (List.map_id _).symm

/-- The first `k` pulls follow the pre-order, listed `k` steps down or further. -/
theorem nodes_depthFirst {k d : Nat} (h : k ≤ d) (root : ν) :
    ((start root .depthFirst namedOnly).run view k).nodes = (view.preorder namedOnly d root).take k := by
  have hvisit : visit view .depthFirst namedOnly k ([(root, d)].map (·.1)) = _ :=
    visit_depthFirst k [(root, d)] (by simpa using h)
  rw [nodes_run_start]
  simpa using hvisit

theorem drains_depthFirst {d : Nat} {root : ν} (h : view.level namedOnly (d + 1) root = []) :
    (start root .depthFirst namedOnly).Drains view (view.preorder namedOnly d root) := by
  refine drains_iff.2 fun m => ?_
  rw [nodes_depthFirst (Nat.le_max_left m d), NodeView.preorder_of_le h (Nat.le_max_right m d)]

/-- **Depth first is pre-order.** The nodes of the first `k` pulls are the first
`k` of the pre-order, whatever the view; over a finite tree the walk gives out,
and ends with, the list that a node followed by the lists of its children from
left to right makes up. -/
theorem nodes_depthFirst_eq_preorder (view : NodeView ν) (root : ν) (namedOnly : Bool) :
    (∀ k, ((start root .depthFirst namedOnly).run view k).nodes =
      (view.preorder namedOnly k root).take k) ∧
    (view.FiniteBelow namedOnly root → ∃ order : ν → List ν,
      (∀ o, view.Occurs namedOnly root o →
        order o.node = o.node :: (view.children namedOnly o.node).flatMap order) ∧
      (start root .depthFirst namedOnly).Drains view (order root)) := by
  refine ⟨fun k => nodes_depthFirst (Nat.le_refl k) root, fun hfin => ?_⟩
  obtain ⟨d, hd⟩ := hfin.level_nil
  refine ⟨view.preorder namedOnly d, fun o ho => ?_, drains_depthFirst (hd _ .top)⟩
  -- One step further down adds nothing, so the rule holds with the steps left as they are.
  exact (NodeView.preorder_succ_of_level_nil (hd o ho)).symm

/-- Over `NodeView.twins` the rule fixes the list, and the walk gives it out. -/
theorem depthFirst_twins : NodeView.twins.FiniteBelow false 0 ∧
    (start 0 .depthFirst false).Drains NodeView.twins [0, 1, 2, 1, 2] := by
  have hfin := NodeView.finiteBelow_twins
  obtain ⟨order, horder, hdrains⟩ :=
    (nodes_depthFirst_eq_preorder NodeView.twins 0 false).2 hfin
  have h₁ : NodeView.twins.Occurs false 0 (Occurrence.below (.top 0) 0 1) :=
    .slot .top (by decide) rfl
  have h₂ : NodeView.twins.Occurs false 0 (((Occurrence.top 0).below 0 1).below 0 2) :=
    .slot h₁ (by decide) rfl
  have e₀ : order 0 = 0 :: (order 1 ++ (order 1 ++ [])) := horder _ .top
  have e₁ : order 1 = 1 :: (order 2 ++ []) := horder _ h₁
  have e₂ : order 2 = [2] := horder _ h₂
  rw [e₀, e₁, e₂] at hdrains
  exact ⟨hfin, hdrains⟩

end TreeExplorer.Walk
