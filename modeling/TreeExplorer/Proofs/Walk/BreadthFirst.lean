/-
A breadth-first walk gives out nodes level by level, on every view: each prefix
of the walk is a prefix of the levels taken far enough down, and no place is
given out before all the places above its depth, even where the walk never ends.

Between two pulls the frontier holds the rest of one level and then what has
been found of the next. `visit_breadthFirst` keeps the two apart: once the rest
of the level has gone out, the found part has become the whole of the next.
-/
import TreeExplorer.Proofs.Walk.Order

namespace TreeExplorer.Walk

universe u

variable {ν : Type u} {view : NodeView ν} {namedOnly : Bool}

/-- One node of the level goes out, and what is below it is found. -/
theorem visit_breadthFirst_cons (k : Nat) (v : ν) (rest found : List ν) :
    visit view .breadthFirst namedOnly (k + 1) (v :: rest ++ found) =
      v :: visit view .breadthFirst namedOnly k (rest ++ (found ++ view.children namedOnly v)) := by
  simp only [List.cons_append, visit, enqueue, List.append_assoc]

/-- `rest` is what is left of a level and `found` what is known of the next; the
nodes to come are `rest`, then the next level and those below it. -/
theorem visit_breadthFirst {k d : Nat} (h : k ≤ d) (rest found : List ν) :
    visit view .breadthFirst namedOnly k (rest ++ found) =
      (rest ++ view.levels namedOnly d
        (found ++ rest.flatMap (view.children namedOnly))).take k := by
  induction k generalizing d rest found with
  | zero => simp [visit]
  | succ k ih =>
    have hcons : ∀ {e : Nat} (v : ν) (rest found : List ν), k ≤ e →
        visit view .breadthFirst namedOnly (k + 1) (v :: rest ++ found) =
          (v :: rest ++ view.levels namedOnly e
            (found ++ (v :: rest).flatMap (view.children namedOnly))).take (k + 1) := by
      intro e v rest found hke
      rw [visit_breadthFirst_cons, ih hke]
      simp only [List.flatMap_cons, List.cons_append, List.take_succ_cons, List.append_assoc]
    cases rest with
    | cons v rest => exact hcons v rest found (Nat.le_of_succ_le h)
    | nil =>
      -- The level is over: what was found is the next one, with nothing found below it.
      obtain ⟨e, rfl⟩ : ∃ e, d = e + 1 := ⟨d - 1, by omega⟩
      cases found with
      | nil => simp
      | cons v found =>
        have hnext := hcons v found [] (Nat.le_of_succ_le_succ h)
        simpa [NodeView.levels] using hnext

/-- The first `k` pulls follow the levels, taken `k` steps down or further. -/
theorem nodes_breadthFirst {k d : Nat} (h : k ≤ d) (root : ν) :
    ((start root .breadthFirst namedOnly).run view k).nodes =
      (view.levels namedOnly d [root]).take k := by
  have hvisit : visit view .breadthFirst namedOnly k ([] ++ [root]) = _ :=
    visit_breadthFirst h [] [root]
  rw [nodes_run_start]
  simpa using hvisit

theorem drains_breadthFirst {d : Nat} {root : ν} (h : view.level namedOnly (d + 1) root = []) :
    (start root .breadthFirst namedOnly).Drains view (view.levels namedOnly d [root]) := by
  refine drains_iff.2 fun m => ?_
  rw [nodes_breadthFirst (Nat.le_max_left m d), NodeView.levels_of_le h (Nat.le_max_right m d)]

/-- When a place is given out, every shallower place of the tree has been. -/
theorem mem_of_depth_lt_of_trail {root : ν} {k : Nat} {before after : List (Occurrence ν)}
    {o o' : Occurrence ν}
    (htrail : trail view root .breadthFirst namedOnly k = before ++ o' :: after)
    (ho : view.Occurs namedOnly root o) (hlt : o.depth < o'.depth) : o ∈ before := by
  have htake : trail view root .breadthFirst namedOnly k =
      (view.unfolding.levels namedOnly k [.top root]).take k :=
    nodes_breadthFirst (Nat.le_refl k) _
  -- The levels as a whole: what was given out, `o'`, and a part yet to come.
  have hsplit : view.unfolding.levels namedOnly k [.top root] =
      before ++ o' :: (after ++ (view.unfolding.levels namedOnly k [.top root]).drop k) := by
    conv_lhs => rw [← List.take_append_drop k (view.unfolding.levels namedOnly k [.top root])]
    rw [← htake, htrail, List.append_assoc, List.cons_append]
  have ho' : o'.depth ≤ k := by
    have hmem : o' ∈ view.unfolding.levels namedOnly k [.top root] := by
      rw [hsplit]
      exact List.mem_append_right _ List.mem_cons_self
    exact (NodeView.mem_levels_top.1 hmem).2
  have hmem : o ∈ view.unfolding.levels namedOnly k [.top root] :=
    NodeView.mem_levels_top.2 ⟨ho, by omega⟩
  have hsorted : (view.unfolding.levels namedOnly k [.top root]).Pairwise fun o o' => o.depth ≤ o'.depth :=
    NodeView.pairwise_depth_levels k root
  rw [hsplit] at hmem hsorted
  rcases List.mem_append.1 hmem with hmem | hmem
  · exact hmem
  · rcases List.mem_cons.1 hmem with rfl | hmem
    · omega
    · have hle := (List.pairwise_cons.1 (List.pairwise_append.1 hsorted).2.1).1 o hmem
      omega

/-- **Breadth first is level by level.** The nodes of the first `k` pulls are the
first `k` of the levels one after the other, whatever the view. Place by place,
nothing is given out before all that is less deep, whether the walk ends or not. -/
theorem nodes_breadthFirst_eq_levels (view : NodeView ν) (root : ν) (namedOnly : Bool) (k : Nat) :
    ((start root .breadthFirst namedOnly).run view k).nodes =
      ((List.range (k + 1)).flatMap fun d => view.level namedOnly d root).take k ∧
    (trail view root .breadthFirst namedOnly k).map (·.node) =
      ((start root .breadthFirst namedOnly).run view k).nodes ∧
    ∀ before o' after, trail view root .breadthFirst namedOnly k = before ++ o' :: after →
      ∀ o, view.Occurs namedOnly root o → o.depth < o'.depth → o ∈ before := by
  refine ⟨?_, map_node_trail root k, fun before o' after htrail o ho hlt => ?_⟩
  · rw [nodes_breadthFirst (Nat.le_refl k), NodeView.levels_singleton]
  · exact mem_of_depth_lt_of_trail htrail ho hlt

/-- Below every node are the node itself and the next one, so that the tree has
no end. -/
def endless : NodeView Nat where
  childCount _ := 2
  child n i := some (n + i)
  namedChildCount _ := 2
  namedChild n i := some (n + i)

/-- In `endless` the first place of depth 2 comes after both of depth 1. -/
theorem breadthFirst_endless :
    trail endless 0 .breadthFirst false 4 = [⟨[], 0⟩, ⟨[0], 0⟩, ⟨[1], 1⟩, ⟨[0, 0], 0⟩] ∧
      (⟨[1], 1⟩ : Occurrence Nat) ∈ [⟨[], 0⟩, ⟨[0], 0⟩, (⟨[1], 1⟩ : Occurrence Nat)] := by
  have htrail : trail endless 0 .breadthFirst false 4 =
      [⟨[], 0⟩, ⟨[0], 0⟩, ⟨[1], 1⟩, ⟨[0, 0], 0⟩] := by decide
  have hocc : endless.Occurs false 0 ((Occurrence.top 0).below 1 1) := .slot .top (by decide) rfl
  have hlast := (nodes_breadthFirst_eq_levels endless 0 false 4).2.2
    [⟨[], 0⟩, ⟨[0], 0⟩, ⟨[1], 1⟩] ⟨[0, 0], 0⟩ [] htrail
  exact ⟨htrail, hlast _ hocc (by decide)⟩

end TreeExplorer.Walk
