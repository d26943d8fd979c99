/-
A walk that starts below the root is part of the walk from the root. Depth first,
what is below a place is listed in one go, so the walk from there is a block of the
whole walk (`Occurs.preorder_infix`). Breadth first, what is below a place is
scattered over the levels, with one stretch on each: the places `j` steps below a
place of depth `e` are among those of depth `e + j`, in the order they have there
(`Occurs.levels_sublist`).

Nodes may come up more than once, so both are said of places.
-/
import Mathlib.Data.List.Flatten
import TreeExplorer.Proofs.Walk.BreadthFirst
import TreeExplorer.Proofs.Walk.DepthFirst

namespace TreeExplorer

universe u

variable {ν : Type u} {view : NodeView ν} {namedOnly : Bool} {root : ν}

namespace NodeView

/-- Where a pre-order goes down to the end, what it lists for a child is a block. -/
theorem preorder_infix_of_child {d : Nat} {v c : ν} (h : view.level namedOnly (d + 1) v = [])
    (hc : view.Child namedOnly v c) : view.preorder namedOnly d c <:+: view.preorder namedOnly d v := by
  rw [← preorder_succ_of_level_nil h, preorder]
  exact List.infix_cons (List.infix_flatMap_of_mem hc _)

theorem level_unfolding_nil {d : Nat} {o : Occurrence ν} (h : view.level namedOnly d o.node = []) :
    view.unfolding.level namedOnly d o = [] := by
  rwa [← map_node_level, List.map_eq_nil_iff] at h

theorem Occurs.preorder_infix {d : Nat} {o : Occurrence ν}
    (hd : ∀ x, view.Occurs namedOnly root x → view.level namedOnly (d + 1) x.node = [])
    (ho : view.Occurs namedOnly root o) :
    view.unfolding.preorder namedOnly d o <:+: view.unfolding.preorder namedOnly d (.top root) := by
  induction ho with
  | top => exact List.infix_refl _
  | @slot o i n ho hi hn ih =>
    have hchild : view.unfolding.Child namedOnly o (o.below i n) :=
      mem_children_unfolding.2 ⟨i, n, hi, hn, rfl⟩
    exact (preorder_infix_of_child (level_unfolding_nil (hd o ho)) hchild).trans ih

theorem Occurs.level_sublist {o : Occurrence ν} (ho : view.Occurs namedOnly root o) (j : Nat) :
    (view.unfolding.level namedOnly j o).Sublist
      (view.unfolding.level namedOnly (o.depth + j) (.top root)) := by
  have hsingle : [o].Sublist (view.unfolding.level namedOnly o.depth (.top root)) :=
    List.singleton_sublist.2 ho.mem_level
  have hbelow := hsingle.flatMap (view.unfolding.level namedOnly j)
  rwa [List.flatMap_singleton, ← level_add] at hbelow

theorem Occurs.levels_sublist {d : Nat} {o : Occurrence ν}
    (hd : view.level namedOnly (d + 1) root = []) (ho : view.Occurs namedOnly root o) :
    (view.unfolding.levels namedOnly d [o]).Sublist (view.unfolding.levels namedOnly d [.top root]) := by
  have hnil : view.unfolding.level namedOnly (d + 1) (.top root) = [] := level_unfolding_nil hd
  rw [← levels_of_le hnil (Nat.le_add_left d o.depth), levels_singleton, levels_singleton]
  -- Step by step each stretch is on its level, and these levels are the last ones of the tree.
  have hrange : ((List.range (d + 1)).map (o.depth + ·)).Sublist (List.range (o.depth + d + 1)) := by
    have hsplit : List.range (o.depth + (d + 1)) =
        List.range o.depth ++ (List.range (d + 1)).map (o.depth + ·) := List.range_add ..
    rw [Nat.add_assoc, hsplit]
    exact List.sublist_append_right _ _
  have hlast := hrange.flatMap fun j => view.unfolding.level namedOnly j (.top root)
  rw [List.flatMap_map] at hlast
  exact (List.Sublist.flatMap_right _ fun j _ => ho.level_sublist j).trans hlast

end NodeView

namespace Walk

theorem Drains.exists_cons {mode : Mode} {nodes : List ν}
    (h : (start root mode namedOnly).Drains view nodes) : ∃ below, nodes = root :: below :=
  List.head?_eq_some_iff.1 h.head?_start

/-- **A walk from below is part of the walk from the root.** Over a finite tree, the
depth-first walk from any place that the root's walk gives out is a block of that
walk, and begins there. The breadth-first walk from any such place gives out a part
of the root's walk, in the order it has there. -/
theorem infix_and_sublist_of_walk_below (view : NodeView ν) (root : ν) (namedOnly : Bool)
    (h : view.FiniteBelow namedOnly root) :
    ∃ deep broad : List (Occurrence ν),
      (start (.top root) .depthFirst namedOnly).Drains view.unfolding deep ∧
      (start root .depthFirst namedOnly).Drains view (deep.map (·.node)) ∧
      (start (.top root) .breadthFirst namedOnly).Drains view.unfolding broad ∧
      (start root .breadthFirst namedOnly).Drains view (broad.map (·.node)) ∧
      (∀ o ∈ deep, ∃ below, o :: below <:+: deep ∧
        (start o .depthFirst namedOnly).Drains view.unfolding (o :: below) ∧
        (start o.node .depthFirst namedOnly).Drains view ((o :: below).map (·.node))) ∧
      ∀ o ∈ broad, ∃ below, (o :: below).Sublist broad ∧
        (start o .breadthFirst namedOnly).Drains view.unfolding (o :: below) ∧
        (start o.node .breadthFirst namedOnly).Drains view ((o :: below).map (·.node)) := by
  obtain ⟨d, hd⟩ := h.level_nil
  have hnil : ∀ o, view.Occurs namedOnly root o → view.unfolding.level namedOnly (d + 1) o = [] :=
    fun o ho => NodeView.level_unfolding_nil (hd o ho)
  have hdeep := drains_depthFirst (hnil _ .top)
  have hbroad := drains_breadthFirst (hnil _ .top)
  refine ⟨_, _, hdeep, hdeep.map_node, hbroad, hbroad.map_node, fun o ho => ?_, fun o ho => ?_⟩
  · have hocc : view.Occurs namedOnly root o := hdeep.occurs ho
    have hwalk := drains_depthFirst (hnil o hocc)
    have hblock := NodeView.Occurs.preorder_infix hd hocc
    obtain ⟨below, hbelow⟩ := hwalk.exists_cons
    rw [hbelow] at hwalk hblock
    exact ⟨below, hblock, hwalk, hwalk.map_node⟩
  · have hocc : view.Occurs namedOnly root o := hbroad.occurs ho
    have hwalk := drains_breadthFirst (hnil o hocc)
    have hpart := NodeView.Occurs.levels_sublist (hd _ .top) hocc
    obtain ⟨below, hbelow⟩ := hwalk.exists_cons
    rw [hbelow] at hwalk hpart
    exact ⟨below, hpart, hwalk, hwalk.map_node⟩

/-- The two children of the root of `NodeView.twins` are one node. Depth first, the
walk from the second ends the whole walk; breadth first, the walk from the first
leaves the second out. -/
theorem below_twins : NodeView.twins.FiniteBelow false 0 ∧
    ∃ deep broad : List (Occurrence Nat),
      deep = [⟨[], 0⟩, ⟨[0], 1⟩, ⟨[0, 0], 2⟩, ⟨[2], 1⟩, ⟨[2, 0], 2⟩] ∧
      broad = [⟨[], 0⟩, ⟨[0], 1⟩, ⟨[2], 1⟩, ⟨[0, 0], 2⟩, ⟨[2, 0], 2⟩] ∧
      [⟨[2], 1⟩, ⟨[2, 0], 2⟩] <:+: deep ∧ (start 1 .depthFirst false).Drains NodeView.twins [1, 2] ∧
      [⟨[0], 1⟩, ⟨[0, 0], 2⟩].Sublist broad ∧
      (start 1 .breadthFirst false).Drains NodeView.twins [1, 2] := by
  have hfin := NodeView.finiteBelow_twins
  obtain ⟨deep, broad, hdeep, -, hbroad, -, hblocks, hparts⟩ :=
    infix_and_sublist_of_walk_below NodeView.twins 0 false hfin
  have hdeep' : deep = [⟨[], 0⟩, ⟨[0], 1⟩, ⟨[0, 0], 2⟩, ⟨[2], 1⟩, ⟨[2, 0], 2⟩] := by
    rw [← hdeep.nodes_run (m := 6) (by decide)]
    decide
  have hbroad' : broad = [⟨[], 0⟩, ⟨[0], 1⟩, ⟨[2], 1⟩, ⟨[0, 0], 2⟩, ⟨[2, 0], 2⟩] := by
    rw [← hbroad.nodes_run (m := 6) (by decide)]
    decide
  obtain ⟨below, hblock, hwalk, hnodes⟩ := hblocks ⟨[2], 1⟩ (by rw [hdeep']; decide)
  obtain ⟨below', hpart, hwalk', hnodes'⟩ := hparts ⟨[0], 1⟩ (by rw [hbroad']; decide)
  have hbelow : ⟨[2], 1⟩ :: below = [⟨[2], 1⟩, ⟨[2, 0], 2⟩] := by
    rw [← hwalk.nodes_run (m := 3) (by decide)]
    decide
  have hbelow' : ⟨[0], 1⟩ :: below' = [⟨[0], 1⟩, ⟨[0, 0], 2⟩] := by
    rw [← hwalk'.nodes_run (m := 3) (by decide)]
    decide
  rw [hbelow] at hblock hnodes
  rw [hbelow'] at hpart hnodes'
  exact ⟨hfin, deep, broad, hdeep', hbroad', hblock, hnodes, hpart, hnodes'⟩

end Walk

end TreeExplorer
