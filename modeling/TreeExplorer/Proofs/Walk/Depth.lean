/-
The two orders of a walk agree up to depth. Over a finite tree both give out
every place once, and the breadth-first walk is the depth-first walk sorted by
depth, with places of one depth left in the order they had.

Neither walk follows the other pull by pull. What they share is the levels: the
places of depth `d` in a pre-order, in the order they have there, are level `d`
(`filter_depth_preorder`), and a list sorted by a key is made up of its parts of
equal key (`eq_of_filter_key_eq`).
-/
import Mathlib.Data.List.Sort
import TreeExplorer.Proofs.Walk.BreadthFirst
import TreeExplorer.Proofs.Walk.DepthFirst

namespace TreeExplorer

universe u

variable {ν : Type u}

/-! ## Lists sorted by a key -/

section Key

variable {α : Type u} (key : α → Nat)

theorem mem_of_filter_key_eq {l₁ l₂ : List α}
    (h : ∀ k, l₁.filter (fun a => key a == k) = l₂.filter (fun a => key a == k)) {a : α}
    (ha : a ∈ l₁) : a ∈ l₂ := by
  have hmem : a ∈ l₁.filter (fun b => key b == key a) := List.mem_filter.2 ⟨ha, beq_self_eq_true _⟩
  rw [h] at hmem
  exact (List.mem_filter.1 hmem).1

/-- A sorted list is known by its parts of equal key. -/
theorem eq_of_filter_key_eq : ∀ {l₁ l₂ : List α},
    l₁.Pairwise (fun a b => key a ≤ key b) → l₂.Pairwise (fun a b => key a ≤ key b) →
    (∀ k, l₁.filter (fun a => key a == k) = l₂.filter (fun a => key a == k)) → l₁ = l₂
  | [], [], _, _, _ => rfl
  | [], b :: _, _, _, h => by
    have hb := mem_of_filter_key_eq key (fun k => (h k).symm) (a := b) List.mem_cons_self
    simp at hb
  | a :: _, [], _, _, h => by
    have ha := mem_of_filter_key_eq key h (a := a) List.mem_cons_self
    simp at ha
  | a :: l₁, b :: l₂, h₁, h₂, h => by
    obtain ⟨ha, ht₁⟩ := List.pairwise_cons.1 h₁
    obtain ⟨hb, ht₂⟩ := List.pairwise_cons.1 h₂
    -- Each head is somewhere in the other list, so neither has the smaller key.
    have hba : key b ≤ key a := by
      rcases List.mem_cons.1 (mem_of_filter_key_eq key h (a := a) List.mem_cons_self) with rfl | hm
      · exact Nat.le_refl _
      · exact hb a hm
    have hab : key a ≤ key b := by
      rcases List.mem_cons.1
        (mem_of_filter_key_eq key (fun k => (h k).symm) (a := b) List.mem_cons_self) with rfl | hm
      · exact Nat.le_refl _
      · exact ha b hm
    have hkey : key b = key a := Nat.le_antisymm hba hab
    have hhead := h (key a)
    simp only [List.filter_cons, beq_self_eq_true, hkey, if_true, List.cons.injEq] at hhead
    obtain ⟨rfl, -⟩ := hhead
    have htail : ∀ k, l₁.filter (fun a => key a == k) = l₂.filter (fun a => key a == k) := by
      intro k
      have hk := h k
      by_cases hak : (key a == k) = true
      · simpa only [List.filter_cons, hak, if_true, List.cons.injEq, true_and] using hk
      · simpa only [List.filter_cons, hak, Bool.false_eq_true, if_false] using hk
    rw [eq_of_filter_key_eq ht₁ ht₂ htail]

theorem key_le_trans (a b c : α) (hab : decide (key a ≤ key b) = true)
    (hbc : decide (key b ≤ key c) = true) : decide (key a ≤ key c) = true := by
  simp only [decide_eq_true_eq] at hab hbc ⊢
  exact Nat.le_trans hab hbc

theorem key_le_total (a b : α) : (decide (key a ≤ key b) || decide (key b ≤ key a)) = true := by
  simpa using Nat.le_total (key a) (key b)

/-- Sorting by a key leaves the elements of one key as they were. -/
theorem filter_key_mergeSort (l : List α) (k : Nat) :
    (l.mergeSort fun a b => key a ≤ key b).filter (fun a => key a == k) =
      l.filter fun a => key a == k := by
  have hsub : (l.filter fun a => key a == k).Sublist (l.mergeSort fun a b => key a ≤ key b) := by
    refine List.sublist_mergeSort (key_le_trans key) (key_le_total key) ?_ List.filter_sublist
    refine List.pairwise_of_forall_mem_list fun a ha b hb => ?_
    simp only [List.mem_filter, beq_iff_eq] at ha hb
    simp [ha.2, hb.2]
  have hfilter := hsub.filter (fun a => key a == k)
  rw [List.filter_filter] at hfilter
  simp only [Bool.and_self] at hfilter
  refine (hfilter.eq_of_length ?_).symm
  exact ((List.mergeSort_perm l _).filter _).length_eq.symm

end Key

namespace NodeView

variable {view : NodeView ν} {namedOnly : Bool}

/-! ## Places of one depth -/

theorem depth_le_of_mem_preorder {d : Nat} {o x : Occurrence ν}
    (h : x ∈ view.unfolding.preorder namedOnly d o) : o.depth ≤ x.depth := by
  induction d generalizing o with
  | zero => rw [List.mem_singleton.1 h]
  | succ d ih =>
    rcases List.mem_cons.1 h with rfl | h
    · exact Nat.le_refl _
    · obtain ⟨c, hc, hx⟩ := List.mem_flatMap.1 h
      have hle := ih hx
      rw [depth_of_mem_children hc] at hle
      omega

/-- The places `j` steps below a place, in the order a pre-order has them, are
its level `j`, as far as the pre-order goes down. -/
theorem filter_depth_preorder (d j : Nat) (o : Occurrence ν) :
    (view.unfolding.preorder namedOnly d o).filter (fun x => x.depth == o.depth + j) =
      if j ≤ d then view.unfolding.level namedOnly j o else [] := by
  induction d generalizing j o with
  | zero =>
    cases j with
    | zero => simp [preorder, level]
    | succ j => simp [preorder]
  | succ d ih =>
    cases j with
    | zero =>
      have hbelow : ∀ c ∈ view.unfolding.children namedOnly o,
          (view.unfolding.preorder namedOnly d c).filter (fun x => x.depth == o.depth + 0) = [] := by
        intro c hc
        rw [List.filter_eq_nil_iff]
        intro x hx
        have hle := depth_le_of_mem_preorder hx
        rw [depth_of_mem_children hc] at hle
        simp only [beq_iff_eq]
        omega
      have hnil := List.flatMap_eq_nil_iff.2 hbelow
      rw [preorder, List.filter_cons_of_pos (by simp), List.filter_flatMap, hnil]
      simp [level]
    | succ j =>
      rw [preorder, List.filter_cons_of_neg (by simp), List.filter_flatMap]
      have hbelow : ∀ c ∈ view.unfolding.children namedOnly o,
          (view.unfolding.preorder namedOnly d c).filter (fun x => x.depth == o.depth + (j + 1)) =
            if j ≤ d then view.unfolding.level namedOnly j c else [] := by
        intro c hc
        rw [← ih j c, depth_of_mem_children hc, Nat.add_assoc, Nat.add_comm 1 j]
      rw [List.flatMap_congr hbelow, level_succ_eq]
      by_cases hj : j ≤ d
      · simp [hj]
      · simp [hj]

theorem filter_depth_levels (d j : Nat) (root : ν) :
    (view.unfolding.levels namedOnly d [.top root]).filter (fun x => x.depth == j) =
      if j ≤ d then view.unfolding.level namedOnly j (.top root) else [] := by
  have hlevel : ∀ i, (view.unfolding.level namedOnly i (.top root)).filter (fun x => x.depth == j) =
      if j = i then view.unfolding.level namedOnly j (.top root) else [] := by
    intro i
    by_cases hi : j = i
    · subst hi
      rw [if_pos rfl, List.filter_eq_self]
      intro x hx
      simpa using (mem_level_top.1 hx).2
    · rw [if_neg hi, List.filter_eq_nil_iff]
      intro x hx
      have hx' := (mem_level_top.1 hx).2
      simp only [beq_iff_eq]
      omega
  induction d with
  | zero =>
    have hzero := hlevel 0
    simpa [levels, level] using hzero
  | succ d ih =>
    rw [levels_succ_singleton, List.filter_append, ih, hlevel]
    by_cases hj : j ≤ d
    · have hne : j ≠ d + 1 := by omega
      have hle : j ≤ d + 1 := by omega
      simp [hj, hne, hle]
    · by_cases he : j = d + 1
      · simp [he]
      · have hgt : ¬j ≤ d + 1 := by omega
        simp [hj, he, hgt]

theorem filter_depth_levels_eq_preorder (d j : Nat) (root : ν) :
    (view.unfolding.levels namedOnly d [.top root]).filter (fun x => x.depth == j) =
      (view.unfolding.preorder namedOnly d (.top root)).filter (fun x => x.depth == j) := by
  have hpre : (view.unfolding.preorder namedOnly d (.top root)).filter
      (fun x => x.depth == (Occurrence.top root).depth + j) = _ := filter_depth_preorder d j _
  rw [Occurrence.depth_top, Nat.zero_add] at hpre
  rw [filter_depth_levels, hpre]

/-- Sorting a pre-order by depth gives the levels. -/
theorem levels_eq_mergeSort_preorder (d : Nat) (root : ν) :
    view.unfolding.levels namedOnly d [.top root] =
      (view.unfolding.preorder namedOnly d (.top root)).mergeSort
        (fun o o' => o.depth ≤ o'.depth) := by
  have htotal : Std.Total fun o o' : Occurrence ν => o.depth ≤ o'.depth :=
    ⟨fun _ _ => Nat.le_total _ _⟩
  have htrans : IsTrans (Occurrence ν) fun o o' => o.depth ≤ o'.depth :=
    ⟨fun _ _ _ => Nat.le_trans⟩
  refine eq_of_filter_key_eq Occurrence.depth (pairwise_depth_levels d root)
    (List.pairwise_mergeSort' _ _) fun k => ?_
  rw [filter_key_mergeSort, filter_depth_levels_eq_preorder]

end NodeView

namespace Walk

/-- **The two orders agree up to depth.** Over a finite tree both walks end, and
give out each of its places exactly once. Sorted by depth, places of one depth
kept in order, the depth-first walk is the breadth-first one. -/
theorem breadthFirst_eq_mergeSort_depthFirst (view : NodeView ν) (root : ν) (namedOnly : Bool)
    (h : view.FiniteBelow namedOnly root) :
    ∃ deep broad : List (Occurrence ν),
      (start (.top root) .depthFirst namedOnly).Drains view.unfolding deep ∧
      (start (.top root) .breadthFirst namedOnly).Drains view.unfolding broad ∧
      (start root .depthFirst namedOnly).Drains view (deep.map (·.node)) ∧
      (start root .breadthFirst namedOnly).Drains view (broad.map (·.node)) ∧
      broad = deep.mergeSort (fun o o' => o.depth ≤ o'.depth) ∧
      (∀ d, broad.filter (fun o => o.depth == d) = deep.filter (fun o => o.depth == d)) ∧
      broad.Perm deep ∧ deep.Nodup ∧ ∀ o, o ∈ deep ↔ view.Occurs namedOnly root o := by
  obtain ⟨d, hd⟩ := h.level_nil
  have hroot : view.level namedOnly (d + 1) root = [] := hd _ .top
  have hnil : view.unfolding.level namedOnly (d + 1) (.top root) = [] := by
    rw [← List.map_eq_nil_iff, NodeView.map_node_level]
    exact hroot
  have hdeep := drains_depthFirst hnil
  have hbroad := drains_breadthFirst hnil
  have hsort : view.unfolding.levels namedOnly d [.top root] = _ :=
    NodeView.levels_eq_mergeSort_preorder d root
  have hperm : (view.unfolding.levels namedOnly d [.top root]).Perm
      (view.unfolding.preorder namedOnly d (.top root)) := by
    rw [hsort]
    exact List.mergeSort_perm _ _
  refine ⟨_, _, hdeep, hbroad, hdeep.map_node, hbroad.map_node, hsort,
    fun j => NodeView.filter_depth_levels_eq_preorder d j root, hperm, hdeep.nodup, fun o => ?_⟩
  rw [← hperm.mem_iff, NodeView.mem_levels_top, and_iff_left_iff_imp]
  intro ho
  exact Nat.le_of_lt_succ (ho.depth_lt hroot)

/-- `NodeView.twins` has the two children of its root next to each other when
sorted by depth, and what is below each right after it otherwise. -/
theorem sorted_twins : NodeView.twins.FiniteBelow false 0 ∧
    ∃ deep broad : List (Occurrence Nat), deep.map (·.node) = [0, 1, 2, 1, 2] ∧
      broad.map (·.node) = [0, 1, 1, 2, 2] ∧
      broad = deep.mergeSort (fun o o' => o.depth ≤ o'.depth) := by
  have hfin := NodeView.finiteBelow_twins
  obtain ⟨deep, broad, -, -, hdeep, hbroad, hsort, -⟩ :=
    breadthFirst_eq_mergeSort_depthFirst NodeView.twins 0 false hfin
  refine ⟨hfin, deep, broad, ?_, ?_, hsort⟩
  · rw [← hdeep.nodes_run (m := 6) (by decide)]
    decide
  · rw [← hbroad.nodes_run (m := 6) (by decide)]
    decide

end Walk

end TreeExplorer
