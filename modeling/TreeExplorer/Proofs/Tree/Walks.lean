/-
Walks of a whole table. A row names one parent and joins the frontier when this
parent goes out, so a walk from the root meets each row at most once
(`Front.step`). There are then no more nodes than rows, and the walk comes to its
end (`Rooted.exists_drains`). Nothing else is asked of the table: rows that the
root does not lead to may name one another as they like.
-/
import Mathlib.Data.List.Nodup
import Mathlib.Data.List.Perm.Subperm
import TreeExplorer.Proofs.Tree.Children

namespace TreeExplorer.SyntaxTree

/-- The first row is a root: it names no parent. -/
def Rooted (t : SyntaxTree) : Prop :=
  ∃ r, t.row? 0 = some r ∧ r.parent = none

variable {t : SyntaxTree} {mode : Mode} {namedOnly : Bool}

/-! ## Children -/

theorem nodup_children (t : SyntaxTree) (n : Nat) : (t.children n).Nodup :=
  (pairwise_lt_numbers t.rows _).imp Nat.ne_of_lt

theorem nodup_children_view (t : SyntaxTree) (namedOnly : Bool) (n : Nat) :
    (t.view.children namedOnly n).Nodup :=
  (t.nodup_children n).sublist (t.children_view_sublist namedOnly n)

theorem parent_of_mem_children_view {n c : Nat} (h : c ∈ t.view.children namedOnly n) :
    (t.row? c).bind (·.parent) = some n :=
  mem_children.1 ((t.children_view_sublist namedOnly n).mem h)

/-! ## Rows are met once -/

/-- A walk under way: no row is both given out and ready, or twice either, and a
row's parent has been given out before it. -/
structure Front (t : SyntaxTree) (out ready : List Nat) : Prop where
  nodup : (out ++ ready).Nodup
  lt_length : ∀ n ∈ out ++ ready, n < t.rows.length
  parent_mem : ∀ n ∈ out ++ ready, ∀ p, (t.row? n).bind (·.parent) = some p → p ∈ out

theorem Rooted.front (h : t.Rooted) : t.Front [] [0] := by
  obtain ⟨r, hr, hparent⟩ := h
  refine ⟨List.nodup_singleton 0, ?_, ?_⟩
  · intro n hn
    rw [List.mem_singleton.1 hn]
    exact lt_length_of_row? hr
  · intro n hn p hp
    rw [List.mem_singleton.1 hn, hr, Option.bind_some, hparent] at hp
    cases hp

theorem Front.length_le {out ready : List Nat} (h : t.Front out ready) :
    out.length ≤ t.rows.length := by
  have hsubset : out ⊆ List.range t.rows.length :=
    fun n hn => List.mem_range.2 (h.lt_length n (List.mem_append_left _ hn))
  have hnodup : out.Nodup := (List.nodup_append.1 h.nodup).1
  have hle := (List.subperm_of_subset hnodup hsubset).length_le
  rwa [List.length_range] at hle

/-- Giving out a node keeps the front: the children that join are new, for their
parent had not been given out. -/
theorem Front.step {out rest : List Nat} {n : Nat} (h : t.Front out (n :: rest)) :
    t.Front (out ++ [n]) (Walk.enqueue mode (t.view.children namedOnly n) rest) := by
  have hperm : (out ++ [n] ++ Walk.enqueue mode (t.view.children namedOnly n) rest).Perm
      ((out ++ n :: rest) ++ t.view.children namedOnly n) := by
    have henqueue := (Walk.enqueue_perm mode (t.view.children namedOnly n) rest).trans
      List.perm_append_comm
    simpa using henqueue.append_left (out ++ [n])
  have hout : n ∉ out := fun hn =>
    (List.nodup_append.1 h.nodup).2.2 n hn n List.mem_cons_self rfl
  have hnew : ∀ c ∈ t.view.children namedOnly n, c ∉ out ++ n :: rest := by
    intro c hc hold
    exact hout (h.parent_mem c hold n (parent_of_mem_children_view hc))
  refine ⟨?_, ?_, ?_⟩
  · rw [hperm.nodup_iff, List.nodup_append]
    refine ⟨h.nodup, t.nodup_children_view namedOnly n, ?_⟩
    rintro a ha b hb rfl
    exact hnew a hb ha
  · intro c hc
    rcases List.mem_append.1 (hperm.mem_iff.1 hc) with hold | hchild
    · exact h.lt_length c hold
    · exact lt_length_of_mem_children (mem_children.2 (parent_of_mem_children_view hchild))
  · intro c hc p hp
    rcases List.mem_append.1 (hperm.mem_iff.1 hc) with hold | hchild
    · exact List.mem_append_left _ (h.parent_mem c hold p hp)
    · rw [parent_of_mem_children_view hchild] at hp
      cases hp
      exact List.mem_append_right _ (List.mem_singleton.2 rfl)

theorem Front.visit {out ready : List Nat} (h : t.Front out ready) (k : Nat) :
    ∃ later, t.Front (out ++ Walk.visit t.view mode namedOnly k ready) later := by
  induction k generalizing out ready with
  | zero => exact ⟨ready, by simpa [Walk.visit] using h⟩
  | succ k ih =>
    cases ready with
    | nil => exact ⟨[], by simpa using h⟩
    | cons n rest =>
      obtain ⟨later, hlater⟩ := ih h.step
      refine ⟨later, ?_⟩
      rwa [List.append_assoc] at hlater

/-! ## Whole walks -/

/-- A walk from the root comes to its end, after no more nodes than the table has
rows, all of them rows of the table. -/
theorem Rooted.exists_drains (h : t.Rooted) (mode : Mode) (namedOnly : Bool) :
    ∃ nodes, (Walk.start 0 mode namedOnly).Drains t.view nodes ∧ nodes.length ≤ t.rows.length ∧
      ∀ n ∈ nodes, n < t.rows.length := by
  have hfront : ∀ k, ∃ later, t.Front (Walk.visit t.view mode namedOnly k [0]) later := by
    intro k
    exact h.front.visit k
  refine ⟨Walk.visit t.view mode namedOnly (t.rows.length + 1) [0], ?_, ?_, ?_⟩
  · refine Walk.drains_iff.2 fun m => ?_
    rw [Walk.nodes_run_start]
    rcases Nat.le_total m (t.rows.length + 1) with hle | hge
    · exact (Walk.take_visit mode namedOnly hle [0]).symm
    · -- So long a run has given out everything, and more pulls add nothing.
      obtain ⟨later, hlater⟩ := hfront m
      have hlength := hlater.length_le
      rw [← Walk.take_visit mode namedOnly hge [0], List.take_take,
        List.take_of_length_le (by omega)]
  · obtain ⟨later, hlater⟩ := hfront (t.rows.length + 1)
    exact hlater.length_le
  · obtain ⟨later, hlater⟩ := hfront (t.rows.length + 1)
    exact fun n hn => hlater.lt_length n (List.mem_append_left _ hn)

end TreeExplorer.SyntaxTree
