/-
The children of a node of a syntax tree, read off the table of rows. A row names
its parent, so a node has one parent; the named children are the children whose
rows are named. Looking a child up fails from index 2^32 on, so the accessors give
out all the children of a node only where it has no more than numbers of 32 bits can
index. Where every row comes after the row of its parent, the tree below any node is
finite.
-/
import TreeExplorer.Proofs.Facts
import TreeExplorer.Proofs.Walk.Order
import TreeExplorer.Tree.Basic

namespace TreeExplorer.SyntaxTree

/-- Whether a node is named. -/
def isNamed (t : SyntaxTree) (n : Nat) : Bool :=
  ((t.row? n).map (·.named)).getD false

/-- Every index of the table fits in 32 bits. -/
def Indexed (t : SyntaxTree) : Prop :=
  t.rows.length ≤ maxWord + 1

/-- Every row comes after the row of its parent. -/
def Descending (t : SyntaxTree) : Prop :=
  ∀ c < t.rows.length, ∀ p ∈ (t.row? c).bind (·.parent), p < c

instance (t : SyntaxTree) : Decidable t.Indexed :=
  inferInstanceAs (Decidable (_ ≤ _))

instance (t : SyntaxTree) : Decidable t.Descending :=
  inferInstanceAs (Decidable (∀ c < t.rows.length, ∀ p ∈ (t.row? c).bind (·.parent), p < c))

variable {t : SyntaxTree}

/-! ## Children by the table -/

theorem mem_children {n c : Nat} : c ∈ t.children n ↔ (t.row? c).bind (·.parent) = some n := by
  simp only [children, row?, List.mem_map, List.mem_filter, beq_iff_eq, Option.bind_eq_some_iff]
  constructor
  · rintro ⟨⟨r, i⟩, ⟨hr, hp⟩, rfl⟩
    exact ⟨r, List.mem_zipIdx_iff_getElem?.1 hr, hp⟩
  · rintro ⟨r, hr, hp⟩
    exact ⟨(r, c), ⟨List.mem_zipIdx_iff_getElem?.2 hr, hp⟩, rfl⟩

theorem lt_length_of_row? {n : Nat} {r : Row} (h : t.row? n = some r) : n < t.rows.length :=
  (List.getElem?_eq_some_iff.1 h).1

theorem lt_length_of_mem_children {n c : Nat} (h : c ∈ t.children n) : c < t.rows.length := by
  obtain ⟨r, hr, -⟩ := Option.bind_eq_some_iff.1 (mem_children.1 h)
  exact lt_length_of_row? hr

/-- The numbers of the rows that pass a test come in the order of the table. -/
theorem pairwise_lt_numbers (rows : List Row) (f : Row × Nat → Bool) :
    ((rows.zipIdx.filter f).map (·.2)).Pairwise (· < ·) := by
  have hall : (rows.zipIdx.map (·.2)).Pairwise (· < ·) := by
    rw [List.zipIdx_map_snd]
    exact List.pairwise_lt_range'
  exact hall.sublist (List.filter_sublist.map _)

theorem namedChildren_eq_filter (n : Nat) : t.namedChildren n = (t.children n).filter t.isNamed := by
  rw [namedChildren, children, List.filter_map, List.filter_filter]
  congr 1
  refine List.filter_congr fun r hr => ?_
  have hrow : t.row? r.2 = some r.1 := List.mem_zipIdx_iff_getElem?.1 hr
  simp [isNamed, hrow, Bool.and_comm]

theorem length_children_le (n : Nat) : (t.children n).length ≤ t.rows.length := by
  rw [children, List.length_map, ← List.length_zipIdx (l := t.rows) (i := 0)]
  exact List.length_filter_le _ _

/-! ## Children by the accessors -/

/-- The accessors give out as many children as indices of 32 bits reach. -/
theorem filterMap_pick (nodes : List Nat) (count : Nat) :
    (List.range count).filterMap (pick nodes) = (nodes.take (maxWord + 1)).take count := by
  have hpick : pick nodes = fun i => (nodes.take (maxWord + 1))[i]? := by
    funext i
    rw [pick, List.getElem?_take]
    simp only [Nat.lt_succ_iff]
  rw [hpick, filterMap_getElem?_range]

theorem filterMap_pick_length {nodes : List Nat} (h : nodes.length ≤ maxWord + 1) :
    (List.range nodes.length).filterMap (pick nodes) = nodes := by
  rw [filterMap_pick, List.take_of_length_le h, List.take_length]

theorem children_view {n : Nat} (h : (t.children n).length ≤ maxWord + 1) :
    t.view.children false n = t.children n :=
  filterMap_pick_length h

theorem namedChildren_view {n : Nat} (h : (t.children n).length ≤ maxWord + 1) :
    t.view.children true n = (t.children n).filter t.isNamed := by
  rw [← namedChildren_eq_filter]
  refine filterMap_pick_length (Nat.le_trans ?_ h)
  rw [namedChildren_eq_filter]
  exact List.length_filter_le _ _

theorem Indexed.length_children_le (h : t.Indexed) (n : Nat) :
    (t.children n).length ≤ maxWord + 1 :=
  Nat.le_trans (SyntaxTree.length_children_le n) h

/-- However many children there are, those that the accessors give out are among them
and in their order. -/
theorem children_view_sublist (t : SyntaxTree) (namedOnly : Bool) (n : Nat) :
    (t.view.children namedOnly n).Sublist (t.children n) := by
  have hpick : ∀ nodes count, ((List.range count).filterMap (pick nodes)).Sublist nodes := by
    intro nodes count
    rw [filterMap_pick]
    exact (List.take_sublist _ _).trans (List.take_sublist _ _)
  cases namedOnly with
  | false => exact hpick _ _
  | true =>
    refine (hpick (t.namedChildren n) _).trans ?_
    rw [namedChildren_eq_filter]
    exact List.filter_sublist

/-! ## Finiteness -/

/-- Going down, numbers grow. -/
theorem le_of_mem_level {namedOnly : Bool} (hd : t.Descending) {d root n : Nat}
    (hn : n ∈ t.view.level namedOnly d root) : root + d ≤ n := by
  induction d generalizing n with
  | zero => exact Nat.le_of_eq (List.mem_singleton.1 hn).symm
  | succ d ih =>
    obtain ⟨p, hp, hc⟩ := List.mem_flatMap.1 hn
    have hc := (t.children_view_sublist namedOnly p).mem hc
    have hlt := hd n (lt_length_of_mem_children hc) p (mem_children.1 hc)
    have hle := ih hp
    omega

theorem finiteBelow_view (hd : t.Descending) (namedOnly : Bool) (root : Nat) :
    t.view.FiniteBelow namedOnly root := by
  refine NodeView.finiteBelow_iff.2 ⟨t.rows.length + 1, List.eq_nil_iff_forall_not_mem.2 fun n hn => ?_⟩
  -- So deep a node would have a number beyond the table, and it is the child of another.
  have hle := le_of_mem_level hd hn
  obtain ⟨p, -, hc⟩ := List.mem_flatMap.1 hn
  have hlt := lt_length_of_mem_children ((t.children_view_sublist namedOnly p).mem hc)
  omega

end TreeExplorer.SyntaxTree
