/-
A walk over named nodes is the walk over all nodes with the others left out.
Left out is not only what is not named but also all that is below it, so the
walk keeps a node if it and every node above it, the root apart, is named
(`NodeView.Kept`).

In a tree a node has one way up, so whether a child is kept is decided by its
parent and its own name (`kept_child_iff`). That rule carries over to both
orders: what is kept of a pre-order or of a level is the pre-order or the level
of the named children (`filter_preorder`, `filter_level`), although the nodes
left out below one node are spread over all the later levels.
-/
import TreeExplorer.Proofs.Facts
import TreeExplorer.Proofs.Tree.Children
import TreeExplorer.Proofs.Walk.BreadthFirst
import TreeExplorer.Proofs.Walk.DepthFirst

namespace TreeExplorer

universe u

variable {ν : Type u}

namespace NodeView

open Relation (ReflTransGen TransGen)

/-- `c` is a child of `p`, named or not. -/
def Parent (view : NodeView ν) (p c : ν) : Prop :=
  c ∈ view.children false p

/-- What is below `root` is a finite tree, and its named children are those that
`named` tells. Slots may be empty. -/
structure NamedTree (view : NodeView ν) (named : ν → Bool) (root : ν) : Prop where
  finite : view.FiniteBelow false root
  parent_unique : ∀ {p p' c : ν}, ReflTransGen view.Parent root p → ReflTransGen view.Parent root p' →
    view.Parent p c → view.Parent p' c → p = p'
  named_children : ∀ {p : ν}, ReflTransGen view.Parent root p →
    view.children true p = (view.children false p).filter named

/-- The node is named, and so is every node above it, as far as they are below
the root. -/
def Kept (view : NodeView ν) (named : ν → Bool) (root v : ν) : Prop :=
  ∀ a, TransGen view.Parent root a → ReflTransGen view.Parent a v → named a = true

variable {view : NodeView ν} {named : ν → Bool} {root : ν}

theorem reaches_of_mem_level {d : Nat} {v : ν} (h : v ∈ view.level false d root) :
    ReflTransGen view.Parent root v := by
  induction d generalizing v with
  | zero => rw [List.mem_singleton.1 h]
  | succ d ih =>
    obtain ⟨p, hp, hc⟩ := List.mem_flatMap.1 h
    exact (ih hp).tail hc

/-! ## What is kept -/

theorem NamedTree.kept_root (h : view.NamedTree named root) : view.Kept named root root := by
  intro a hroot ha
  exact absurd (hroot.trans_left ha) (h.finite.not_cycle .refl)

/-- Whether a node is kept is decided one step above it. -/
theorem NamedTree.kept_child_iff (h : view.NamedTree named root) {p c : ν}
    (hp : ReflTransGen view.Parent root p) (hc : view.Parent p c) :
    view.Kept named root c ↔ view.Kept named root p ∧ named c = true := by
  constructor
  · intro hkept
    refine ⟨fun a hroot ha => hkept a hroot (ha.tail hc), ?_⟩
    exact hkept c (TransGen.tail' hp hc) .refl
  · rintro ⟨hkept, hnamed⟩ a hroot ha
    rcases ha.cases_tail with rfl | ⟨p', ha, hc'⟩
    · exact hnamed
    · -- The last step of the way down to `c` starts at its only parent.
      have hp' := hroot.to_reflTransGen.trans ha
      obtain rfl := h.parent_unique hp hp' hc hc'
      exact hkept a hroot ha

/-! ## The two orders of what is kept -/

section Filter

-- `keep` is a test that passes from parent to child the way `Kept` does.
variable {keep : ν → Bool} (h : view.NamedTree named root)
  (hkeep : ∀ {p c : ν}, ReflTransGen view.Parent root p → view.Parent p c →
    keep c = (keep p && named c))

include h hkeep

theorem filter_children {p : ν} (hp : ReflTransGen view.Parent root p) :
    (view.children false p).filter keep = if keep p then view.children true p else [] := by
  have hstep : ∀ c ∈ view.children false p, keep c = (keep p && named c) :=
    fun c hc => hkeep hp hc
  rw [List.filter_congr hstep, h.named_children hp]
  cases keep p <;> simp

theorem filter_preorder (d : Nat) {v : ν} (hv : ReflTransGen view.Parent root v) :
    (view.preorder false d v).filter keep = if keep v then view.preorder true d v else [] := by
  induction d generalizing v with
  | zero => cases hkv : keep v <;> simp [preorder, hkv]
  | succ d ih =>
    have hbelow : ∀ c ∈ view.children false v,
        (view.preorder false d c).filter keep = if keep c then view.preorder true d c else [] :=
      fun c hc => ih (hv.tail hc)
    rw [preorder, preorder, List.filter_cons, List.filter_flatMap, List.flatMap_congr hbelow,
      ← flatMap_filter, filter_children h hkeep hv]
    cases keep v <;> simp

theorem filter_level (hroot : keep root = true) (d : Nat) :
    (view.level false d root).filter keep = view.level true d root := by
  induction d with
  | zero => simp [level, hroot]
  | succ d ih =>
    have hbelow : ∀ v ∈ view.level false d root,
        (view.children false v).filter keep = if keep v then view.children true v else [] :=
      fun v hv => filter_children h hkeep (reaches_of_mem_level hv)
    rw [level, level, ← ih, List.filter_flatMap, List.flatMap_congr hbelow, ← flatMap_filter]

theorem filter_levels (hroot : keep root = true) (d : Nat) :
    (view.levels false d [root]).filter keep = view.levels true d [root] := by
  rw [levels_singleton, levels_singleton, List.filter_flatMap]
  simp only [filter_level h hkeep hroot]

end Filter

end NodeView

namespace SyntaxTree

/-- The table of a syntax tree shows a tree below each of its nodes. -/
theorem namedTree_view {t : SyntaxTree} (h : t.Indexed) (hd : t.Descending) (root : Nat) :
    t.view.NamedTree t.isNamed root where
  finite := finiteBelow_view hd false root
  parent_unique := by
    intro p p' c _ _ hc hc'
    have hp := mem_children.1 ((t.children_view_sublist false p).mem hc)
    have hp' := mem_children.1 ((t.children_view_sublist false p').mem hc')
    exact Option.some.inj (hp.symm.trans hp')
  named_children := by
    intro p _
    rw [namedChildren_view (h.length_children_le p), children_view (h.length_children_le p)]

/-- A tree whose root is not named: below it are 1, not named, with 2 below it,
then 3 with 4 and 5, and then 6. Of these, 2, 3, 4 and 6 are named. -/
def mixed : SyntaxTree where
  rows := [(none, false), (some 0, false), (some 1, true), (some 0, true), (some 3, true),
      (some 3, false), (some 0, true)].map fun (parent, named) =>
    { parent, named, kind := "node", isError := false, isMissing := false, startByte := 0,
      endByte := 0, start := ⟨0, 0⟩, stop := ⟨0, 0⟩ }

theorem namedTree_mixed : mixed.view.NamedTree mixed.isNamed 0 :=
  namedTree_view (by decide) (by decide) 0

end SyntaxTree

namespace Walk

open Classical in
/-- **A walk over named nodes is a part of the walk over all.** Over a finite tree
both end, and the named walk gives out, in the same order, the nodes that are
named together with every node above them, the root not asked. So the root is
always given out first, and nothing at or below a node that is not named. -/
theorem namedOnly_eq_filter (view : NodeView ν) (named : ν → Bool) (root : ν) (mode : Mode)
    (h : view.NamedTree named root) :
    ∃ all : List ν, (start root mode false).Drains view all ∧
      (start root mode true).Drains view (all.filter fun v => view.Kept named root v) ∧
      (all.filter fun v => view.Kept named root v).head? = some root ∧
      ∀ a v, Relation.TransGen view.Parent root a → named a = false →
        Relation.ReflTransGen view.Parent a v → v ∉ all.filter fun v => view.Kept named root v := by
  obtain ⟨d, hd⟩ := h.finite.level_nil
  have hall : view.level false (d + 1) root = [] := hd _ .top
  have hroot : decide (view.Kept named root root) = true := decide_eq_true h.kept_root
  have hkeep : ∀ {p c : ν}, Relation.ReflTransGen view.Parent root p → view.Parent p c →
      decide (view.Kept named root c) = (decide (view.Kept named root p) && named c) := by
    intro p c hp hc
    rw [Bool.eq_iff_iff, Bool.and_eq_true, decide_eq_true_iff, decide_eq_true_iff]
    exact h.kept_child_iff hp hc
  have hnamed : view.level true (d + 1) root = [] := by
    rw [← NodeView.filter_level h hkeep hroot, hall, List.filter_nil]
  have hdrains : ∃ all : List ν, (start root mode false).Drains view all ∧
      (start root mode true).Drains view (all.filter fun v => view.Kept named root v) := by
    cases mode with
    | depthFirst =>
      refine ⟨_, drains_depthFirst hall, ?_⟩
      rw [NodeView.filter_preorder h hkeep d .refl, if_pos hroot]
      exact drains_depthFirst hnamed
    | breadthFirst =>
      refine ⟨_, drains_breadthFirst hall, ?_⟩
      rw [NodeView.filter_levels h hkeep hroot]
      exact drains_breadthFirst hnamed
  obtain ⟨all, hfull, hpart⟩ := hdrains
  refine ⟨all, hfull, hpart, hpart.head?_start, fun a v ha hanon hv hmem => ?_⟩
  have hkept : view.Kept named root v := of_decide_eq_true (List.mem_filter.1 hmem).2
  rw [hkept a ha hv] at hanon
  cases hanon

open Classical in
/-- Of `SyntaxTree.mixed` the named walk keeps the root, drops 1 with the named
node below it, and drops 5. -/
theorem named_mixed : SyntaxTree.mixed.view.NamedTree SyntaxTree.mixed.isNamed 0 ∧
    (start 0 .breadthFirst false).Drains SyntaxTree.mixed.view [0, 1, 3, 6, 2, 4, 5] ∧
    ([0, 1, 3, 6, 2, 4, 5].filter fun v =>
      SyntaxTree.mixed.view.Kept SyntaxTree.mixed.isNamed 0 v) = [0, 3, 6, 4] := by
  have htree := SyntaxTree.namedTree_mixed
  obtain ⟨all, hfull, hpart, -⟩ :=
    namedOnly_eq_filter SyntaxTree.mixed.view SyntaxTree.mixed.isNamed 0 .breadthFirst htree
  have hall : all = [0, 1, 3, 6, 2, 4, 5] := by
    rw [← hfull.nodes_run (m := 8) (by decide)]
    decide
  subst hall
  refine ⟨htree, hfull, ?_⟩
  rw [← hpart.nodes_run (m := 8) (by decide)]
  decide

end Walk

end TreeExplorer
