/-
Tables in pre-order: every row after the first is a child of the row before it or of
a row above that one. Hence a row that is within another stays so when one goes back
row by row (`Preordered.within_of_le`), so that what is below a row are the rows right
behind it, and all that is below a child comes before all that is below a later one
(`Preordered.lt_of_within`). A depth-first walk over such a table counts
(`Preordered.drains_range'`), and the errors of a source come in the order of the rows.
-/
import Mathlib.Data.List.Sort
import Mathlib.Data.Set.Card
import Mathlib.Order.Interval.Finset.Nat
import Mathlib.Tactic.IntervalCases
import TreeExplorer.Proofs.Text.Blank
import TreeExplorer.Proofs.Tree.Walks
import TreeExplorer.Proofs.Walk.DepthFirst
import TreeExplorer.Tree.Source

namespace TreeExplorer

open Relation (ReflTransGen TransGen)

namespace SyntaxTree

/-- `p` is the parent of `c`. -/
def IsParent (t : SyntaxTree) (p c : Nat) : Prop :=
  (t.row? c).bind (·.parent) = some p

/-- `n` is `a`, or it is below it. -/
def Within (t : SyntaxTree) (a n : Nat) : Prop :=
  ReflTransGen t.IsParent a n

/-- The first row is the root, and the parent of any other is the row before it or a
row above that one. -/
structure Preordered (t : SyntaxTree) : Prop where
  root : t.Rooted
  parent : ∀ i, i + 1 < t.rows.length → ∃ p, t.IsParent p (i + 1) ∧ t.Within p i

/-- The children of a node are numbered with 32 bits, which is how the engine counts
them. -/
def Numbered (t : SyntaxTree) : Prop :=
  ∀ n, (t.children n).length ≤ maxWord + 1

variable {t : SyntaxTree}

/-! ## Parents -/

theorem IsParent.unique {p q c : Nat} (hp : t.IsParent p c) (hq : t.IsParent q c) : p = q :=
  Option.some.inj (hp.symm.trans hq)

theorem IsParent.lt_length {p c : Nat} (h : t.IsParent p c) : c < t.rows.length :=
  lt_length_of_mem_children (mem_children.2 h)

theorem Rooted.not_isParent (h : t.Rooted) (p : Nat) : ¬t.IsParent p 0 := by
  obtain ⟨r, hr, hparent⟩ := h
  intro hp
  rw [IsParent, hr, Option.bind_some, hparent] at hp
  cases hp

theorem Rooted.length_pos (h : t.Rooted) : 0 < t.rows.length := by
  obtain ⟨r, hr, -⟩ := h
  exact lt_length_of_row? hr

theorem Within.lt_length {a n : Nat} (h : t.Within a n) (ha : a < t.rows.length) :
    n < t.rows.length := by
  rcases h.cases_tail with rfl | ⟨p, -, hp⟩
  · exact ha
  · exact hp.lt_length

theorem child_view (h : t.Numbered) : t.view.Child false = t.IsParent := by
  funext p c
  rw [NodeView.Child, children_view (h p), mem_children, IsParent]

/-! ## Rows below a row -/

namespace Preordered

/-- One row back one is still within the same rows, but for the row itself. -/
theorem within_of_succ (h : t.Preordered) {a i : Nat} (ha : t.Within a (i + 1)) (hne : a ≠ i + 1) :
    t.Within a i := by
  rcases ha.cases_tail with heq | ⟨q, ha, hq⟩
  · exact absurd heq.symm hne
  · obtain ⟨p, hp, hi⟩ := h.parent i hq.lt_length
    obtain rfl := hp.unique hq
    exact ha.trans hi

theorem le_of_within (h : t.Preordered) {a n : Nat} (ha : t.Within a n) : a ≤ n := by
  induction n with
  | zero =>
    rcases ha.cases_tail with heq | ⟨p, -, hp⟩
    · exact Nat.le_of_eq heq.symm
    · exact absurd hp (h.root.not_isParent p)
  | succ n ih =>
    by_cases hne : a = n + 1
    · exact Nat.le_of_eq hne
    · exact Nat.le_succ_of_le (ih (h.within_of_succ ha hne))

theorem within_of_le (h : t.Preordered) {a b c : Nat} (hac : t.Within a c) (hab : a ≤ b)
    (hbc : b ≤ c) : t.Within a b := by
  induction hbc with
  | refl => exact hac
  | @step c hbc ih =>
    have hlt : a < c + 1 := Nat.lt_succ_of_le (Nat.le_trans hab hbc)
    exact ih (h.within_of_succ hac (Nat.ne_of_lt hlt))

theorem lt_of_isParent (h : t.Preordered) {p c : Nat} (hp : t.IsParent p c) : p < c := by
  cases c with
  | zero => exact absurd hp (h.root.not_isParent p)
  | succ i =>
    obtain ⟨q, hq, hi⟩ := h.parent i hp.lt_length
    obtain rfl := hp.unique hq
    exact Nat.lt_succ_of_le (h.le_of_within hi)

theorem descending (h : t.Preordered) : t.Descending :=
  fun _ _ _ hp => h.lt_of_isParent hp

/-- All that is below a child comes before all that is below a later one. -/
theorem lt_of_within (h : t.Preordered) {v c c' x y : Nat} (hc : t.IsParent v c)
    (hc' : t.IsParent v c') (hlt : c < c') (hx : t.Within c x) (hy : t.Within c' y) : x < y := by
  by_contra hge
  have hle : c' ≤ x := Nat.le_trans (h.le_of_within hy) (Nat.le_of_not_lt hge)
  -- The later child would be below the earlier one, and so would their parent.
  have hbetween : t.Within c c' := h.within_of_le hx (Nat.le_of_lt hlt) hle
  rcases hbetween.cases_tail with heq | ⟨q, hcq, hq⟩
  · omega
  · obtain rfl := hc'.unique hq
    have hcv := h.le_of_within hcq
    have hvc := h.lt_of_isParent hc
    omega

theorem within_zero_iff (h : t.Preordered) {n : Nat} : t.Within 0 n ↔ n < t.rows.length := by
  constructor
  · intro hn
    exact hn.lt_length h.root.length_pos
  · induction n using Nat.strong_induction_on with
    | _ n ih =>
      intro hn
      cases n with
      | zero => exact .refl
      | succ i =>
        obtain ⟨p, hp, -⟩ := h.parent i hn
        have hlt := h.lt_of_isParent hp
        exact (ih p hlt (by omega)).tail hp

/-- What is within a row is it and some number of rows right behind it. -/
theorem exists_within_iff (h : t.Preordered) {v : Nat} (hv : v < t.rows.length) :
    ∃ s, ∀ n, t.Within v n ↔ v ≤ n ∧ n < v + s := by
  classical
  -- The first row behind `v` that is not below it ends the block.
  have hout : ∃ n, v ≤ n ∧ ¬t.Within v n :=
    ⟨t.rows.length, Nat.le_of_lt hv, fun hn => absurd (hn.lt_length hv) (Nat.lt_irrefl _)⟩
  obtain ⟨hle, hend⟩ := Nat.find_spec hout
  refine ⟨Nat.find hout - v, fun n => ⟨fun hn => ⟨h.le_of_within hn, ?_⟩, fun ⟨hvn, hlt⟩ => ?_⟩⟩
  · by_contra hge
    exact hend (h.within_of_le hn hle (by omega))
  · by_contra hn
    exact Nat.find_min hout (show n < Nat.find hout by omega) ⟨hvn, hn⟩

/-! ## Walks -/

theorem pairwise_lt_preorder (h : t.Preordered) (hnum : t.Numbered) (d v : Nat) :
    (t.view.preorder false d v).Pairwise (· < ·) := by
  refine NodeView.pairwise_preorder ?_ ?_ d
  · intro a x _ hx
    rw [child_view hnum] at hx
    obtain ⟨c, hc, hx⟩ := TransGen.head'_iff.1 hx
    exact Nat.lt_of_lt_of_le (h.lt_of_isParent hc) (h.le_of_within hx)
  · intro a _
    rw [child_view hnum, children_view (hnum a)]
    refine (pairwise_lt_numbers t.rows _).imp_of_mem fun {c c'} hc hc' hlt x y hx hy => ?_
    exact h.lt_of_within (mem_children.1 hc) (mem_children.1 hc') hlt hx hy

/-- A depth-first walk gives out a row and the rows below it, counting. -/
theorem drains_range' (h : t.Preordered) (hnum : t.Numbered) {v s : Nat}
    (hs : ∀ n, t.Within v n ↔ v ≤ n ∧ n < v + s) :
    (Walk.start v .depthFirst false).Drains t.view (List.range' v s) := by
  obtain ⟨d, hd⟩ := (finiteBelow_view h.descending false v).level_nil
  have hlevel : t.view.level false (d + 1) v = [] := hd _ .top
  have hsorted := h.pairwise_lt_preorder hnum d v
  have hmem : ∀ n, n ∈ t.view.preorder false d v ↔ n ∈ List.range' v s := by
    intro n
    rw [List.mem_range'_1, ← hs, Within, ← child_view hnum]
    exact ⟨NodeView.reaches_of_mem_preorder, NodeView.mem_preorder_of_reaches hlevel⟩
  have heq : t.view.preorder false d v = List.range' v s :=
    hsorted.eq_of_mem_iff (List.pairwise_lt_range' ..) hmem
  rw [← heq]
  exact Walk.drains_depthFirst hlevel

end Preordered

end SyntaxTree

/-! ## Errors -/

/-- The diagnostic tells of the row: where it is, and what is missing there or else
what stands there. -/
structure Row.Tells (source : String) (r : Row) (d : Diagnostic) : Prop where
  startByte : d.startByte = r.startByte
  endByte : d.endByte = r.endByte
  position : d.position = r.start.position
  missing : r.isMissing = true → d.message = "missing " ++ r.kind
  unexpected : r.isMissing = false → ∃ text,
    Text.Trims (sourceText source r.startByte r.endByte) text ∧
      d.message = "unexpected `" ++ text ++ "`"

theorem Row.tells_diagnostic (source : String) (r : Row) :
    r.Tells source (r.diagnostic source) where
  startByte := rfl
  endByte := rfl
  position := rfl
  missing := by
    intro hmissing
    simp [diagnostic, hmissing]
  unexpected := by
    intro hmissing
    exact ⟨_, Text.trims_trim _, by simp [diagnostic, hmissing]⟩

namespace ParsedSource

variable {p : ParsedSource}

/-- The walk that looks for errors gives out every row. -/
theorem diagnostics_eq (h : p.tree.Preordered) (hnum : p.tree.Numbered) :
    p.diagnostics = (p.tree.rows.filter Row.isFlagged).map (Row.diagnostic p.source) := by
  have hdrains : (Walk.start 0 .depthFirst false).Drains p.tree.view
      (List.range' 0 p.tree.rows.length) := by
    refine h.drains_range' hnum fun n => ?_
    rw [h.within_zero_iff]
    omega
  have hrun := Walk.drains_iff.1 hdrains (p.tree.rows.length + 1)
  rw [List.take_of_length_le (by simp), ← List.range_eq_range'] at hrun
  have hrows : (List.range p.tree.rows.length).filterMap p.tree.row? = p.tree.rows :=
    (filterMap_getElem?_range _ _).trans (List.take_length ..)
  simp only [diagnostics, pull, Option.getD_none, Walk.nodes_take, hrun, hrows]

/-- **Errors come in the order of the table.** Over a table in pre-order the
depth-first walk from any row gives out that row and those below it, counting up, and
ends there. So the diagnostics of a source are those of its flagged rows, one for each
in the order of their numbers. A missing row is told by its kind even where it is
marked as an error as well, and any other by the text it covers. -/
theorem diagnostics_in_table_order (h : p.tree.Preordered) (hnum : p.tree.Numbered) :
    (∀ v < p.tree.rows.length, ∃ s : Nat, {n | p.tree.Within v n}.encard = s ∧
      (Walk.start v .depthFirst false).Drains p.tree.view (List.range' v s)) ∧
    ∃ ids : List Nat, ids.Pairwise (· < ·) ∧
      (∀ n, n ∈ ids ↔ ∃ r, p.tree.row? n = some r ∧ (r.isError = true ∨ r.isMissing = true)) ∧
      List.Forall₂ (fun n d => ∃ r, p.tree.row? n = some r ∧ r.Tells p.source d) ids
        p.diagnostics := by
  constructor
  · intro v hv
    obtain ⟨s, hs⟩ := h.exists_within_iff hv
    refine ⟨s, ?_, h.drains_range' hnum hs⟩
    have hset : {n | p.tree.Within v n} = Finset.Ico v (v + s) := by
      ext n
      simp [hs]
    rw [hset, Set.encard_coe_eq_coe_finsetCard, Nat.card_Ico, Nat.add_sub_cancel_left]
  · -- Numbers and rows are the two sides of the flagged rows of the numbered table.
    let flagged := p.tree.rows.zipIdx.filter fun r => r.1.isFlagged
    have hrows : p.tree.rows.filter Row.isFlagged = flagged.map (·.1) := by
      conv_lhs => rw [← List.zipIdx_map_fst 0 p.tree.rows, List.filter_map]
      rfl
    refine ⟨flagged.map (·.2), SyntaxTree.pairwise_lt_numbers _ _, fun n => ?_, ?_⟩
    · simp only [flagged, List.mem_map, List.mem_filter, Row.isFlagged, Bool.or_eq_true]
      constructor
      · rintro ⟨⟨r, i⟩, ⟨hr, hflag⟩, rfl⟩
        exact ⟨r, List.mem_zipIdx_iff_getElem?.1 hr, hflag⟩
      · rintro ⟨r, hr, hflag⟩
        exact ⟨(r, n), ⟨List.mem_zipIdx_iff_getElem?.2 hr, hflag⟩, rfl⟩
    · rw [diagnostics_eq h hnum, hrows, List.forall₂_map_left_iff, List.forall₂_map_right_iff,
        List.forall₂_map_right_iff, List.forall₂_same]
      intro r hr
      exact ⟨r.1, List.mem_zipIdx_iff_getElem?.1 (List.mem_filter.1 hr).1, r.1.tells_diagnostic _⟩

/-- An error with a word and another error inside, in which a closing parenthesis is
missing and marked as an error too; behind it all, something else is missing. -/
theorem diagnostics_nested_errors :
    let row (parent : Option Nat) (kind : String) (isError isMissing : Bool) (a b : Nat) : Row :=
      ⟨parent, kind, true, isError, isMissing, a, b, ⟨0, a⟩, ⟨0, b⟩⟩
    let p : ParsedSource := ⟨.python, "f( a ", ⟨[row none "module" false false 0 5,
      row (some 0) "ERROR" true false 0 5, row (some 1) "identifier" false false 0 1,
      row (some 1) "ERROR" true false 1 5, row (some 3) ")" true true 5 5,
      row (some 0) "newline" false true 5 5]⟩, true⟩
    p.tree.Preordered ∧ p.tree.Numbered ∧
    (Walk.start 1 .depthFirst false).Drains p.tree.view [1, 2, 3, 4] ∧
    List.Forall₂ (fun n d => ∃ r, p.tree.row? n = some r ∧ r.Tells p.source d) [1, 3, 4, 5]
      p.diagnostics := by
  intro row p
  have horder : p.tree.Preordered := by
    refine ⟨⟨_, rfl, rfl⟩, fun i hi => ?_⟩
    have hlt : i < 5 := Nat.lt_of_succ_lt_succ hi
    interval_cases i
    · exact ⟨0, rfl, .refl⟩
    · exact ⟨1, rfl, .refl⟩
    · exact ⟨1, rfl, .single rfl⟩
    · exact ⟨3, rfl, .refl⟩
    · exact ⟨0, rfl, .tail (.tail (.single (b := 1) rfl) (c := 3) rfl) rfl⟩
  have hindexed : p.tree.Indexed := by decide
  have hnum : p.tree.Numbered := hindexed.length_children_le
  obtain ⟨hwalks, ids, hsorted, hmem, htells⟩ := diagnostics_in_table_order horder hnum
  obtain ⟨s, -, hdrains⟩ := hwalks 1 (by decide)
  have hcount : List.range' 1 s = [1, 2, 3, 4] := by
    rw [← hdrains.nodes_run (m := 5) (by decide)]
    decide
  have hids : ids = [1, 3, 4, 5] := by
    refine hsorted.eq_of_mem_iff (by decide) fun n => ?_
    rw [hmem n]
    rcases Nat.lt_or_ge n 6 with hlt | hge
    · interval_cases n <;> simp [p, row, SyntaxTree.row?]
    · have hnone : p.tree.row? n = none := List.getElem?_eq_none hge
      have hout : ∀ k ∈ [1, 3, 4, 5], k < 6 := by decide
      have hmem : n ∉ [1, 3, 4, 5] := fun hn => Nat.not_lt.2 hge (hout n hn)
      simp [hnone, hmem]
  rw [hcount] at hdrains
  rw [hids] at htells
  exact ⟨horder, hnum, hdrains, htells⟩

end ParsedSource

end TreeExplorer
