/-
Where nodes lie in a source. Nodes lie within their parents and behind the siblings
before them, so going down never leads back (`LaidOut.inside_of_reaches`) and going on
to the next sibling does not either (`LaidOut.pairwise_children`); along a pre-order
starts never decrease. Nothing is asked of the shape of the table.

People are shown positions that are cut off at the largest number of 32 bits. Below
that a position is the point with one added to both its parts, and so in the same
order. At the bound two lines may look the same while columns go back.
-/
import Mathlib.Data.List.Chain
import Mathlib.Data.Prod.Lex
import TreeExplorer.Proofs.Tree.Walks
import TreeExplorer.Proofs.Walk.DepthFirst
import TreeExplorer.Record.Basic

namespace TreeExplorer

open Relation (ReflTransGen TransGen)

/-! ## Positions -/

/-- Points are ordered by row, then by column. -/
def Point.key (p : Point) : ℕ ×ₗ ℕ :=
  toLex (p.row, p.column)

/-- Positions are ordered by line, then by column. -/
def Position.key (p : Position) : ℕ ×ₗ ℕ :=
  toLex (p.line, p.column)

/-- Both parts of the point can be shown with one added. -/
def Point.Showable (p : Point) : Prop :=
  p.row < maxWord ∧ p.column < maxWord

instance (p : Point) : Decidable p.Showable :=
  inferInstanceAs (Decidable (_ ∧ _))

theorem Point.Showable.position_eq {p : Point} (h : p.Showable) :
    p.position = ⟨p.row + 1, p.column + 1⟩ := by
  obtain ⟨hrow, hcolumn⟩ := h
  rw [Point.position, oneBased, oneBased, Nat.min_eq_left hrow, Nat.min_eq_left hcolumn]

theorem Point.Showable.key_position_le {p q : Point} (hp : p.Showable) (hq : q.Showable)
    (h : p.key ≤ q.key) : p.position.key ≤ q.position.key := by
  rw [hp.position_eq, hq.position_eq]
  rw [Point.key, Point.key, Prod.Lex.toLex_le_toLex] at h
  rw [Position.key, Position.key, Prod.Lex.toLex_le_toLex]
  simp only at h ⊢
  omega

-- The last two lines are both shown as the last one.
example :
    let p : Point := ⟨maxWord - 1, 1⟩
    let q : Point := ⟨maxWord, 0⟩
    p.key ≤ q.key ∧ ¬p.position.key ≤ q.position.key := by
  decide

/-- One more, unless that would wrap round. -/
def saturatingSucc (c : UInt64) : UInt64 :=
  if c + 1 = 0 then c else c + 1

/-- The number with 32 bits, or the largest such number where it does not fit. -/
def narrow (c : UInt64) : UInt32 :=
  if c ≤ 0xFFFFFFFF then c.toUInt32 else 0xFFFFFFFF

theorem toNat_saturatingSucc (c : UInt64) :
    (saturatingSucc c).toNat = min (c.toNat + 1) (2 ^ 64 - 1) := by
  have hlt := c.toNat_lt
  have hadd : (c + 1).toNat = (c.toNat + 1) % 2 ^ 64 := UInt64.toNat_add c 1
  unfold saturatingSucc
  split
  · rename_i hzero
    rw [hzero, UInt64.toNat_zero] at hadd
    omega
  · rename_i hne
    have hne : (c + 1).toNat ≠ 0 := fun hzero => hne (UInt64.toNat_inj.1 hzero)
    omega

theorem toNat_narrow (c : UInt64) : (narrow c).toNat = min c.toNat maxWord := by
  unfold narrow
  split
  · rename_i hle
    have hle : c.toNat ≤ maxWord := UInt64.le_iff_toNat_le.1 hle
    rw [UInt64.toNat_toUInt32, Nat.min_eq_left hle]
    exact Nat.mod_eq_of_lt (Nat.lt_succ_of_le hle)
  · rename_i hgt
    have hgt : ¬c.toNat ≤ maxWord := fun hle => hgt (UInt64.le_iff_toNat_le.2 hle)
    rw [Nat.min_eq_right (Nat.le_of_not_le hgt)]
    rfl

/-- In words of 64 and 32 bits a count from one comes to the same. -/
theorem toNat_narrow_saturatingSucc (c : UInt64) :
    (narrow (saturatingSucc c)).toNat = oneBased c.toNat := by
  have hbound : maxWord ≤ 2 ^ 64 - 1 := by decide
  rw [toNat_narrow, toNat_saturatingSucc, oneBased, Nat.min_assoc, Nat.min_eq_right hbound]

/-! ## Bytes -/

namespace SyntaxTree

/-- The byte at which a node starts. -/
def startByte (t : SyntaxTree) (n : Nat) : Nat :=
  ((t.row? n).map (·.startByte)).getD 0

/-- The byte before which a node ends. -/
def endByte (t : SyntaxTree) (n : Nat) : Nat :=
  ((t.row? n).map (·.endByte)).getD 0

/-- The point at which a node starts. -/
def startPoint (t : SyntaxTree) (n : Nat) : Point :=
  ((t.row? n).map (·.start)).getD ⟨0, 0⟩

/-- Nodes end no earlier than they start, lie within their parents, and end no later
than the next sibling starts; points go with bytes. -/
structure LaidOut (t : SyntaxTree) : Prop where
  start_le_end : ∀ n < t.rows.length, t.startByte n ≤ t.endByte n
  inside : ∀ c < t.rows.length, ∀ p ∈ (t.row? c).bind (·.parent), p < t.rows.length →
    t.startByte p ≤ t.startByte c ∧ t.endByte c ≤ t.endByte p
  beside : ∀ n < t.rows.length, (t.children n).IsChain fun c c' => t.endByte c ≤ t.startByte c'
  points : ∀ m < t.rows.length, ∀ n < t.rows.length, t.startByte m ≤ t.startByte n →
    (t.startPoint m).key ≤ (t.startPoint n).key

/-- Every row and every column of the table can be shown with one added. -/
def Showable (t : SyntaxTree) : Prop :=
  ∀ r ∈ t.rows, r.start.Showable ∧ r.stop.Showable

instance (t : SyntaxTree) : Decidable t.Showable :=
  inferInstanceAs (Decidable (∀ _ ∈ _, _))

variable {t : SyntaxTree} {namedOnly : Bool}

namespace LaidOut

theorem inside_of_reaches (h : t.LaidOut) {v x : Nat} (hv : v < t.rows.length)
    (hx : ReflTransGen (t.view.Child namedOnly) v x) :
    x < t.rows.length ∧ t.startByte v ≤ t.startByte x ∧ t.endByte x ≤ t.endByte v := by
  induction hx with
  | refl => exact ⟨hv, Nat.le_refl _, Nat.le_refl _⟩
  | @tail p c _ hc ih =>
    obtain ⟨hp, hstart, hend⟩ := ih
    have hchild := (t.children_view_sublist namedOnly p).mem hc
    have hlt := lt_length_of_mem_children hchild
    obtain ⟨hstart', hend'⟩ := h.inside c hlt p (mem_children.1 hchild) hp
    exact ⟨hlt, Nat.le_trans hstart hstart', Nat.le_trans hend' hend⟩

/-- Not only the next sibling but every later one starts behind a node. -/
theorem pairwise_children (h : t.LaidOut) {n : Nat} (hn : n < t.rows.length) :
    (t.children n).Pairwise fun c c' => t.endByte c ≤ t.startByte c' := by
  have hrows : ∀ c ∈ t.children n, t.startByte c ≤ t.endByte c :=
    fun c hc => h.start_le_end c (lt_length_of_mem_children hc)
  have hchain := h.beside n hn
  generalize t.children n = nodes at hrows hchain
  induction nodes with
  | nil => exact .nil
  | cons c rest ih =>
    obtain ⟨hnext, hchain⟩ := List.isChain_cons.1 hchain
    have hrest := ih (fun d hd => hrows d (List.mem_cons_of_mem _ hd)) hchain
    refine List.pairwise_cons.2 ⟨fun c' hc' => ?_, hrest⟩
    cases rest with
    | nil => cases hc'
    | cons d rest =>
      have hd : t.endByte c ≤ t.startByte d := hnext d rfl
      rcases List.mem_cons.1 hc' with rfl | hc'
      · exact hd
      · -- From `c` to `d`, through `d`, and from `d` to `c'`.
        calc t.endByte c ≤ t.startByte d := hd
          _ ≤ t.endByte d := hrows d (List.mem_cons_of_mem _ List.mem_cons_self)
          _ ≤ t.startByte c' := (List.pairwise_cons.1 hrest).1 c' hc'

theorem pairwise_startByte_preorder (h : t.LaidOut) {v : Nat} (hv : v < t.rows.length) (d : Nat) :
    (t.view.preorder namedOnly d v).Pairwise fun x y => t.startByte x ≤ t.startByte y := by
  refine NodeView.pairwise_preorder ?_ ?_ d
  · intro a x ha hx
    obtain ⟨ha, -⟩ := h.inside_of_reaches hv ha
    exact (h.inside_of_reaches ha hx.to_reflTransGen).2.1
  · intro a ha
    obtain ⟨ha, -⟩ := h.inside_of_reaches hv ha
    refine ((h.pairwise_children ha).sublist (t.children_view_sublist namedOnly a)).imp_of_mem ?_
    intro c c' hc hc' hbeside x y hx hy
    have hchild : ∀ k ∈ t.view.children namedOnly a, k < t.rows.length := fun k hk =>
      lt_length_of_mem_children ((t.children_view_sublist namedOnly a).mem hk)
    obtain ⟨hxlt, -, hxend⟩ := h.inside_of_reaches (hchild c hc) hx
    obtain ⟨-, hystart, -⟩ := h.inside_of_reaches (hchild c' hc') hy
    calc t.startByte x ≤ t.endByte x := h.start_le_end x hxlt
      _ ≤ t.endByte c := hxend
      _ ≤ t.startByte c' := hbeside
      _ ≤ t.startByte y := hystart

end LaidOut

end SyntaxTree

/-! ## Reports -/

/-- A place is no later than another, neither by bytes nor as people see it. -/
def NotAfter (a b : Nat × Position) : Prop :=
  a.1 ≤ b.1 ∧ a.2.key ≤ b.2.key

namespace ParsedSource

variable {p : ParsedSource}

/-- The rows of a depth-first walk come in the order of the source. -/
theorem pairwise_rows_pull (h : p.tree.LaidOut) (hshow : p.tree.Showable) {v : Nat}
    (hv : v < p.tree.rows.length) (namedOnly : Bool) (limit : Option Nat) :
    ((p.pull limit (Walk.start v .depthFirst namedOnly)).nodes.filterMap p.tree.row?).Pairwise
      fun r r' => NotAfter (r.startByte, r.start.position) (r'.startByte, r'.start.position) := by
  rw [pull, Walk.nodes_take, Walk.nodes_depthFirst (Nat.le_refl _), List.pairwise_filterMap]
  refine ((h.pairwise_startByte_preorder hv _).sublist (List.take_sublist _ _)).imp ?_
  intro x y hle r hr r' hr'
  have hx := SyntaxTree.lt_length_of_row? hr
  have hy := SyntaxTree.lt_length_of_row? hr'
  have hpoint := h.points x hx y hy hle
  have hstart := (hshow r (List.mem_of_getElem? hr)).1
  have hstart' := (hshow r' (List.mem_of_getElem? hr')).1
  simp only [SyntaxTree.startByte, SyntaxTree.startPoint, hr, hr', Option.map_some,
    Option.getD_some] at hle hpoint
  exact ⟨hle, hstart.key_position_le hstart' hpoint⟩

theorem mem_rows_of_mem_filterMap {nodes : List Nat} {r : Row}
    (h : r ∈ nodes.filterMap p.tree.row?) : r ∈ p.tree.rows := by
  obtain ⟨n, -, hn⟩ := List.mem_filterMap.1 h
  exact List.mem_of_getElem? hn

theorem pairwise_diagnostics (h : p.tree.LaidOut) (hshow : p.tree.Showable) :
    p.diagnostics.Pairwise fun d d' =>
      NotAfter (d.startByte, d.position) (d'.startByte, d'.position) := by
  rw [diagnostics, List.pairwise_map]
  rcases Nat.eq_zero_or_pos p.tree.rows.length with hempty | hpos
  · have hnone : ∀ nodes : List Nat, nodes.filterMap p.tree.row? = [] := by
      intro nodes
      refine List.filterMap_eq_nil_iff.2 fun n _ => ?_
      exact List.getElem?_eq_none (by omega)
    rw [hnone]
    exact .nil
  · exact (pairwise_rows_pull h hshow hpos false none).sublist List.filter_sublist

/-- **Reports come in the order of the source.** Where nodes are laid out in their
source, neither bytes nor positions go back from one record of a depth-first walk to a
later one, or from one diagnostic to a later one, and what is shown is the point with
one added to row and column, as long as that fits in 32 bits. In any case the smaller
of that and the largest number of 32 bits is shown, which is also what words of 64 and
32 bits come to. -/
theorem reports_in_source_order :
    (∀ p : ParsedSource, p.tree.LaidOut → p.tree.Showable →
      (∀ v < p.tree.rows.length, ∀ namedOnly limit,
        let rows := (p.pull limit (Walk.start v .depthFirst namedOnly)).nodes.filterMap p.tree.row?
        (rows.map NodeRecord.ofRow).Pairwise (fun a b =>
          NotAfter (a.startByte, a.start) (b.startByte, b.start)) ∧
        ∀ r ∈ rows, (NodeRecord.ofRow r).start = ⟨r.start.row + 1, r.start.column + 1⟩ ∧
          (NodeRecord.ofRow r).stop = ⟨r.stop.row + 1, r.stop.column + 1⟩) ∧
      p.diagnostics.Pairwise (fun d d' =>
        NotAfter (d.startByte, d.position) (d'.startByte, d'.position)) ∧
      ∀ d ∈ p.diagnostics, ∃ r ∈ p.tree.rows, r.isFlagged = true ∧
        d = r.diagnostic p.source ∧ d.position = ⟨r.start.row + 1, r.start.column + 1⟩) ∧
    (∀ (r : Row) (source : String),
      let shown (point : Point) : Position :=
        ⟨min (point.row + 1) (2 ^ 32 - 1), min (point.column + 1) (2 ^ 32 - 1)⟩
      (NodeRecord.ofRow r).start = shown r.start ∧ (NodeRecord.ofRow r).stop = shown r.stop ∧
        (r.diagnostic source).position = shown r.start) ∧
    ∀ c : UInt64, (narrow (saturatingSucc c)).toNat = min (c.toNat + 1) (2 ^ 32 - 1) := by
  refine ⟨fun p h hshow => ⟨fun v hv namedOnly limit => ⟨?_, ?_⟩, ?_, ?_⟩, ?_, ?_⟩
  · exact List.pairwise_map.2 (pairwise_rows_pull h hshow hv namedOnly limit)
  · intro r hr
    obtain ⟨hstart, hstop⟩ := hshow r (mem_rows_of_mem_filterMap hr)
    exact ⟨hstart.position_eq, hstop.position_eq⟩
  · exact pairwise_diagnostics h hshow
  · intro d hd
    obtain ⟨r, hr, rfl⟩ := List.mem_map.1 hd
    obtain ⟨hr, hflag⟩ := List.mem_filter.1 hr
    have hmem := mem_rows_of_mem_filterMap hr
    exact ⟨r, hmem, hflag, rfl, (hshow r hmem).1.position_eq⟩
  · intro r source
    exact ⟨rfl, rfl, rfl⟩
  · exact toNat_narrow_saturatingSucc

/-- A call over two lines whose closing parenthesis is missing, as is the end of the
line behind it: three nodes start at the last byte. -/
theorem reports_missing_at_end :
    let row (parent : Option Nat) (kind : String) (isMissing : Bool) (a b : Nat)
        (start stop : Point) : Row :=
      ⟨parent, kind, true, false, isMissing, a, b, start, stop⟩
    let p : ParsedSource := ⟨.python, "f(\n", ⟨[row none "module" false 0 3 ⟨0, 0⟩ ⟨1, 0⟩,
      row (some 0) "call" false 0 3 ⟨0, 0⟩ ⟨1, 0⟩, row (some 1) "name" false 0 1 ⟨0, 0⟩ ⟨0, 1⟩,
      row (some 1) "arguments" false 1 3 ⟨0, 1⟩ ⟨1, 0⟩, row (some 3) ")" true 3 3 ⟨1, 0⟩ ⟨1, 0⟩,
      row (some 0) "block" false 3 3 ⟨1, 0⟩ ⟨1, 0⟩,
      row (some 5) "newline" true 3 3 ⟨1, 0⟩ ⟨1, 0⟩]⟩, true⟩
    p.tree.LaidOut ∧ p.tree.Showable ∧
    (p.pull none (Walk.start 1 .depthFirst true)).nodes = [1, 2, 3, 4] ∧
    (([1, 2, 3, 4].filterMap p.tree.row?).map NodeRecord.ofRow).Pairwise (fun a b =>
      NotAfter (a.startByte, a.start) (b.startByte, b.start)) ∧
    p.diagnostics.map (·.position) = [⟨2, 1⟩, ⟨2, 1⟩] ∧
    p.diagnostics.Pairwise (fun d d' =>
      NotAfter (d.startByte, d.position) (d'.startByte, d'.position)) := by
  intro row p
  have hlaid : p.tree.LaidOut := ⟨by decide, by decide, by decide, by decide⟩
  have hshow : p.tree.Showable := by decide
  have hnodes : (p.pull none (Walk.start 1 .depthFirst true)).nodes = [1, 2, 3, 4] := by decide
  obtain ⟨hwalks, hdiagnostics, -⟩ := reports_in_source_order.1 p hlaid hshow
  have hrecords := (hwalks 1 (by decide) true none).1
  rw [hnodes] at hrecords
  exact ⟨hlaid, hshow, hnodes, hrecords, by decide, hdiagnostics⟩

end ParsedSource

end TreeExplorer
