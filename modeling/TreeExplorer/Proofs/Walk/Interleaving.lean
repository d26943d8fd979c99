/-
Several walks over one tree, pulled and copied in any order. What is replied can be
told without looking at the walks: a `Tally` holds where a walk started and how many
pulls it has seen, those of the walks it is a copy of included, and every reply is
the one that a fresh walk gives after as many pulls (`settle`). In particular the
node that a walk still has to look into goes with each copy, and is looked into once
by each.

Whatever an order asks for, it comes down to a number of pulls on one walk
(`take_eq_run`, `nth_eq_run`). `Follows` relates a schedule to its tallies; one order
keeps it (`Follows.step`), and hence so does any list of them.
-/
import TreeExplorer.Proofs.Facts
import TreeExplorer.Proofs.Walk.Order
import TreeExplorer.Walk.Schedule

namespace TreeExplorer.Walk

universe u

variable {ν : Type u} {view : NodeView ν}

/-- How many pulls it takes to have `n` nodes or to find nothing, whichever comes
first, where pull `i` gives out `answer i`. -/
def pullsUntil (answer : Nat → Option ν) (n : Nat) : Nat :=
  min n (((List.range n).takeWhile fun i => (answer i).isSome).length + 1)

/-- What the orders tell of a walk. -/
structure Tally (ν : Type u) where
  root : ν
  mode : Mode
  namedOnly : Bool
  /-- The pulls that the walks it is a copy of had seen when they were copied. -/
  inherited : Nat := 0
  /-- The pulls that it has seen itself. -/
  own : Nat := 0

namespace Tally

def pulls (t : Tally ν) : Nat :=
  t.inherited + t.own

/-- A walk that starts where this one did and has seen no pull. -/
def fresh (t : Tally ν) : Walk ν :=
  start t.root t.mode t.namedOnly

/-- What `fresh` gives out after as many pulls and `i` more. -/
def answer (view : NodeView ν) (t : Tally ν) (i : Nat) : Option ν :=
  t.fresh.answer view (t.pulls + i)

/-- What `fresh` has become after as many pulls. -/
def walk (view : NodeView ν) (t : Tally ν) : Walk ν :=
  (t.fresh.run view t.pulls).walk

/-- How many slots `fresh` reads in those of the pulls that were not inherited. -/
def slotsRead (view : NodeView ν) (t : Tally ν) : Nat :=
  (((t.fresh.run view t.inherited).walk.run view t.own).accesses.filter Access.isSlot).length

def pull (t : Tally ν) (j : Nat) : Tally ν :=
  { t with own := t.own + j }

def copy (t : Tally ν) : Tally ν :=
  { t with inherited := t.pulls, own := 0 }

end Tally

/-- Replies by the tally of walk `k`. -/
def onTally (tallies : List (Tally ν)) (k : Nat) (f : Tally ν → Reply ν × List (Tally ν)) :
    Reply ν × List (Tally ν) :=
  match tallies[k]? with
  | some t => f t
  | none => (.unknown, tallies)

/-- The reply that fresh walks would give to an order, and the tallies after it. -/
def settle (view : NodeView ν) (tallies : List (Tally ν)) : Order ν → Reply ν × List (Tally ν)
  | .start root mode namedOnly => (.walk tallies.length, tallies ++ [{ root, mode, namedOnly }])
  | .next k => onTally tallies k fun t => (.node (t.answer view 0), tallies.set k (t.pull 1))
  | .nth k n => onTally tallies k fun t =>
    let j := pullsUntil (t.answer view) (n + 1)
    (.node (t.answer view (j - 1)), tallies.set k (t.pull j))
  | .take k n => onTally tallies k fun t =>
    let j := pullsUntil (t.answer view) n
    (.nodes ((List.range j).filterMap (t.answer view)), tallies.set k (t.pull j))
  | .hint k => onTally tallies k fun t =>
    (.hint (t.walk view).sizeHint.1 (t.walk view).sizeHint.2, tallies)
  | .settings k => onTally tallies k fun t => (.settings t.mode t.namedOnly, tallies)
  | .copy k => onTally tallies k fun t => (.walk tallies.length, tallies ++ [t.copy])

/-- Settles orders one after the other. -/
def settleAll (view : NodeView ν) : List (Order ν) → List (Tally ν) → List (Reply ν) × List (Tally ν)
  | [], tallies => ([], tallies)
  | o :: rest, tallies =>
    let p := settle view tallies o
    let r := settleAll view rest p.2
    (p.1 :: r.1, r.2)

/-- Carries out orders one after the other. -/
def Schedule.run (view : NodeView ν) : List (Order ν) → Schedule ν → List (Reply ν) × Schedule ν
  | [], s => ([], s)
  | o :: rest, s =>
    let p := s.step view o
    let r := run view rest p.schedule
    (p.reply :: r.1, r.2)

/-- The walk that an order pulls. -/
def Order.pulled : Order ν → Option Nat
  | .next k | .nth k _ | .take k _ => some k
  | .start .. | .hint _ | .settings _ | .copy _ => none

/-! ## Orders as pulls -/

section PullsUntil

variable {answer : Nat → Option ν}

@[simp] theorem pullsUntil_zero : pullsUntil answer 0 = 0 :=
  Nat.zero_min _

theorem pullsUntil_of_none (h : answer 0 = none) (n : Nat) : pullsUntil answer (n + 1) = 1 := by
  rw [pullsUntil, List.range_succ_eq_map, List.takeWhile_cons_of_neg (by simp [h])]
  simp

theorem pullsUntil_of_some {v : ν} (h : answer 0 = some v) (n : Nat) :
    pullsUntil answer (n + 1) = pullsUntil (fun i => answer (i + 1)) n + 1 := by
  rw [pullsUntil, List.range_succ_eq_map, List.takeWhile_cons_of_pos (by simp [h]), List.takeWhile_map,
    List.length_cons, List.length_map, Nat.add_min_add_right]
  rfl

theorem pullsUntil_succ_pos (n : Nat) : 0 < pullsUntil answer (n + 1) := by
  rw [pullsUntil]
  omega

end PullsUntil

theorem take_eq_run (view : NodeView ν) (n : Nat) (w : Walk ν) :
    (w.take view n).nodes = (w.run view (pullsUntil (w.answer view) n)).nodes ∧
    (w.take view n).walk = (w.run view (pullsUntil (w.answer view) n)).walk ∧
    (w.take view n).accesses = (w.run view (pullsUntil (w.answer view) n)).accesses := by
  induction n generalizing w with
  | zero => exact ⟨rfl, rfl, rfl⟩
  | succ n ih =>
    cases h : (w.next view).node with
    | none =>
      have hfirst : w.answer view 0 = none := h
      rw [pullsUntil_of_none hfirst, take, h, nodes_run_succ, h]
      exact ⟨rfl, rfl, (List.append_nil _).symm⟩
    | some v =>
      have hfirst : w.answer view 0 = some v := h
      obtain ⟨hnodes, hwalk, haccesses⟩ := ih (w.next view).walk
      rw [pullsUntil_of_some hfirst, take, h, nodes_run_succ, h]
      simp only [run]
      exact ⟨congrArg (v :: ·) hnodes, hwalk, congrArg (_ ++ ·) haccesses⟩

theorem nth_eq_run (n : Nat) (w : Walk ν) :
    w.nth view n =
      ⟨w.answer view (pullsUntil (w.answer view) (n + 1) - 1),
        (w.run view (pullsUntil (w.answer view) (n + 1))).walk,
        (w.run view (pullsUntil (w.answer view) (n + 1))).accesses⟩ := by
  induction n generalizing w with
  | zero =>
    have hpulls : pullsUntil (w.answer view) 1 = 1 := by
      cases h : w.answer view 0 with
      | none => exact pullsUntil_of_none h 0
      | some v => rw [pullsUntil_of_some h, pullsUntil_zero]
    rw [hpulls]
    exact next_eq_run w
  | succ n ih =>
    cases h : (w.next view).node with
    | none =>
      have hfirst : w.answer view 0 = none := h
      rw [pullsUntil_of_none hfirst, nth, h]
      exact next_eq_run w
    | some v =>
      have hfirst : w.answer view 0 = some v := h
      have hrest := ih (w.next view).walk
      -- The pull that answers is counted from one walk further on.
      obtain ⟨j, hj⟩ : ∃ j, pullsUntil ((w.next view).walk.answer view) (n + 1) = j + 1 :=
        Nat.exists_eq_succ_of_ne_zero (Nat.ne_of_gt (pullsUntil_succ_pos n))
      have hpulls : pullsUntil (w.answer view) (n + 1 + 1) = j + 1 + 1 := by
        rw [pullsUntil_of_some hfirst, ← hj]
        rfl
      rw [hj] at hrest
      rw [hpulls, nth, h]
      simp only [hrest]
      rfl

/-! ## Tallies -/

namespace Tally

theorem answer_walk (t : Tally ν) : (t.walk view).answer view = t.answer view :=
  funext fun i => answer_run t.pulls i t.fresh

theorem walk_pull (t : Tally ν) (j : Nat) : (t.pull j).walk view = ((t.walk view).run view j).walk := by
  have hpulls : (t.pull j).pulls = t.pulls + j := (Nat.add_assoc _ _ _).symm
  rw [walk, hpulls, run_add]
  rfl

theorem slotsRead_pull (t : Tally ν) (j : Nat) :
    (t.pull j).slotsRead view =
      t.slotsRead view + (((t.walk view).run view j).accesses.filter Access.isSlot).length := by
  have hwalk : ((t.fresh.run view t.inherited).walk.run view t.own).walk = t.walk view := by
    rw [walk, pulls, run_add]
  have hown : (t.pull j).slotsRead view =
      (((t.fresh.run view t.inherited).walk.run view (t.own + j)).accesses.filter Access.isSlot).length := rfl
  rw [hown, run_add, hwalk, List.filter_append, List.length_append]
  rfl

theorem settings_walk (t : Tally ν) :
    (t.walk view).mode = t.mode ∧ (t.walk view).namedOnly = t.namedOnly :=
  ⟨run_mode _ _, run_namedOnly _ _⟩

end Tally

/-! ## Schedules by their tallies -/

/-- Each walk is what a fresh one has become, and the slots read are those that the
walks read in pulls of their own. -/
structure Follows (view : NodeView ν) (tallies : List (Tally ν)) (s : Schedule ν) : Prop where
  walks : s.walks = tallies.map (Tally.walk view)
  slotsRead : s.slotsRead = (tallies.map (Tally.slotsRead view)).sum

namespace Follows

variable {tallies : List (Tally ν)} {s : Schedule ν}

theorem length_eq (h : Follows view tallies s) : s.walks.length = tallies.length := by
  rw [h.walks, List.length_map]

/-- A walk that has seen no pull of its own has read nothing. -/
theorem add (h : Follows view tallies s) {t : Tally ν} (ht : t.own = 0) :
    Follows view (tallies ++ [t]) (s.add (t.walk view)).schedule := by
  have hslots : t.slotsRead view = 0 := by
    rw [Tally.slotsRead, ht]
    rfl
  constructor
  · rw [List.map_append, ← h.walks]
    rfl
  · rw [List.map_append, List.sum_append, ← h.slotsRead]
    simp [hslots, Schedule.add]

theorem update (h : Follows view tallies s) {k : Nat} {t : Tally ν} (ht : tallies[k]? = some t) (j : Nat) :
    Follows view (tallies.set k (t.pull j))
      (s.update k ((t.walk view).run view j).walk ((t.walk view).run view j).accesses) := by
  constructor
  · rw [List.map_set, ← h.walks, Tally.walk_pull]
    rfl
  · have hsum := sum_map_set ht (Tally.slotsRead view) (t.pull j)
    rw [Tally.slotsRead_pull, ← h.slotsRead] at hsum
    simp only [Schedule.update]
    omega

theorem onWalk (h : Follows view tallies s) {k : Nat} {f : Walk ν → Schedule.Result ν}
    {g : Tally ν → Reply ν × List (Tally ν)}
    (hfg : ∀ t, tallies[k]? = some t →
      (f (t.walk view)).reply = (g t).1 ∧ Follows view (g t).2 (f (t.walk view)).schedule) :
    (s.onWalk k f).reply = (onTally tallies k g).1 ∧
      Follows view (onTally tallies k g).2 (s.onWalk k f).schedule := by
  have hwalk : s.walks[k]? = tallies[k]?.map (Tally.walk view) := by
    rw [h.walks, List.getElem?_map]
  cases ht : tallies[k]? with
  | none =>
    rw [ht] at hwalk
    simp only [Schedule.onWalk, onTally, hwalk, ht, Option.map_none]
    exact ⟨trivial, h⟩
  | some t =>
    rw [ht] at hwalk
    simp only [Schedule.onWalk, onTally, hwalk, ht, Option.map_some]
    exact hfg t ht

/-- One order is replied to as the tallies say, and these go on telling of the walks. -/
theorem step (h : Follows view tallies s) (o : Order ν) :
    (s.step view o).reply = (settle view tallies o).1 ∧
      Follows view (settle view tallies o).2 (s.step view o).schedule := by
  cases o with
  | start root mode namedOnly =>
    exact ⟨congrArg Reply.walk h.length_eq, h.add (t := ⟨root, mode, namedOnly, 0, 0⟩) rfl⟩
  | next k =>
    refine h.onWalk fun t ht => ?_
    simp only [next_eq_run, Tally.answer_walk]
    exact ⟨trivial, h.update ht 1⟩
  | nth k n =>
    refine h.onWalk fun t ht => ?_
    simp only [nth_eq_run, Tally.answer_walk]
    exact ⟨trivial, h.update ht _⟩
  | take k n =>
    refine h.onWalk fun t ht => ?_
    obtain ⟨hnodes, hwalk, haccesses⟩ := take_eq_run view n (t.walk view)
    rw [nodes_run_eq_filterMap] at hnodes
    simp only [hnodes, hwalk, haccesses, Tally.answer_walk]
    exact ⟨trivial, h.update ht _⟩
  | hint k => exact h.onWalk fun t _ => ⟨rfl, h⟩
  | settings k =>
    refine h.onWalk fun t _ => ?_
    simp only [Tally.settings_walk]
    exact ⟨trivial, h⟩
  | copy k => exact h.onWalk fun t _ => ⟨congrArg Reply.walk h.length_eq, h.add (t := t.copy) rfl⟩

theorem run (h : Follows view tallies s) (orders : List (Order ν)) :
    (s.run view orders).1 = (settleAll view orders tallies).1 ∧
      Follows view (settleAll view orders tallies).2 (s.run view orders).2 := by
  induction orders generalizing tallies s with
  | nil => exact ⟨rfl, h⟩
  | cons o rest ih =>
    obtain ⟨hreply, hstep⟩ := h.step o
    obtain ⟨hreplies, hrest⟩ := ih hstep
    exact ⟨congrArg₂ List.cons hreply hreplies, hrest⟩

end Follows

namespace Schedule

theorem walks_onWalk {s : Schedule ν} {j k : Nat} {f : Walk ν → Result ν}
    (h : ∀ w, (f w).schedule.walks[k]? = s.walks[k]?) :
    (s.onWalk j f).schedule.walks[k]? = s.walks[k]? := by
  unfold onWalk
  split
  · exact h _
  · rfl

/-- An order leaves every walk as it is but the one it pulls. -/
theorem walks_step_of_not_pulled {s : Schedule ν} {o : Order ν} {k : Nat} (h : o.pulled ≠ some k)
    (hk : k < s.walks.length) : (s.step view o).schedule.walks[k]? = s.walks[k]? := by
  cases o with
  | start => exact List.getElem?_append_left hk
  | next j | nth j | take j =>
    have hne : j ≠ k := fun heq => h (congrArg some heq)
    exact walks_onWalk fun w => List.getElem?_set_ne hne
  | hint j | settings j => exact walks_onWalk fun w => rfl
  | copy j => exact walks_onWalk fun w => List.getElem?_append_left hk

/-- **Walks do not disturb one another.** Whatever is asked of any number of walks
over one tree, started or copied at any time, each reply is the one that a fresh walk
gives after the pulls that the asked walk and those it is a copy of have seen. A
request for several nodes makes as many pulls as it takes to have them or to find
nothing. No order changes a walk that it does not pull, and the slots read are
those that each walk reads in its own pulls. -/
theorem replies_run_eq_settleAll (view : NodeView ν) (orders : List (Order ν)) :
    let r := run view orders {}
    let l := settleAll view orders []
    r.1 = l.1 ∧
    r.2.walks = l.2.map (Tally.walk view) ∧
    (∀ o k, o.pulled ≠ some k → k < r.2.walks.length →
      (r.2.step view o).schedule.walks[k]? = r.2.walks[k]?) ∧
    r.2.slotsRead = (l.2.map (Tally.slotsRead view)).sum := by
  intro r l
  have hstart : Follows view [] ({} : Schedule ν) := ⟨rfl, rfl⟩
  obtain ⟨hreplies, hwalks, hslots⟩ := hstart.run orders
  exact ⟨hreplies, hwalks, fun o k h hk => walks_step_of_not_pulled h hk, hslots⟩

/-- A walk over `NodeView.twins` and its copy, taken when the root was still to be
looked into: each looks into the root itself, and goes on where the other does not. -/
theorem replies_twins :
    let orders : List (Order Nat) := [.start 0 .depthFirst false, .next 0, .copy 0, .nth 0 1,
      .take 1 9, .hint 0, .hint 1, .next 0]
    let r := run NodeView.twins orders {}
    r.1 = [.walk 0, .node (some 0), .walk 1, .node (some 2), .nodes [1, 2, 1, 2], .hint 1 none,
      .hint 0 (some 0), .node (some 1)] ∧
    r.2.slotsRead = 9 ∧
    (r.2.step NodeView.twins (.next 1)).schedule.walks[0]? = r.2.walks[0]? := by
  intro orders r
  obtain ⟨hreplies, -, hothers, hslots⟩ := replies_run_eq_settleAll NodeView.twins orders
  refine ⟨hreplies.trans (by decide), hslots.trans (by decide), ?_⟩
  exact hothers (.next 1) 0 (by decide) (by decide)

end Schedule

end TreeExplorer.Walk
