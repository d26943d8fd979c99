/-
Runs: pull after pull on one walk, pulls that find nothing included.

Looking into a node reads its slots in an order that the mode sets, and its
children come out from left to right all the same (`value_expand`). A walk puts
off looking into the node it gave out last, so its state is a frontier and a node
still to be looked into. What a run gives out depends on
the frontier that the next pull finds (`Walk.ready`) and on nothing else:
`nodes_run` says that a run follows `Walk.visit`, which puts nothing off, and
the order of nodes is studied there. `answers_run` says that a pull that finds
nothing is followed by no other kind, and `run_add` that a run may be stopped and
taken up again.
-/
import Mathlib.Data.List.ReduceOption
import TreeExplorer.Walk.Basic

namespace TreeExplorer

universe u

variable {ν : Type u}

namespace NodeView

/-- The children of a node from left to right, empty slots left out. -/
def children (view : NodeView ν) (namedOnly : Bool) (n : ν) : List ν :=
  (List.range (view.count namedOnly n)).filterMap (view.slot namedOnly n)

variable {view : NodeView ν}

@[simp] theorem value_readSlots (namedOnly : Bool) (n : ν) (slots : List Nat) :
    (view.readSlots namedOnly n slots).value = slots.filterMap (view.slot namedOnly n) := by
  induction slots with
  | nil => rfl
  | cons i rest ih =>
    rw [readSlots, Reading.value_bind, Reading.value_map, ih]
    cases hi : view.slot namedOnly n i <;> simp [readSlot, hi]

@[simp] theorem accesses_readSlots (namedOnly : Bool) (n : ν) (slots : List Nat) :
    (view.readSlots namedOnly n slots).accesses = slots.map (.slot namedOnly n) := by
  induction slots with
  | nil => rfl
  | cons i rest ih => simp [readSlots, readSlot, ih]

end NodeView

namespace Walk

/-- The outcome of several pulls in a row. -/
structure Run (ν : Type u) where
  /-- What each of the pulls gave out. -/
  answers : List (Option ν)
  walk : Walk ν
  accesses : List (Access ν)

/-- The nodes that the pulls gave out. -/
def Run.nodes (r : Run ν) : List ν :=
  r.answers.reduceOption

/-- Pulls `m` times, whatever the pulls find. -/
def run (view : NodeView ν) : Nat → Walk ν → Run ν
  | 0, w => ⟨[], w, []⟩
  | m + 1, w =>
    let p := w.next view
    let r := run view m p.walk
    ⟨p.node :: r.answers, r.walk, p.accesses ++ r.accesses⟩

/-- What a pull gives out after `i` others. -/
def answer (view : NodeView ν) (w : Walk ν) (i : Nat) : Option ν :=
  ((w.run view i).walk.next view).node

/-- The nodes that `k` pulls give out when the frontier is `ready` and nothing
is put off: the first node goes out and its children join the frontier at once. -/
def visit (view : NodeView ν) (mode : Mode) (namedOnly : Bool) : Nat → List ν → List ν
  | 0, _ => []
  | _ + 1, [] => []
  | k + 1, n :: rest =>
    n :: visit view mode namedOnly k (enqueue mode (view.children namedOnly n) rest)

/-- The walk gives out exactly `nodes`, then nothing however often it is pulled. -/
def Drains (view : NodeView ν) (w : Walk ν) (nodes : List ν) : Prop :=
  ∀ m, (w.run view m).answers =
    (nodes.map some).take m ++ List.replicate (m - nodes.length) none

variable {view : NodeView ν} {w : Walk ν}

/-! ## Looking into a node -/

/-- Whatever the order of reading, the children come out from left to right. -/
@[simp] theorem value_expand (mode : Mode) (namedOnly : Bool) (n : ν) :
    (expand view mode namedOnly n).value = view.children namedOnly n := by
  cases mode with
  | depthFirst =>
    simp [expand, NodeView.readCount, NodeView.children, List.filterMap_reverse]
  | breadthFirst => simp [expand, NodeView.readCount, NodeView.children]

theorem accesses_expand (mode : Mode) (namedOnly : Bool) (n : ν) :
    (expand view mode namedOnly n).accesses =
      .count namedOnly n ::
        match mode with
        | .depthFirst => (List.range (view.count namedOnly n)).reverse.map (.slot namedOnly n)
        | .breadthFirst => (List.range (view.count namedOnly n)).map (.slot namedOnly n) := by
  cases mode with
  | depthFirst => simp [expand, NodeView.readCount]
  | breadthFirst => simp [expand, NodeView.readCount]

theorem ready_of_pending_none (h : w.pending = none) : w.ready view = .pure w.frontier := by
  simp only [ready, h]

theorem ready_of_pending_some {n : ν} (h : w.pending = some n) :
    w.ready view = (expand view w.mode w.namedOnly n).map (enqueue w.mode · w.frontier) := by
  simp only [ready, h]

/-! ## One pull -/

theorem next_of_ready_nil (h : (w.ready view).value = []) :
    w.next view = ⟨none, { w with frontier := [], pending := none }, (w.ready view).accesses⟩ := by
  simp only [next, h]

theorem next_of_ready_cons {n : ν} {rest : List ν} (h : (w.ready view).value = n :: rest) :
    w.next view = ⟨some n, { w with frontier := rest, pending := some n }, (w.ready view).accesses⟩ := by
  simp only [next, h]

@[simp] theorem next_accesses : (w.next view).accesses = (w.ready view).accesses := by
  simp only [next]
  split <;> rfl

/-- The node given out is the one still to be looked into. -/
theorem next_pending : (w.next view).walk.pending = (w.next view).node := by
  simp only [next]
  split <;> rfl

@[simp] theorem next_mode : (w.next view).walk.mode = w.mode := by
  simp only [next]
  split <;> rfl

@[simp] theorem next_namedOnly : (w.next view).walk.namedOnly = w.namedOnly := by
  simp only [next]
  split <;> rfl

theorem ready_next_of_nil (h : (w.ready view).value = []) :
    ((w.next view).walk.ready view).value = [] := by
  rw [next_of_ready_nil h]
  rfl

theorem ready_next_of_cons {n : ν} {rest : List ν} (h : (w.ready view).value = n :: rest) :
    ((w.next view).walk.ready view).value = enqueue w.mode (view.children w.namedOnly n) rest := by
  rw [next_of_ready_cons h, ready_of_pending_some rfl, Reading.value_map, value_expand]

theorem enqueue_perm (mode : Mode) (children rest : List ν) :
    (enqueue mode children rest).Perm (children ++ rest) := by
  cases mode with
  | depthFirst => exact .refl _
  | breadthFirst => exact List.perm_append_comm

/-! ## Many pulls -/

@[simp] theorem visit_nil (mode : Mode) (namedOnly : Bool) (k : Nat) :
    visit view mode namedOnly k [] = [] := by
  cases k <;> rfl

theorem length_visit_le (mode : Mode) (namedOnly : Bool) :
    ∀ (k : Nat) (ready : List ν), (visit view mode namedOnly k ready).length ≤ k
  | 0, _ => by simp [visit]
  | _ + 1, [] => by simp
  | k + 1, n :: rest => by
    simp only [visit, List.length_cons, Nat.add_le_add_iff_right]
    exact length_visit_le mode namedOnly k _

/-- A longer run begins with the nodes of a shorter one. -/
theorem take_visit (mode : Mode) (namedOnly : Bool) {k l : Nat} (h : k ≤ l) (ready : List ν) :
    (visit view mode namedOnly l ready).take k = visit view mode namedOnly k ready := by
  induction k generalizing l ready with
  | zero => rfl
  | succ k ih =>
    obtain ⟨l, rfl⟩ : ∃ l', l = l' + 1 := ⟨l - 1, by omega⟩
    cases ready with
    | nil => rfl
    | cons n rest =>
      simp only [visit, List.take_succ_cons]
      rw [ih (Nat.le_of_succ_le_succ h)]

@[simp] theorem run_mode (m : Nat) (w : Walk ν) : (w.run view m).walk.mode = w.mode := by
  induction m generalizing w with
  | zero => rfl
  | succ m ih => exact (ih _).trans next_mode

@[simp] theorem run_namedOnly (m : Nat) (w : Walk ν) :
    (w.run view m).walk.namedOnly = w.namedOnly := by
  induction m generalizing w with
  | zero => rfl
  | succ m ih => exact (ih _).trans next_namedOnly

theorem nodes_run_succ (m : Nat) (w : Walk ν) :
    (w.run view (m + 1)).nodes = (w.next view).node.toList ++ ((w.next view).walk.run view m).nodes := by
  simp only [Run.nodes, run]
  cases (w.next view).node with
  | none => rfl
  | some n => rfl

/-- A run gives out what `visit` does from the frontier that its first pull finds. -/
theorem nodes_run (m : Nat) (w : Walk ν) :
    (w.run view m).nodes = visit view w.mode w.namedOnly m (w.ready view).value := by
  induction m generalizing w with
  | zero => rfl
  | succ m ih =>
    rw [nodes_run_succ, ih, next_mode, next_namedOnly]
    cases h : (w.ready view).value with
    | nil => rw [ready_next_of_nil h, next_of_ready_nil h, visit_nil, visit_nil]; rfl
    | cons n rest => rw [ready_next_of_cons h, next_of_ready_cons h]; rfl

/-- Stopping at the first pull that finds nothing loses no node. -/
theorem nodes_take (k : Nat) (w : Walk ν) : (w.take view k).nodes = (w.run view k).nodes := by
  induction k generalizing w with
  | zero => rfl
  | succ k ih =>
    rw [nodes_run_succ]
    cases h : (w.ready view).value with
    | nil =>
      have hrest : ((w.next view).walk.run view k).nodes = [] := by
        rw [nodes_run, ready_next_of_nil h, visit_nil]
      rw [hrest, take, next_of_ready_nil h]
      rfl
    | cons n rest =>
      rw [← ih, take, next_of_ready_cons h]
      rfl

theorem nodes_run_start (root : ν) (mode : Mode) (namedOnly : Bool) (m : Nat) :
    ((start root mode namedOnly).run view m).nodes = visit view mode namedOnly m [root] :=
  nodes_run m _

theorem length_nodes_run_le (m : Nat) (w : Walk ν) : (w.run view m).nodes.length ≤ m := by
  rw [nodes_run]
  exact length_visit_le _ _ m _

/-- Nodes come first: once a pull has found nothing, so does every later one. -/
theorem answers_run (m : Nat) (w : Walk ν) :
    (w.run view m).answers =
      (w.run view m).nodes.map some ++ List.replicate (m - (w.run view m).nodes.length) none := by
  induction m generalizing w with
  | zero => rfl
  | succ m ih =>
    rw [nodes_run_succ]
    simp only [run]
    rw [ih]
    cases h : (w.ready view).value with
    | nil =>
      -- Nothing was ready and nothing ever will be.
      have hnodes : ((w.next view).walk.run view m).nodes = [] := by
        rw [nodes_run, ready_next_of_nil h, visit_nil]
      rw [hnodes, next_of_ready_nil h]
      rfl
    | cons n rest =>
      rw [next_of_ready_cons h]
      simp

theorem drains_iff {nodes : List ν} :
    w.Drains view nodes ↔ ∀ m, (w.run view m).nodes = nodes.take m := by
  constructor
  · intro h m
    rw [Run.nodes, h m, List.reduceOption_append, List.reduceOption_replicate_none, ← List.map_take]
    simp [List.reduceOption]
  · intro h m
    rw [answers_run, h m, List.map_take, List.length_take]
    congr 2
    omega

/-- A run that has found the end has given out everything. -/
theorem Drains.nodes_run {nodes : List ν} {m : Nat} (h : w.Drains view nodes)
    (hlt : (w.run view m).nodes.length < m) : (w.run view m).nodes = nodes := by
  have htake := drains_iff.1 h m
  rw [htake, List.length_take] at hlt
  rw [htake, List.take_of_length_le (by omega)]

theorem Drains.head?_start {root : ν} {mode : Mode} {namedOnly : Bool} {nodes : List ν}
    (h : (start root mode namedOnly).Drains view nodes) : nodes.head? = some root := by
  have hfirst := drains_iff.1 h 1
  rw [nodes_run_start] at hfirst
  cases nodes with
  | nil => cases hfirst
  | cons n rest =>
    cases hfirst
    rfl

/-! ## Pulls one by one -/

/-- A run goes on from where a shorter one stopped. -/
theorem run_add (m n : Nat) (w : Walk ν) :
    w.run view (m + n) =
      ⟨(w.run view m).answers ++ ((w.run view m).walk.run view n).answers,
        ((w.run view m).walk.run view n).walk,
        (w.run view m).accesses ++ ((w.run view m).walk.run view n).accesses⟩ := by
  induction m generalizing w with
  | zero => rw [Nat.zero_add]; rfl
  | succ m ih =>
    rw [Nat.succ_add]
    simp only [run, ih, List.cons_append, List.append_assoc]

theorem walk_run_succ (m : Nat) (w : Walk ν) :
    (w.run view (m + 1)).walk = ((w.run view m).walk.next view).walk := by
  rw [run_add]
  rfl

theorem answers_run_succ (m : Nat) (w : Walk ν) :
    (w.run view (m + 1)).answers = (w.run view m).answers ++ [w.answer view m] := by
  rw [run_add]
  rfl

theorem next_eq_run (w : Walk ν) :
    w.next view = ⟨w.answer view 0, (w.run view 1).walk, (w.run view 1).accesses⟩ := by
  simp only [run, List.append_nil]
  rfl

theorem answer_run (m i : Nat) (w : Walk ν) :
    (w.run view m).walk.answer view i = w.answer view (m + i) := by
  rw [answer, answer, run_add]

theorem answers_run_eq_map (m : Nat) (w : Walk ν) :
    (w.run view m).answers = (List.range m).map (w.answer view) := by
  induction m with
  | zero => rfl
  | succ m ih =>
    rw [answers_run_succ, ih, List.range_succ, List.map_append]
    rfl

theorem nodes_run_eq_filterMap (m : Nat) (w : Walk ν) :
    (w.run view m).nodes = (List.range m).filterMap (w.answer view) := by
  rw [Run.nodes, answers_run_eq_map, List.reduceOption, List.filterMap_map]
  rfl

/-- A pull finds a node if and only if a run that goes on so far gives out more
nodes than there were pulls before. -/
theorem isSome_answer_iff {i m : Nat} (h : i < m) :
    (w.answer view i).isSome ↔ i < (w.run view m).nodes.length := by
  have hget : (w.run view m).answers[i]? = some (w.answer view i) := by
    rw [answers_run_eq_map, List.getElem?_map, List.getElem?_range h]
    rfl
  rw [answers_run] at hget
  rcases Nat.lt_or_ge i (w.run view m).nodes.length with hlt | hge
  · rw [List.getElem?_append_left (by simpa using hlt), List.getElem?_map,
      List.getElem?_eq_getElem hlt] at hget
    obtain hnode : some _ = w.answer view i := Option.some.inj hget
    simp [← hnode, hlt]
  · rw [List.getElem?_append_right (by simpa using hge), List.length_map,
      List.getElem?_replicate_of_lt (by omega)] at hget
    obtain hnode : none = w.answer view i := Option.some.inj hget
    simp [← hnode, hge]

theorem Drains.isSome_answer_iff {nodes : List ν} (h : w.Drains view nodes) (i : Nat) :
    (w.answer view i).isSome ↔ i < nodes.length := by
  rw [Walk.isSome_answer_iff (Nat.lt_succ_self i), drains_iff.1 h, List.length_take]
  omega

end Walk

end TreeExplorer
