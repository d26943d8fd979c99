/-
What a walk reads, and when. After any number of pulls the accessors used are
those for looking into the nodes given out, one node after the other, without
the node given out by the last pull; a pull that finds nothing still looks into
the node before it, and the pulls after that read nothing.

The record of accesses is complete: a view that answers them alike cannot be
told from the first one by the same pulls (`run_eq_of_agrees`).
-/
import TreeExplorer.Proofs.Walk.Order

namespace TreeExplorer

universe u

variable {ν : Type u}

/-- Two views answer an access alike. -/
def Access.Agrees (view view' : NodeView ν) : Access ν → Prop
  | .count named n => view.count named n = view'.count named n
  | .slot named n i => view.slot named n i = view'.slot named n i

namespace Walk

variable {view view' : NodeView ν}

/-! ## The accesses of a run -/

/-- A pull looks into the node that the pull before it gave out. -/
theorem accesses_ready_next (w : Walk ν) :
    ((w.next view).walk.ready view).accesses =
      (w.next view).node.toList.flatMap fun n => (expand view w.mode w.namedOnly n).accesses := by
  cases h : (w.next view).node with
  | none =>
    rw [ready_of_pending_none (next_pending.trans h)]
    rfl
  | some n =>
    rw [ready_of_pending_some (next_pending.trans h), next_mode, next_namedOnly]
    simp

/-- The first pull looks into the pending node, the others into the node given
out just before them. -/
theorem accesses_run_succ (m : Nat) (w : Walk ν) :
    (w.run view (m + 1)).accesses =
      (w.ready view).accesses ++ ((w.run view (m + 1)).nodes.take m).flatMap fun n =>
        (expand view w.mode w.namedOnly n).accesses := by
  induction m generalizing w with
  | zero => simp [run]
  | succ m ih =>
    have hrest := ih (w.next view).walk
    rw [accesses_ready_next, next_mode, next_namedOnly] at hrest
    have hfirst : (w.run view (m + 2)).accesses =
        (w.ready view).accesses ++ ((w.next view).walk.run view (m + 1)).accesses := by
      simp only [run, next_accesses]
    rw [hfirst, hrest, nodes_run_succ (m + 1) w]
    congr 1
    cases h : (w.ready view).value with
    | nil =>
      -- The pull finds nothing, and neither do those after it.
      have hnodes : ((w.next view).walk.run view (m + 1)).nodes = [] := by
        rw [nodes_run, ready_next_of_nil h, visit_nil]
      rw [hnodes, next_of_ready_nil h]
      simp
    | cons n rest =>
      rw [next_of_ready_cons h]
      simp only [Option.toList_some, List.singleton_append, List.take_succ_cons, List.flatMap_cons,
        List.flatMap_nil, List.append_nil]

theorem accesses_run_of_start (root : ν) (mode : Mode) (namedOnly : Bool) (m : Nat) :
    ((start root mode namedOnly).run view m).accesses =
      (((start root mode namedOnly).run view m).nodes.take (m - 1)).flatMap fun n =>
        (expand view mode namedOnly n).accesses := by
  cases m with
  | zero => rfl
  | succ m => exact accesses_run_succ m _

/-- A run that has found nothing once gives out no more nodes. -/
theorem nodes_run_add_of_none_mem {m : Nat} {w : Walk ν} (h : none ∈ (w.run view m).answers) (j : Nat) :
    (w.run view m).nodes.length < m ∧ (w.run view (m + j)).nodes = (w.run view m).nodes := by
  have hlt : (w.run view m).nodes.length < m := by
    rw [answers_run] at h
    rcases List.mem_append.1 h with h | h
    · simp at h
    · have hne := (List.mem_replicate.1 h).1
      omega
  refine ⟨hlt, ?_⟩
  rw [nodes_run] at hlt
  rw [nodes_run, nodes_run]
  have htake : (visit view w.mode w.namedOnly (m + j) (w.ready view).value).take m = _ :=
    take_visit w.mode w.namedOnly (Nat.le_add_right m j) (w.ready view).value
  have hlen := congrArg List.length htake
  rw [List.length_take] at hlen
  rw [← htake, List.take_of_length_le (by omega)]

/-! ## Nothing else is read -/

/-- Views that answer alike what is asked of a node are read alike there. -/
theorem expand_eq_of_agrees {mode : Mode} {namedOnly : Bool} {n : ν}
    (h : ∀ a ∈ (expand view mode namedOnly n).accesses, a.Agrees view view') :
    expand view' mode namedOnly n = expand view mode namedOnly n := by
  rw [accesses_expand] at h
  have hcount : view.count namedOnly n = view'.count namedOnly n := h _ List.mem_cons_self
  have haccesses : (expand view' mode namedOnly n).accesses = (expand view mode namedOnly n).accesses := by
    rw [accesses_expand, accesses_expand, hcount]
  have hslot : ∀ i ∈ List.range (view.count namedOnly n),
      view'.slot namedOnly n i = view.slot namedOnly n i := by
    intro i hi
    refine (h (.slot namedOnly n i) (List.mem_cons_of_mem _ ?_)).symm
    cases mode with
    | depthFirst => exact List.mem_map_of_mem (List.mem_reverse.2 hi)
    | breadthFirst => exact List.mem_map_of_mem hi
  have hvalue : (expand view' mode namedOnly n).value = (expand view mode namedOnly n).value := by
    rw [value_expand, value_expand, NodeView.children, NodeView.children, ← hcount]
    exact List.filterMap_congr hslot
  exact Reading.ext hvalue haccesses

theorem next_eq_of_agrees {w : Walk ν} (h : ∀ a ∈ (w.ready view).accesses, a.Agrees view view') :
    w.next view' = w.next view := by
  have hsame : w.ready view' = w.ready view := by
    cases hp : w.pending with
    | none => rw [ready_of_pending_none hp, ready_of_pending_none hp]
    | some n =>
      rw [ready_of_pending_some hp] at h
      rw [ready_of_pending_some hp, ready_of_pending_some hp, expand_eq_of_agrees h]
  rw [next, next, hsame]

/-- Views that answer alike what a run asks give the same run. -/
theorem run_eq_of_agrees {m : Nat} {w : Walk ν}
    (h : ∀ a ∈ (w.run view m).accesses, a.Agrees view view') : w.run view' m = w.run view m := by
  induction m generalizing w with
  | zero => rfl
  | succ m ih =>
    simp only [run, next_accesses, List.mem_append] at h
    have hnext : w.next view' = w.next view := next_eq_of_agrees fun a ha => h a (.inl ha)
    have hrest := ih fun a ha => h a (.inr ha)
    rw [run, run, hnext, hrest]

/-- **Exact laziness.** The accesses of the first `m` pulls are those for looking
into the nodes given out, in turn, up to the last but one pull: the count, then
every slot below it, from the last when depth comes first and from the first
otherwise. The nodes given out are at different places of the tree, nothing is
read once a pull has found nothing, and a run depends on nothing it did not read. -/
theorem accesses_run_start (view : NodeView ν) (root : ν) (mode : Mode) (namedOnly : Bool) (m : Nat) :
    ((start root mode namedOnly).run view m).accesses =
      (((start root mode namedOnly).run view m).nodes.take (m - 1)).flatMap (fun v =>
        .count namedOnly v ::
          match mode with
          | .depthFirst => (List.range (view.count namedOnly v)).reverse.map (.slot namedOnly v)
          | .breadthFirst => (List.range (view.count namedOnly v)).map (.slot namedOnly v)) ∧
    ((start root mode namedOnly).run view m).nodes.length ≤ m ∧
    (trail view root mode namedOnly m).map (·.node) = ((start root mode namedOnly).run view m).nodes ∧
    (trail view root mode namedOnly m).Nodup ∧
    (∀ o ∈ trail view root mode namedOnly m, view.Occurs namedOnly root o) ∧
    (none ∈ ((start root mode namedOnly).run view m).answers →
      ∀ j, ((start root mode namedOnly).run view (m + j)).accesses =
        ((start root mode namedOnly).run view m).accesses) ∧
    ∀ view' : NodeView ν,
      (∀ a ∈ ((start root mode namedOnly).run view m).accesses, a.Agrees view view') →
      (start root mode namedOnly).run view' m = (start root mode namedOnly).run view m := by
  refine ⟨?_, length_nodes_run_le m _, map_node_trail root m, nodup_trail root m,
    fun o ho => occurs_of_mem_trail ho, fun hnone j => ?_, fun view' h => run_eq_of_agrees h⟩
  · rw [accesses_run_of_start]
    refine List.flatMap_congr fun v _ => (accesses_expand mode namedOnly v).trans ?_
    cases mode <;> rfl
  · obtain ⟨hlt, hnodes⟩ := nodes_run_add_of_none_mem hnone j
    rw [accesses_run_of_start, accesses_run_of_start, hnodes, List.take_of_length_le (by omega),
      List.take_of_length_le (by omega)]

/-- The sixth pull over `NodeView.twins` looks into the last node and finds
nothing; the empty slot of the first is read like the others. -/
theorem accesses_twins :
    ((start 0 .depthFirst false).run NodeView.twins (6 + 3)).accesses =
      [.count false 0, .slot false 0 2, .slot false 0 1, .slot false 0 0,
        .count false 1, .slot false 1 0, .count false 2,
        .count false 1, .slot false 1 0, .count false 2] := by
  have hnone : none ∈ ((start 0 .depthFirst false).run NodeView.twins 6).answers := by decide
  rw [(accesses_run_start NodeView.twins 0 .depthFirst false 6).2.2.2.2.2.1 hnone 3]
  decide

end Walk

end TreeExplorer
