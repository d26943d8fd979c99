/-
A cursor that is handed from stream to stream. Whether a stream is over is kept
with the stream, and how far the answers have been drawn is kept with the
cursor, so neither may be read off the other.

`Hold` tells from the orders and their replies alone who holds the cursor and
whether that stream has ended. Each order either draws one answer and says in
its reply what it was (`step_of_draws`), or leaves the cursor as it is
(`step_of_not_draws`). Over any list of orders the answers drawn are therefore
the first ones, each once and in order (`run_spec`), and a stream that takes
over a cursor goes on where the last one stopped, whatever that one ended with.
-/
import TreeExplorer.Proofs.Query.Run
import TreeExplorer.Query.Schedule

namespace TreeExplorer.Query

universe u

variable {ν : Type u}

/-- An order and the reply to it. -/
structure Event (ν : Type u) where
  order : Order
  reply : Reply ν
  deriving DecidableEq, Repr

/-- The event draws the answer `a`: the reply is the answer itself, or what a
stream makes of it. -/
def Event.Reports (table : CaptureTable) (a : Answer ν) (e : Event ν) : Prop :=
  e = ⟨.pull, .raw a⟩ ∨ e = ⟨.next, .pulled (a.outcome table.snapshot)⟩

/-- How the cursor is held, as far as orders and replies tell. -/
inductive Hold where
  /-- By a stream that has handed out nothing but matches. -/
  | live
  /-- By a stream that has ended or failed. -/
  | over
  /-- By no stream. -/
  | free
  deriving DecidableEq, Repr

namespace Hold

/-- How the cursor is held after an event. -/
def after : Hold → Event ν → Hold
  | .live, ⟨.next, .pulled p⟩ => if p.isItem then .live else .over
  | .live, ⟨.release, _⟩ => .free
  | .over, ⟨.release, _⟩ => .free
  | .free, ⟨.bind, _⟩ => .live
  | h, _ => h

/-- How the cursor is held after several events. -/
def final (h : Hold) (events : List (Event ν)) : Hold :=
  events.foldl after h

/-- Each event with how the cursor was held before it. -/
def trace : Hold → List (Event ν) → List (Hold × Event ν)
  | _, [] => []
  | h, e :: rest => (h, e) :: trace (h.after e) rest

/-- The order is a direct use of a free cursor. -/
def direct (h : Hold) (o : Order) : Bool :=
  h = .free && o = .pull

/-- The order is a pull on a stream that is not over. -/
def pulling (h : Hold) (o : Order) : Bool :=
  h = .live && o = .next

/-- The events that draw an answer from the cursor. -/
def drawing (h : Hold) (events : List (Event ν)) : List (Hold × Event ν) :=
  (h.trace events).filter fun x => x.1.direct x.2.order || x.1.pulling x.2.order

theorem drawing_cons (h : Hold) (e : Event ν) (rest : List (Event ν)) :
    h.drawing (e :: rest) =
      if h.direct e.order || h.pulling e.order then (h, e) :: (h.after e).drawing rest
      else (h.after e).drawing rest := by
  rw [drawing, trace, List.filter_cons]
  rfl

theorem length_drawing (h : Hold) (events : List (Event ν)) :
    (h.drawing events).length =
      (h.trace events).countP (fun x => x.1.direct x.2.order) +
        (h.trace events).countP (fun x => x.1.pulling x.2.order) := by
  rw [drawing]
  induction h.trace events with
  | nil => rfl
  | cons x rest ih =>
    obtain ⟨h, o, r⟩ := x
    cases hd : h.direct o <;> cases hp : h.pulling o
    · simp [hd, hp, ih]
    · simp [hd, hp, ih]
      omega
    · simp [hd, hp, ih]
      omega
    · simp only [direct, pulling, Bool.and_eq_true, decide_eq_true_eq] at hd hp
      simp [hd.1] at hp

end Hold

namespace Schedule

/-- The outcome of several orders in a row. -/
structure Run (ν : Type u) where
  events : List (Event ν)
  schedule : Schedule ν

/-- Carries out orders one after the other. -/
def run (table : CaptureTable) : List Order → Schedule ν → Run ν
  | [], s => ⟨[], s⟩
  | o :: rest, s =>
    let p := s.step table o
    let r := run table rest p.2
    ⟨⟨o, p.1⟩ :: r.events, r.schedule⟩

/-- How the cursor is held. -/
def hold : Schedule ν → Hold
  | streaming s => if s.finished then .over else .live
  | free _ => .free

/-- A stream that holds the cursor has the names of the table. -/
def Under (table : CaptureTable) : Schedule ν → Prop
  | streaming s => s.names = table.snapshot
  | free _ => True

variable {table : CaptureTable}

theorem exists_of_hold_over {s : Schedule ν} (h : s.hold = .over) :
    ∃ t, s = streaming t ∧ t.finished = true := by
  cases s with
  | streaming t =>
    cases hf : t.finished with
    | true => exact ⟨t, rfl, hf⟩
    | false => simp [hold, hf] at h
  | free c => cases h

theorem exists_of_hold_free {s : Schedule ν} (h : s.hold = .free) : ∃ c, s = free c := by
  cases s with
  | streaming t => cases hf : t.finished <;> simp [hold, hf] at h
  | free c => exact ⟨c, rfl⟩

/-! ## One order -/

theorem under_step {s : Schedule ν} (h : s.Under table) (o : Order) :
    (s.step table o).2.Under table := by
  cases s with
  | streaming s =>
    cases o with
    | next =>
      cases hf : s.finished with
      | true =>
        simp only [step, Stream.next_of_finished hf]
        exact h
      | false =>
        simp only [step, Stream.next_of_live hf]
        exact h
    | release => exact trivial
    | names | pull | bind => exact h
  | free c =>
    cases o with
    | bind => rfl
    | next | names | release | pull => exact trivial

theorem hold_step (s : Schedule ν) (o : Order) :
    (s.step table o).2.hold = s.hold.after ⟨o, (s.step table o).1⟩ := by
  cases s with
  | streaming s =>
    cases hf : s.finished with
    | true =>
      cases o with
      | next => simp [step, hold, Stream.next_of_finished hf, hf, Hold.after]
      | names | release | pull | bind => simp [step, hold, hf, Hold.after]
    | false =>
      cases o with
      | next =>
        simp only [step, hold, Stream.next_of_live hf, hf, Bool.false_eq_true, if_false, Hold.after]
        cases ((s.cursor.answer 0).outcome s.names).isItem <;> rfl
      | names | release | pull | bind => simp [step, hold, hf, Hold.after]
  | free c => cases o <;> rfl

/-- An order that draws takes one answer and reports it. -/
theorem step_of_draws {s : Schedule ν} (h : s.Under table) {o : Order}
    (hd : (s.hold.direct o || s.hold.pulling o) = true) :
    (s.step table o).2.cursor = s.cursor.advance 1 ∧
      Event.Reports table (s.cursor.answer 0) ⟨o, (s.step table o).1⟩ := by
  cases s with
  | streaming s =>
    cases hf : s.finished with
    | true => simp [hold, hf, Hold.direct, Hold.pulling] at hd
    | false =>
      have ho : o = .next := by simpa [hold, hf, Hold.direct, Hold.pulling] using hd
      subst ho
      have hnames : s.names = table.snapshot := h
      simp only [step, cursor, Stream.next_of_live hf, hnames]
      exact ⟨trivial, .inr rfl⟩
  | free c =>
    have ho : o = .pull := by simpa [hold, Hold.direct, Hold.pulling] using hd
    subst ho
    simp only [step, cursor, Cursor.next_eq]
    exact ⟨trivial, .inl rfl⟩

/-- Any other order leaves the cursor as it is. -/
theorem step_of_not_draws {s : Schedule ν} {o : Order}
    (hd : (s.hold.direct o || s.hold.pulling o) = false) :
    (s.step table o).2.cursor = s.cursor := by
  cases s with
  | streaming s =>
    cases o with
    | next =>
      have hf : s.finished = true := by simpa [hold, Hold.direct, Hold.pulling] using hd
      simp only [step, Stream.next_of_finished hf]
    | names | release | pull | bind => rfl
  | free c =>
    cases o with
    | pull => simp [hold, Hold.direct] at hd
    | next | names | release | bind => rfl

/-! ## Many orders -/

theorem run_spec {s : Schedule ν} (h : s.Under table) (orders : List Order) :
    (s.run table orders).schedule.Under table ∧
    (s.run table orders).schedule.hold = s.hold.final (s.run table orders).events ∧
    (s.run table orders).schedule.cursor =
      s.cursor.advance (s.hold.drawing (s.run table orders).events).length ∧
    List.Forall₂ (fun a x => Event.Reports table a x.2)
      ((List.range (s.hold.drawing (s.run table orders).events).length).map s.cursor.answer)
      (s.hold.drawing (s.run table orders).events) := by
  induction orders generalizing s with
  | nil => exact ⟨h, rfl, rfl, .nil⟩
  | cons o rest ih =>
    obtain ⟨hunder, hfinal, hcursor, hreports⟩ := ih (under_step h o)
    rw [hold_step] at hfinal hcursor hreports
    refine ⟨hunder, hfinal, ?_⟩
    simp only [run, Hold.drawing_cons]
    cases hd : s.hold.direct o || s.hold.pulling o with
    | true =>
      obtain ⟨hstep, hreport⟩ := step_of_draws h hd
      simp only [if_true, List.length_cons, List.range_succ_eq_map, List.map_cons, List.map_map]
      refine ⟨by rw [hcursor, hstep, Cursor.advance_advance, Nat.add_comm], .cons hreport ?_⟩
      -- Counting from the cursor after the step, every answer comes one place earlier.
      have hshift : (s.step table o).2.cursor.answer = s.cursor.answer ∘ Nat.succ := by
        funext k
        rw [hstep, Cursor.answer_advance, Nat.add_comm]
        rfl
      rwa [hshift] at hreports
    | false =>
      rw [step_of_not_draws hd] at hcursor hreports
      exact ⟨hcursor, hreports⟩

/-- **No answer is lost or drawn twice.** Whatever is asked of a cursor and the
streams that hold it one after the other, the orders that draw an answer report
the first answers of the cursor in turn, and the cursor has made as many
advances; these orders are the direct uses of the free cursor and the pulls on
streams that were not over. A pull on a stream that is over changes nothing. A
stream that takes over a free cursor is not over, whatever became of the one
before, and hands out the first answer not yet drawn. -/
theorem drawing_run_start (table : CaptureTable) (c : Cursor ν) (orders : List Order) :
    let r := run table orders (.streaming (.start table c))
    let drawn := Hold.live.drawing r.events
    List.Forall₂ (fun a x => Event.Reports table a x.2) ((List.range drawn.length).map c.answer) drawn ∧
    r.schedule.cursor.answers = c.answers.drop drawn.length ∧
    r.schedule.cursor.advances = c.advances + drawn.length ∧
    drawn.length =
      (Hold.live.trace r.events).countP (fun x => x.1.direct x.2.order) +
        (Hold.live.trace r.events).countP (fun x => x.1.pulling x.2.order) ∧
    (Hold.live.final r.events = .over → r.schedule.step table .next = (.pulled .ended, r.schedule)) ∧
    (Hold.live.final r.events = .free → ∃ s, r.schedule.step table .bind = (.bound, .streaming s) ∧
      s.finished = false ∧ s.cursor = r.schedule.cursor ∧
      s.next.1 = (c.answer drawn.length).outcome table.snapshot) := by
  intro r drawn
  have hunder : (streaming (.start table c)).Under table := rfl
  obtain ⟨-, hfinal, hcursor, hreports⟩ := run_spec hunder orders
  have hcursor' : r.schedule.cursor = c.advance drawn.length := hcursor
  refine ⟨hreports, by rw [hcursor']; rfl, by rw [hcursor']; rfl, Hold.length_drawing _ _,
    fun hover => ?_, fun hfree => ?_⟩
  · obtain ⟨s, hs, hfinished⟩ := exists_of_hold_over (hfinal.trans hover)
    simp only [r, hs, step, Stream.next_of_finished hfinished]
  · obtain ⟨free, hs⟩ := exists_of_hold_free (hfinal.trans hfree)
    have hfree' : free = c.advance drawn.length := by rw [← hcursor', hs]; rfl
    refine ⟨.start table free, by rw [hs]; rfl, rfl, by rw [hs]; rfl, ?_⟩
    rw [Stream.next_of_live rfl, hfree']
    simp only [Stream.start, Cursor.answer_advance, Nat.add_zero]

/-- A cursor that fails between two matches. -/
def faulty : Cursor Nat where
  answers := [.found ⟨0, [(0, 5)]⟩, .failed (.cursorFailed "lost"), .found ⟨1, [(0, 7)]⟩]

/-- A stream of `faulty` that has failed leaves it alone from then on; the next
stream hands out the match after the failure. -/
theorem handover_faulty :
    let table := CaptureTable.ofNames ["node"]
    let failed := run table [.next, .next] (.streaming (.start table faulty))
    let released := run table [.next, .next, .next, .release] (.streaming (.start table faulty))
    Hold.live.final failed.events = .over ∧
    failed.schedule.step table .next = (.pulled .ended, failed.schedule) ∧
    Hold.live.final released.events = .free ∧
    ∃ s, released.schedule.step table .bind = (.bound, .streaming s) ∧
      s.next.1 = .item ⟨1, [("node", 7)]⟩ := by
  intro table failed released
  have hover : Hold.live.final failed.events = .over := by decide
  have hfree : Hold.live.final released.events = .free := by decide
  obtain ⟨-, -, -, -, hended, -⟩ := drawing_run_start table faulty [.next, .next]
  obtain ⟨-, -, -, -, -, hbound⟩ := drawing_run_start table faulty [.next, .next, .next, .release]
  obtain ⟨s, hstep, -, -, hnext⟩ := hbound hfree
  exact ⟨hover, hended hover, hfree, s, hstep, hnext.trans (by decide)⟩

end Schedule

end TreeExplorer.Query
