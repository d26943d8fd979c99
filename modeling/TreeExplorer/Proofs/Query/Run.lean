/-
Runs: pull after pull on one stream of matches, pulls after its end included.

A stream ends for one of three reasons: its cursor has no more answers, its
cursor fails, or a match cannot be bound. All three set one flag, but only the
last two hand something out first. `Stream.run_of_live` says what a run hands
out and leaves behind: the cursor is advanced once for each match of the leading
run of answers that can be bound, once more for the answer that ends it, and
never again, whatever answers follow.
-/
import Mathlib.Data.List.Forall2
import Mathlib.Data.List.TakeWhile
import TreeExplorer.Proofs.Query.Binding
import TreeExplorer.Query.Stream

namespace TreeExplorer.Query

universe u

variable {ν : Type u}

/-! ## Cursors -/

namespace Cursor

/-- The cursor after `k` advances. -/
def advance (c : Cursor ν) (k : Nat) : Cursor ν :=
  { c with answers := c.answers.drop k, advances := c.advances + k }

/-- What the cursor answers after `k` advances. -/
def answer (c : Cursor ν) (k : Nat) : Answer ν :=
  c.answers[k]?.getD .exhausted

@[simp] theorem advance_zero (c : Cursor ν) : c.advance 0 = c := rfl

@[simp] theorem advance_advance (c : Cursor ν) (j k : Nat) :
    (c.advance j).advance k = c.advance (j + k) := by
  simp only [advance, List.drop_drop, Nat.add_assoc]

@[simp] theorem answer_advance (c : Cursor ν) (j k : Nat) :
    (c.advance j).answer k = c.answer (j + k) := by
  simp only [answer, advance, List.getElem?_drop]

theorem next_eq (c : Cursor ν) : c.next = (c.answer 0, c.advance 1) := by
  obtain ⟨answers, advances, exceededFrom⟩ := c
  cases answers <;> rfl

end Cursor

/-! ## What becomes of an answer -/

namespace Answer

/-- The answer is a match, and all its captures have an index below the count. -/
def Bindable (count : Nat) : Answer ν → Prop
  | .found raw => raw.Fits count
  | .exhausted => False
  | .failed _ => False

instance (count : Nat) : (a : Answer ν) → Decidable (a.Bindable count)
  | .found raw => inferInstanceAs (Decidable (raw.Fits count))
  | .exhausted => inferInstanceAs (Decidable False)
  | .failed _ => inferInstanceAs (Decidable False)

/-- What a stream under the given names makes of an answer. -/
def outcome (names : List String) : Answer ν → Pulled ν
  | .found raw =>
    match raw.bind names with
    | .ok m => .item m
    | .error e => .failed e
  | .exhausted => .ended
  | .failed e => .failed e

/-- Why pulling for matches stops at the answer that ends a stream. -/
def ending (names : List String) (a : Answer ν) : Ending :=
  match a.outcome names with
  | .failed e => .failed e
  | _ => .ended

/-- The answer is a match that the names bind to `m`. -/
def Binds (names : List String) (a : Answer ν) (m : Match ν) : Prop :=
  ∃ raw, a = .found raw ∧ raw.bind names = .ok m ∧ m.pattern = raw.pattern

/-- The answer ends a stream, which hands out `last` on its account: nothing where
there are no more matches, and one failure otherwise. -/
inductive Closes (count : Nat) : Answer ν → List (Pulled ν) → Prop
  | exhausted : Closes count .exhausted []
  | failed (e : Error) : Closes count (.failed e) [.failed e]
  | stray {raw : RawMatch ν} {i : Nat} (h : raw.stray? count = some i) :
      Closes count (.found raw) [.failed (.unknownCapture i count)]

theorem Binds.outcome {names : List String} {a : Answer ν} {m : Match ν} (h : a.Binds names m) :
    a.outcome names = .item m := by
  obtain ⟨raw, rfl, hbind, -⟩ := h
  rw [Answer.outcome, hbind]

theorem exists_binds {names : List String} {a : Answer ν} (h : a.Bindable names.length) :
    ∃ m, a.Binds names m := by
  cases a with
  | found raw =>
    obtain ⟨m, hm, hpattern⟩ := RawMatch.exists_bind_of_fits h
    exact ⟨m, raw, rfl, hm, hpattern⟩
  | exhausted => exact h.elim
  | failed e => exact h.elim

end Answer

/-- Whether a pull handed out a match. -/
def Pulled.isItem : Pulled ν → Bool
  | .item _ => true
  | .failed _ => false
  | .ended => false

namespace Answer

theorem exists_closes {count : Nat} {a : Answer ν} (h : ¬a.Bindable count) :
    ∃ last, Closes count a last := by
  cases a with
  | found raw =>
    obtain ⟨i, hi⟩ := RawMatch.exists_stray_of_not_fits h
    exact ⟨_, .stray hi⟩
  | exhausted => exact ⟨_, .exhausted⟩
  | failed e => exact ⟨_, .failed e⟩

/-- After the answer that ends it a stream is over, whether it handed something out
for it or not. -/
theorem outcome_of_closes {names : List String} {a : Answer ν} {last : List (Pulled ν)}
    (h : Closes names.length a last) : (a.outcome names).isItem = false ∧ ∀ m,
      a.outcome names :: List.replicate m .ended =
        last.take (m + 1) ++ List.replicate (m + 1 - last.length) .ended := by
  cases h with
  | exhausted => simp [outcome, Pulled.isItem, List.replicate_succ]
  | failed e => simp [outcome, Pulled.isItem]
  | stray hi => simp [outcome, RawMatch.bind_of_stray hi, Pulled.isItem]

end Answer

/-! ## Pulls -/

namespace Stream

/-- The outcome of several pulls in a row. -/
structure Run (ν : Type u) where
  /-- What each of the pulls handed out. -/
  answers : List (Pulled ν)
  stream : Stream ν

/-- Pulls `m` times, whatever the pulls hand out. -/
def run : Nat → Stream ν → Run ν
  | 0, s => ⟨[], s⟩
  | m + 1, s =>
    let p := s.next
    let r := run m p.2
    ⟨p.1 :: r.answers, r.stream⟩

/-- The answers that a stream binds before it ends. -/
def lead (count : Nat) (script : List (Answer ν)) : List (Answer ν) :=
  script.takeWhile fun a => a.Bindable count

/-- How often the cursor is advanced before the stream is over. -/
def span (s : Stream ν) : Nat :=
  (lead s.names.length s.cursor.answers).length + 1

theorem lead_of_bindable {count : Nat} {c : Cursor ν} (h : (c.answer 0).Bindable count) :
    lead count c.answers = c.answer 0 :: lead count (c.advance 1).answers := by
  obtain ⟨answers, advances, exceededFrom⟩ := c
  cases answers with
  | nil => exact h.elim
  | cons a rest =>
    have ha : decide (a.Bindable count) = true := decide_eq_true h
    exact List.takeWhile_cons_of_pos ha

theorem lead_of_not_bindable {count : Nat} {c : Cursor ν} (h : ¬(c.answer 0).Bindable count) :
    lead count c.answers = [] := by
  obtain ⟨answers, advances, exceededFrom⟩ := c
  cases answers with
  | nil => rfl
  | cons a rest =>
    have ha : ¬decide (a.Bindable count) = true := fun ha => h (of_decide_eq_true ha)
    exact List.takeWhile_cons_of_neg ha

theorem bindable_of_mem_lead {count : Nat} {script : List (Answer ν)} {a : Answer ν}
    (h : a ∈ lead count script) : a.Bindable count := by
  rw [lead] at h
  simpa using List.mem_takeWhile_imp h

theorem span_of_bindable {s : Stream ν} (h : (s.cursor.answer 0).Bindable s.names.length) :
    s.span = span ⟨s.names, s.cursor.advance 1, false⟩ + 1 := by
  rw [span, lead_of_bindable h, List.length_cons]
  rfl

theorem span_of_not_bindable {s : Stream ν} (h : ¬(s.cursor.answer 0).Bindable s.names.length) :
    s.span = 1 := by
  rw [span, lead_of_not_bindable h, List.length_nil]

/-- The leading run goes as far as it can. -/
theorem not_bindable_answer_lead (count : Nat) (c : Cursor ν) :
    ¬(c.answer (lead count c.answers).length).Bindable count := by
  obtain ⟨answers, advances, exceededFrom⟩ := c
  induction answers with
  | nil => exact id
  | cons a rest ih =>
    by_cases ha : a.Bindable count
    · rw [lead_of_bindable ha]
      exact ih
    · rw [lead_of_not_bindable ha]
      exact ha

theorem next_of_finished {s : Stream ν} (h : s.finished = true) : s.next = (.ended, s) := by
  rw [next, if_pos h]

/-- A stream that is not over advances its cursor once, and is over unless it
hands out a match. -/
theorem next_of_live {s : Stream ν} (h : s.finished = false) :
    s.next = ((s.cursor.answer 0).outcome s.names,
      ⟨s.names, s.cursor.advance 1, !((s.cursor.answer 0).outcome s.names).isItem⟩) := by
  obtain ⟨names, cursor, finished⟩ := s
  subst h
  simp only [next, Cursor.next_eq]
  cases cursor.answer 0 with
  | found raw => cases hbind : raw.bind names <;> simp [Answer.outcome, hbind, Pulled.isItem]
  | exhausted => rfl
  | failed e => rfl

/-! ## Many pulls -/

theorem run_of_finished {s : Stream ν} (h : s.finished = true) (m : Nat) :
    s.run m = ⟨List.replicate m .ended, s⟩ := by
  induction m with
  | zero => rfl
  | succ m ih => simp only [run, next_of_finished h, ih, List.replicate_succ]

/-- A run hands out what binding makes of the leading answers, then what the answer
after them gives, and then only that the stream is over; the cursor is advanced
with each pull up to the span of the stream. -/
theorem run_of_live {s : Stream ν} (h : s.finished = false) {items : List (Match ν)}
    {last : List (Pulled ν)}
    (hitems : List.Forall₂ (Answer.Binds s.names) (lead s.names.length s.cursor.answers) items)
    (hlast : Answer.Closes s.names.length
      (s.cursor.answer (lead s.names.length s.cursor.answers).length) last) (m : Nat) :
    s.run m =
      ⟨(items.map Pulled.item ++ last).take m ++
          List.replicate (m - (items.length + last.length)) .ended,
        ⟨s.names, s.cursor.advance (min m s.span), decide (s.span ≤ m)⟩⟩ := by
  induction m generalizing s items with
  | zero =>
    obtain ⟨names, cursor, finished⟩ := s
    subst h
    simp [run, span]
  | succ m ih =>
    have hnext := next_of_live h
    by_cases hb : (s.cursor.answer 0).Bindable s.names.length
    · rw [lead_of_bindable hb] at hitems hlast
      obtain ⟨found, rest, hfound, hrest, rfl⟩ := List.forall₂_cons_left_iff.1 hitems
      rw [List.length_cons, Nat.add_comm, ← Cursor.answer_advance] at hlast
      rw [hfound.outcome] at hnext
      -- One match less is left to hand out, and one advance less to make.
      have hrun := ih (s := ⟨s.names, s.cursor.advance 1, false⟩) rfl hrest hlast
      simp only [run, hnext, Pulled.isItem, Bool.not_true, hrun]
      simp only [span_of_bindable hb, List.map_cons, List.cons_append, List.take_succ_cons,
        List.length_cons, Nat.add_right_comm rest.length 1, Nat.add_sub_add_right, Cursor.advance_advance,
        Nat.add_le_add_iff_right, Nat.add_min_add_right, Nat.add_comm 1]
    · rw [lead_of_not_bindable hb] at hitems hlast
      cases hitems
      rw [List.length_nil] at hlast
      obtain ⟨hnot, hclosing⟩ := Answer.outcome_of_closes hlast
      simp only [run, hnext, hnot, Bool.not_false, run_of_finished, span_of_not_bindable hb, hclosing]
      simp

/-- Pulling for up to `k` matches hands out the first `k` that binding makes of the
leading answers, and advances the cursor as `k` pulls do. -/
theorem take_of_live {s : Stream ν} (h : s.finished = false) {items : List (Match ν)}
    (hitems : List.Forall₂ (Answer.Binds s.names) (lead s.names.length s.cursor.answers) items)
    (k : Nat) :
    s.take k =
      ⟨items.take k,
        if k < s.span then .reached
        else (s.cursor.answer (lead s.names.length s.cursor.answers).length).ending s.names,
        ⟨s.names, s.cursor.advance (min k s.span), decide (s.span ≤ k)⟩⟩ := by
  induction k generalizing s items with
  | zero =>
    obtain ⟨names, cursor, finished⟩ := s
    subst h
    simp [take, span]
  | succ k ih =>
    have hnext := next_of_live h
    by_cases hb : (s.cursor.answer 0).Bindable s.names.length
    · rw [lead_of_bindable hb] at hitems
      obtain ⟨m, rest, hm, hrest, rfl⟩ := List.forall₂_cons_left_iff.1 hitems
      rw [hm.outcome] at hnext
      have htake := ih (s := ⟨s.names, s.cursor.advance 1, false⟩) rfl hrest
      simp only [take, hnext, Pulled.isItem, Bool.not_true, htake]
      simp only [span_of_bindable hb, lead_of_bindable hb, List.take_succ_cons, List.length_cons,
        Nat.add_lt_add_iff_right, Nat.add_le_add_iff_right, Nat.add_min_add_right,
        Cursor.advance_advance, Cursor.answer_advance, Nat.add_comm 1]
    · rw [lead_of_not_bindable hb] at hitems
      cases hitems
      obtain ⟨last, hlast⟩ := Answer.exists_closes hb
      obtain ⟨hnot, -⟩ := Answer.outcome_of_closes hlast
      simp only [take, hnext, span_of_not_bindable hb, lead_of_not_bindable hb, List.length_nil,
        Answer.ending]
      cases hout : (s.cursor.answer 0).outcome s.names with
      | item m => simp [hout, Pulled.isItem] at hnot
      | failed e => simp [Pulled.isItem]
      | ended => simp [Pulled.isItem]

theorem exists_items (names : List String) {answers : List (Answer ν)}
    (h : ∀ a ∈ answers, a.Bindable names.length) :
    ∃ items : List (Match ν), List.Forall₂ (Answer.Binds names) answers items := by
  induction answers with
  | nil => exact ⟨[], .nil⟩
  | cons a rest ih =>
    obtain ⟨items, hitems⟩ := ih fun a ha => h a (List.mem_cons_of_mem _ ha)
    obtain ⟨m, hm⟩ := Answer.exists_binds (h a List.mem_cons_self)
    exact ⟨m :: items, .cons hm hitems⟩

/-- **Runs of a stream.** The matches of the leading answers that can be bound are
handed out in order; then, if the next answer is a failure of the cursor or a
match that cannot be bound, that failure, once; then only that the stream is
over. The cursor makes one advance for each of these answers and no more, so
whatever follows the answer that ends the stream is left to it. -/
theorem answers_run_start (table : CaptureTable) (c : Cursor ν) :
    ∃ (items : List (Match ν)) (last : List (Pulled ν)),
      List.Forall₂ (Answer.Binds table.snapshot) (lead table.count c.answers) items ∧
      Answer.Closes table.count (c.answer (lead table.count c.answers).length) last ∧
      ∀ m, ((start table c).run m).answers =
          (items.map Pulled.item ++ last).take m ++
            List.replicate (m - (items.length + last.length)) .ended ∧
        ((start table c).run m).stream.cursor.advances =
          c.advances + min m ((lead table.count c.answers).length + 1) ∧
        ((start table c).run m).stream.cursor.answers =
          c.answers.drop (min m ((lead table.count c.answers).length + 1)) := by
  have hcount : (start table c).names.length = table.count := table.length_snapshot
  have hlead : ∀ a ∈ lead (start table c).names.length c.answers,
      a.Bindable (start table c).names.length := fun a ha => bindable_of_mem_lead ha
  obtain ⟨items, hitems⟩ := exists_items (start table c).names hlead
  obtain ⟨last, hlast⟩ :=
    Answer.exists_closes (not_bindable_answer_lead (start table c).names.length c)
  refine ⟨items, last, hcount ▸ hitems, hcount ▸ hlast, fun m => ?_⟩
  rw [run_of_live rfl hitems hlast m, span, hcount]
  exact ⟨rfl, rfl, rfl⟩

end Stream

end TreeExplorer.Query
