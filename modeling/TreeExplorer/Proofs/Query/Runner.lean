/-
A runner has no memory of its runs but one flag. Whatever it was used for
before, a run hands out what the engine answers under the options given last,
and the flag is the engine's for the last run that was made, after the advances
that were made on it.

What an accepted run leaves behind depends on the settings alone
(`exceeded_use_of_request`) and any other use leaves the flag as it is
(`exceeded_use_of_none`). The advances of a run are known from the law of
streams: one for each match handed out, and one more when the run is pulled
beyond them.
-/
import Mathlib.Data.List.Induction
import TreeExplorer.Proofs.Query.Run
import TreeExplorer.Query.Runner

namespace TreeExplorer

universe u

variable {ν : Type u}

namespace Query

/-! ## Matches up to a limit -/

/-- The elements up to the limit, or all of them. -/
def upTo {α : Type u} (limit : Option Nat) (l : List α) : List α :=
  match limit with
  | none => l
  | some k => l.take k

/-- The leading matches of a run that can be bound. -/
def fitting (count : Nat) (found : List (RawMatch ν)) : List (RawMatch ν) :=
  found.takeWhile fun raw => raw.Fits count

/-- How often the cursor of a run is advanced when matches are pulled up to the limit. -/
def advancesMade (count : Nat) (found : List (RawMatch ν)) (limit : Option Nat) : Nat :=
  match limit with
  | none => (fitting count found).length + 1
  | some k => min k ((fitting count found).length + 1)

/-- Why pulling for the matches of a run up to the limit stops. -/
inductive Stops (count : Nat) (found : List (RawMatch ν)) : Option Nat → Ending → Prop
  | reached {k : Nat} (h : k ≤ (fitting count found).length) : Stops count found (some k) .reached
  | ended {limit : Option Nat} (hlimit : ∀ k ∈ limit, (fitting count found).length < k)
      (h : ∀ raw ∈ found, raw.Fits count) : Stops count found limit .ended
  | failed {limit : Option Nat} {raw : RawMatch ν} {i : Nat}
      (hlimit : ∀ k ∈ limit, (fitting count found).length < k)
      (hraw : found[(fitting count found).length]? = some raw) (h : raw.stray? count = some i) :
      Stops count found limit (.failed (.unknownCapture i count))

/-- What is taken of a run is its matches in order, bound to names, as far as they
can be bound and up to the limit. -/
structure Delivers (table : CaptureTable) (found : List (RawMatch ν)) (limit : Option Nat)
    (t : Stream.Taken ν) : Prop where
  names : t.stream.names = table.snapshot
  items : List.Forall₂ (fun raw m => raw.bind table.snapshot = .ok m ∧ m.pattern = raw.pattern)
    (upTo limit (fitting table.count found)) t.found
  ending : Stops table.count found limit t.ending
  advances : t.stream.cursor.advances = advancesMade table.count found limit

theorem lead_map_found (count : Nat) (found : List (RawMatch ν)) :
    Stream.lead count (found.map .found) = (fitting count found).map .found := by
  rw [Stream.lead, List.takeWhile_map]
  rfl

theorem fits_of_mem_fitting {count : Nat} {found : List (RawMatch ν)} {raw : RawMatch ν}
    (h : raw ∈ fitting count found) : raw.Fits count := by
  rw [fitting] at h
  simpa using List.mem_takeWhile_imp h

theorem length_fitting_le (count : Nat) (found : List (RawMatch ν)) :
    (fitting count found).length ≤ found.length :=
  (List.takeWhile_prefix _).length_le

/-- Beyond the matches that can be bound a run ends, or fails with the next match. -/
theorem stops_beyond {table : CaptureTable} {found : List (RawMatch ν)} {limit : Option Nat}
    {c : Cursor ν} (hc : c.answers = found.map .found)
    (hlimit : ∀ k ∈ limit, (fitting table.count found).length < k) :
    Stops table.count found limit
      ((c.answer (fitting table.count found).length).ending table.snapshot) := by
  have hnot := Stream.not_bindable_answer_lead table.count c
  rw [hc, lead_map_found, List.length_map] at hnot
  cases hraw : found[(fitting table.count found).length]? with
  | none =>
    have hanswer : c.answer (fitting table.count found).length = .exhausted := by
      simp [Cursor.answer, hc, hraw]
    rw [hanswer]
    refine .ended hlimit fun raw hmem => ?_
    have hall : fitting table.count found = found :=
      (List.takeWhile_prefix _).eq_of_length_le (List.getElem?_eq_none_iff.1 hraw)
    exact fits_of_mem_fitting (hall.symm ▸ hmem)
  | some raw =>
    have hanswer : c.answer (fitting table.count found).length = .found raw := by
      simp [Cursor.answer, hc, hraw]
    rw [hanswer] at hnot ⊢
    obtain ⟨i, hi⟩ := RawMatch.exists_stray_of_not_fits hnot
    have hbind : raw.bind table.snapshot = .error (.unknownCapture i table.count) := by
      rw [← table.length_snapshot] at hi ⊢
      exact RawMatch.bind_of_stray hi
    simp only [Answer.ending, Answer.outcome, hbind]
    exact .failed hlimit hraw hi

/-- The pulls of a new stream on the matches of a run. -/
theorem take_start (table : CaptureTable) (found : List (RawMatch ν)) {c : Cursor ν}
    (hc : c.answers = found.map .found) :
    ∃ items, List.Forall₂ (fun raw m => raw.bind table.snapshot = .ok m ∧ m.pattern = raw.pattern)
        (fitting table.count found) items ∧
      ∀ k, (Stream.start table c).take k =
        ⟨items.take k,
          if k < (fitting table.count found).length + 1 then .reached
          else (c.answer (fitting table.count found).length).ending table.snapshot,
          ⟨table.snapshot, c.advance (min k ((fitting table.count found).length + 1)),
            decide ((fitting table.count found).length + 1 ≤ k)⟩⟩ := by
  have hlead : Stream.lead table.snapshot.length c.answers =
      (fitting table.count found).map .found := by
    rw [table.length_snapshot, hc, lead_map_found]
  have hspan : (Stream.start table c).span = (fitting table.count found).length + 1 := by
    simp only [Stream.span, Stream.start, hlead, List.length_map]
  have hbindable : ∀ a ∈ (fitting table.count found).map Answer.found,
      a.Bindable table.snapshot.length := by
    rw [← hlead]
    exact fun a ha => Stream.bindable_of_mem_lead ha
  obtain ⟨items, hitems⟩ := Stream.exists_items table.snapshot hbindable
  refine ⟨items, ?_, fun k => ?_⟩
  · refine (List.forall₂_map_left_iff.1 hitems).imp fun raw m hm => ?_
    obtain ⟨raw', hraw, hbind, hpattern⟩ := hm
    cases hraw
    exact ⟨hbind, hpattern⟩
  · rw [Stream.take_of_live (s := .start table c) rfl (hlead.symm ▸ hitems), hspan]
    simp only [Stream.start, hlead, List.length_map]

theorem takeUpTo_start (table : CaptureTable) (found : List (RawMatch ν)) {c : Cursor ν}
    (hc : c.answers = found.map .found) (hnew : c.advances = 0) (limit : Option Nat) :
    Delivers table found limit ((Stream.start table c).takeUpTo limit) ∧
      ((Stream.start table c).takeUpTo limit).stream.cursor =
        c.advance (advancesMade table.count found limit) := by
  obtain ⟨items, hitems, htake⟩ := take_start table found hc
  have hlength := hitems.length_eq
  have hle := length_fitting_le table.count found
  have hadvances : ∀ k, (c.advance k).advances = k := by
    intro k
    simp only [Cursor.advance, hnew, Nat.zero_add]
  cases limit with
  | none =>
    have hall : (Stream.start table c).takeUpTo none =
        (Stream.start table c).take (found.length + 1) := by
      rw [Stream.takeUpTo, Option.getD_none, Stream.start, hc, List.length_map]
    have hmin : min (found.length + 1) ((fitting table.count found).length + 1) =
        advancesMade table.count found none :=
      Nat.min_eq_right (Nat.succ_le_succ hle)
    rw [hall, htake, hmin]
    refine ⟨⟨rfl, ?_, ?_, hadvances _⟩, rfl⟩
    · rw [upTo, List.take_of_length_le (by omega)]
      exact hitems
    · rw [if_neg (by omega)]
      exact stops_beyond hc (by simp)
  | some k =>
    have hsome : (Stream.start table c).takeUpTo (some k) = (Stream.start table c).take k := rfl
    rw [hsome, htake]
    refine ⟨⟨rfl, List.forall₂_take k hitems, ?_, hadvances _⟩, rfl⟩
    by_cases hk : k < (fitting table.count found).length + 1
    · rw [if_pos hk]
      exact .reached (Nat.le_of_lt_succ hk)
    · rw [if_neg hk]
      refine stops_beyond hc fun j hj => ?_
      cases hj
      omega

end Query

/-- Whether the engine reports dropped matches after `n` advances of a run. -/
def QueryRun.raised (run : QueryRun) (n : Nat) : Bool :=
  run.exceededFrom.any (· ≤ n)

namespace Query.Runner

/-! ## Uses of a runner -/

/-- A run: what is asked, of what, below which node, and how many matches are pulled. -/
structure Request where
  query : CompiledQuery
  source : ParsedSource
  root : Nat
  limit : Option Nat

namespace Request

/-- The engine's run under options alone. What they leave open is unlimited. -/
def runUnder (x : Request) (e : Engine) (o : Options) : QueryRun :=
  e.run x.query x.source x.root
    ⟨o.matchLimit.getD 4294967295, o.maxStartDepth, o.byteRange.getD (0, 18446744073709551615)⟩

/-- How often the engine is advanced in a run under options. -/
def advancesUnder (x : Request) (e : Engine) (o : Options) : Nat :=
  advancesMade x.query.table.count (x.runUnder e o).found x.limit

end Request

/-- A use of a runner: new options, a run below a node, or a run over a whole
source, which is refused where the languages differ. -/
inductive Use where
  | configure (options : Options)
  | run (query : CompiledQuery) (source : ParsedSource) (root : Nat) (limit : Option Nat)
  | runAll (query : CompiledQuery) (source : ParsedSource) (limit : Option Nat)

namespace Use

/-- The options that a use sets. -/
def options? : Use → Option Options
  | .configure o => some o
  | .run .. => none
  | .runAll .. => none

/-- The run that a use makes, if it is not refused. -/
def request? : Use → Option Request
  | .configure _ => none
  | .run q p root limit => some ⟨q, p, root, limit⟩
  | .runAll q p limit => if q.language = p.language then some ⟨q, p, 0, limit⟩ else none

end Use

/-- A new runner, with options or without. -/
def create : Option Options → Runner
  | none => fresh
  | some o => withOptions o

/-- The runner after a use. -/
def use (e : Engine) (r : Runner) : Use → Runner
  | .configure o => r.configure o
  | .run q p root limit => (r.collect e q p root limit).2
  | .runAll q p limit =>
    match r.collectAll e q p limit with
    | .ok taken => taken.2
    | .error _ => r

/-- A new runner after several uses. -/
def after (e : Engine) (created : Option Options) (uses : List Use) : Runner :=
  uses.foldl (use e) (create created)

/-- The options set last. -/
def optionsAfter (created : Option Options) (uses : List Use) : Options :=
  (uses.filterMap Use.options?).getLast?.getD (created.getD {})

variable {e : Engine}

/-- A use sets options, makes a run, or leaves the runner as it is. -/
theorem use_cases (r : Runner) (u : Use) :
    (∃ o, u.options? = some o ∧ u.request? = none ∧ use e r u = r.configure o) ∨
    (∃ x, u.options? = none ∧ u.request? = some x ∧
      use e r u = (r.collect e x.query x.source x.root x.limit).2) ∨
    (u.options? = none ∧ u.request? = none ∧ use e r u = r) := by
  cases u with
  | configure o => exact .inl ⟨o, rfl, rfl, rfl⟩
  | run q p root limit => exact .inr (.inl ⟨⟨q, p, root, limit⟩, rfl, rfl, rfl⟩)
  | runAll q p limit =>
    by_cases h : q.language = p.language
    · refine .inr (.inl ⟨⟨q, p, 0, limit⟩, rfl, if_pos h, ?_⟩)
      simp only [use, collectAll, if_pos h]
    · refine .inr (.inr ⟨rfl, if_neg h, ?_⟩)
      simp only [use, collectAll, if_neg h]

/-- A run hands out what the engine finds under the runner's settings, and the
flag it leaves is the engine's. -/
theorem collect_spec {r : Runner} {o : Options} (hr : r.settings = o.settings) (x : Request) :
    Delivers x.query.table (x.runUnder e o).found x.limit
        (r.collect e x.query x.source x.root x.limit).1 ∧
      (r.collect e x.query x.source x.root x.limit).2.exceeded =
        (x.runUnder e o).raised (x.advancesUnder e o) := by
  have hrun : e.run x.query x.source x.root r.settings = x.runUnder e o := by
    rw [hr]
    rfl
  obtain ⟨hdelivers, hcursor⟩ := takeUpTo_start x.query.table (x.runUnder e o).found
    (c := { answers := (x.runUnder e o).found.map .found
            exceededFrom := (x.runUnder e o).exceededFrom }) rfl rfl x.limit
  simp only [collect, start, hrun]
  refine ⟨hdelivers, ?_⟩
  simp only [exceeded, hcursor, Cursor.exceeded, Cursor.advance, Nat.zero_add, QueryRun.raised]
  cases (x.runUnder e o).exceededFrom <;> rfl

/-! ## Histories -/

theorem after_append (created : Option Options) (uses later : List Use) :
    after e created (uses ++ later) = later.foldl (use e) (after e created uses) :=
  List.foldl_append

theorem settings_create (created : Option Options) :
    (create created).settings = (created.getD {}).settings := by
  cases created <;> rfl

/-- The settings are those of the options set last, whatever else was done. -/
theorem settings_after (created : Option Options) (uses : List Use) :
    (after e created uses).settings = (optionsAfter created uses).settings := by
  induction uses using List.reverseRecOn with
  | nil => exact settings_create created
  | append_singleton uses u ih =>
    rw [after_append, List.foldl_cons, List.foldl_nil]
    obtain ⟨o, ho, -, huse⟩ | ⟨x, ho, -, huse⟩ | ⟨ho, -, huse⟩ :=
      use_cases (e := e) (after e created uses) u
    · simp [huse, configure, optionsAfter, List.filterMap_append, ho]
    · have hkept : (use e (after e created uses) u).settings = (after e created uses).settings := by
        rw [huse]
        rfl
      simpa [hkept, optionsAfter, List.filterMap_append, ho] using ih
    · simpa [huse, optionsAfter, List.filterMap_append, ho] using ih

/-- A use that makes no run leaves the flag as it is. -/
theorem exceeded_use_of_none (r : Runner) {u : Use} (h : u.request? = none) :
    (use e r u).exceeded = r.exceeded := by
  obtain ⟨o, -, -, huse⟩ | ⟨x, -, hx, -⟩ | ⟨-, -, huse⟩ := use_cases (e := e) r u
  · rw [huse]
    rfl
  · cases h.symm.trans hx
  · rw [huse]

theorem exceeded_foldl_use (r : Runner) {later : List Use} (h : ∀ u ∈ later, u.request? = none) :
    (later.foldl (use e) r).exceeded = r.exceeded := by
  induction later generalizing r with
  | nil => rfl
  | cons u later ih =>
    obtain ⟨hu, hlater⟩ := List.forall_mem_cons.1 h
    rw [List.foldl_cons, ih (use e r u) hlater, exceeded_use_of_none r hu]

/-- A use that makes a run leaves the flag that the engine raises in it under the
options set last. -/
theorem exceeded_use_of_request {created : Option Options} {uses : List Use} {u : Use} {x : Request}
    (h : u.request? = some x) :
    (use e (after e created uses) u).exceeded =
      (x.runUnder e (optionsAfter created uses)).raised
        (x.advancesUnder e (optionsAfter created uses)) := by
  obtain ⟨o, -, hx, -⟩ | ⟨y, -, hy, huse⟩ | ⟨-, hx, -⟩ :=
    use_cases (e := e) (after e created uses) u
  · cases h.symm.trans hx
  · cases h.symm.trans hy
    rw [huse]
    exact (collect_spec (settings_after created uses) x).2
  · cases h.symm.trans hx

/-- **A runner has no memory of its runs but one flag**: after any uses, a run
hands out what the engine finds under the options set last. The flag is the
engine's for the last run that was made, after the advances made on it, and is
down if there was none. A run over a whole source is refused just where the
languages differ. A use that makes no run keeps the flag, and a refused one the
settings too. -/
theorem delivers_collect_after (e : Engine) (created : Option Options) (uses : List Use) :
    (∀ x : Request,
      Delivers x.query.table (x.runUnder e (optionsAfter created uses)).found x.limit
        ((after e created uses).collect e x.query x.source x.root x.limit).1) ∧
    (∀ q p limit taken, (after e created uses).collectAll e q p limit = .ok taken ↔
      q.language = p.language ∧ taken = (after e created uses).collect e q p 0 limit) ∧
    (∀ q p limit error, (after e created uses).collectAll e q p limit = .error error ↔
      q.language ≠ p.language ∧ error = .languageMismatch q.language p.language) ∧
    (∀ before u later x, uses = before ++ u :: later → u.request? = some x →
      (∀ v ∈ later, v.request? = none) →
      (after e created uses).exceeded =
        (x.runUnder e (optionsAfter created before)).raised
          (x.advancesUnder e (optionsAfter created before))) ∧
    ((∀ u ∈ uses, u.request? = none) → (after e created uses).exceeded = false) ∧
    (∀ u, u.request? = none →
      (after e created (uses ++ [u])).exceeded = (after e created uses).exceeded ∧
      (u.options? = none → after e created (uses ++ [u]) = after e created uses)) := by
  refine ⟨fun x => (collect_spec (settings_after created uses) x).1, ?_, ?_, ?_, ?_, ?_⟩
  · intro q p limit taken
    by_cases h : q.language = p.language <;> simp [collectAll, h, eq_comm]
  · intro q p limit error
    by_cases h : q.language = p.language <;> simp [collectAll, h, eq_comm]
  · rintro before u later x rfl hx hlater
    rw [after_append, List.foldl_cons, exceeded_foldl_use _ hlater]
    exact exceeded_use_of_request hx
  · intro h
    rw [after, exceeded_foldl_use _ h]
    cases created <;> rfl
  · intro u hu
    rw [after_append, List.foldl_cons, List.foldl_nil]
    refine ⟨exceeded_use_of_none _ hu, fun ho => ?_⟩
    obtain ⟨o, ho', -, -⟩ | ⟨x, -, hx, -⟩ | ⟨-, -, huse⟩ :=
      use_cases (e := e) (after e created uses) u
    · cases ho.symm.trans ho'
    · cases hu.symm.trans hx
    · exact huse

/-- An engine that drops its second match under a limit of one, and says so only
when it is advanced beyond the first. -/
def narrow : Engine where
  misfit _ := none
  parse _ _ := none
  compile _ _ := .error ⟨0, 0, ""⟩
  run _ _ _ settings :=
    if settings.matchLimit ≤ 1 then ⟨[⟨0, [(0, 0)]⟩], some 2⟩
    else ⟨[⟨0, [(0, 0)]⟩, ⟨1, [(0, 1)]⟩], none⟩

/-- A module with one identifier in it, and a query for both. A runner on `narrow` that was
limited, drained and configured anew finds both matches next, though its flag is still that of the limited run; a refused run
leaves it so. With the one match pulled and no more, the flag is down. -/
theorem delivers_narrow :
    let q : CompiledQuery := ⟨.python, "(module) @node (identifier) @node", 2, ["node"]⟩
    let row (parent : Option Nat) (kind : String) : Row :=
      ⟨parent, kind, true, false, false, 0, 1, ⟨0, 0⟩, ⟨0, 1⟩⟩
    let p : ParsedSource := ⟨.python, "x", ⟨[row none "module", row (some 0) "identifier"]⟩, false⟩
    let limited : Option Options := some { matchLimit := some 1 }
    let drained := after narrow limited [.run q p 0 none, .configure {}]
    let refused := Use.runAll { q with language := .rust } p none
    Delivers q.table [⟨0, [(0, 0)]⟩, ⟨1, [(0, 1)]⟩] none (drained.collect narrow q p 0 none).1 ∧
    drained.exceeded = true ∧
    after narrow limited [.run q p 0 none, .configure {}, refused] = drained ∧
    (after narrow limited [.run q p 0 (some 1)]).exceeded = false ∧
    (after narrow limited [.configure {}, refused]).exceeded = false := by
  intro q row p limited drained refused
  have hrefused : refused.request? = none := by decide
  obtain ⟨hcollect, -, -, hlast, -, hkeep⟩ :=
    delivers_collect_after narrow limited [.run q p 0 none, .configure {}]
  obtain ⟨-, -, -, hpulled, -, -⟩ := delivers_collect_after narrow limited [.run q p 0 (some 1)]
  obtain ⟨-, -, -, -, hidle, -⟩ := delivers_collect_after narrow limited [.configure {}, refused]
  refine ⟨hcollect ⟨q, p, 0, none⟩, ?_, (hkeep refused hrefused).2 rfl, ?_, hidle ?_⟩
  · exact (hlast [] _ [.configure {}] _ rfl rfl (by simp [Use.request?])).trans (by decide)
  · exact (hpulled [] _ [] _ rfl rfl (by simp)).trans (by decide)
  · exact List.forall_mem_cons.2 ⟨rfl, List.forall_mem_singleton.2 hrefused⟩

end Query.Runner

end TreeExplorer
