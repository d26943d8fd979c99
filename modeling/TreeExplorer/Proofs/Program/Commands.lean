/-
What the two commands come to. A command first gathers what it needs: a parsed source
(`HasSource`) and, for a query, its text and the engine's consent (`HasQuery`). If that
fails it has written nothing. Once it is there, and the engine names only captures that the query has, nothing
fails any more: the languages agree because the query was compiled for the one
that the source was parsed as, every match can be bound, and a sink without a
limit takes every record (`walkSource_of_room_none`, `querySource_of_compiled`).
-/
import TreeExplorer.Program
import TreeExplorer.Proofs.Facts
import TreeExplorer.Proofs.Query.Runner
import TreeExplorer.Proofs.Record.Writer

namespace TreeExplorer

/-! ## Answers of the engine -/

namespace Engine

/-- The engine reports only captures that the query defines. -/
def CapturesInRange (e : Engine) : Prop :=
  ∀ q p root settings, ∀ raw ∈ (e.run q p root settings).found, raw.Fits q.captures.length

/-- The engine accepts the query for a language. -/
structure Accepts (e : Engine) (l : Language) (source : String) (q : CompiledQuery) : Prop where
  language : q.language = l
  text : q.text = source
  compile : e.compile l source = .ok ⟨q.patterns, q.captures⟩

theorem parseSource_eq_ok_iff {e : Engine} {l : Language} {source : String} {p : ParsedSource} :
    e.parseSource l source = .ok p ↔ p.language = l ∧ p.source = source ∧ e.misfit l = none ∧
      e.parse l source = some ⟨p.tree, p.hasErrors⟩ := by
  unfold parseSource
  constructor
  · intro h
    split at h
    next => cases h
    next hfits =>
      split at h
      next x hx =>
        obtain rfl := Except.ok.inj h
        exact ⟨rfl, rfl, hfits, hx⟩
      next => cases h
  · rintro ⟨rfl, rfl, hfits, hparse⟩
    simp only [hfits, hparse]

theorem parseSource_eq_error {e : Engine} {l : Language} {source : String} {error : Error}
    (h : e.parseSource l source = .error error) :
    ∃ reason, error = .parserInit l reason ∨ error = .noTree l reason := by
  unfold parseSource at h
  split at h
  next reason _ => exact ⟨reason, .inl (Except.error.inj h).symm⟩
  next =>
    split at h
    next => cases h
    next => exact ⟨_, .inr (Except.error.inj h).symm⟩

theorem compileQuery_eq_ok_iff {e : Engine} {l : Language} {text : String} {q : CompiledQuery} :
    e.compileQuery l text = .ok q ↔ e.Accepts l text q := by
  unfold compileQuery
  constructor
  · intro h
    split at h
    next signature hcompile =>
      obtain rfl := Except.ok.inj h
      exact ⟨rfl, rfl, hcompile⟩
    next => cases h
  · rintro ⟨rfl, rfl, hcompile⟩
    simp only [hcompile]

theorem compileQuery_eq_error {e : Engine} {l : Language} {text : String} {error : Error}
    (h : e.compileQuery l text = .error error) :
    ∃ f : QueryFault, error = .queryRejected l (oneBased f.row) (oneBased f.column) f.reason := by
  unfold compileQuery at h
  split at h
  next => cases h
  next f _ => exact ⟨f, (Except.error.inj h).symm⟩

end Engine

namespace Query

/-- How often a cursor over `total` matches is advanced by pulls up to the limit:
once for each match that is handed out, and once more to find the end. -/
def pulls (limit : Option Nat) (total : Nat) : Nat :=
  match limit with
  | none => total + 1
  | some n => min n (total + 1)

theorem CaptureTable.snapshot_ofNames (names : List String) : (ofNames names).snapshot = names := by
  refine List.ext_getElem? fun i => ?_
  simp only [snapshot, ofNames, List.getElem?_map]
  by_cases hi : i < names.length
  · simp [List.getElem?_range hi, List.getElem?_eq_getElem hi]
  · rw [List.getElem?_eq_none (by simpa using hi), List.getElem?_eq_none (Nat.le_of_not_lt hi)]
    rfl

theorem fitting_eq_self {count : Nat} {found : List (RawMatch Nat)}
    (h : ∀ raw ∈ found, raw.Fits count) : fitting count found = found :=
  List.takeWhile_eq_self_iff.2 fun raw hraw => by simpa using h raw hraw

theorem exists_bound {names : List String} {found : List (RawMatch Nat)}
    (h : ∀ raw ∈ found, raw.Fits names.length) :
    ∃ items : List (Match Nat), List.Forall₂ (fun raw m => raw.bind names = .ok m) found items := by
  induction found with
  | nil => exact ⟨[], .nil⟩
  | cons raw found ih =>
    obtain ⟨m, hm, -⟩ := RawMatch.exists_bind_of_fits (h raw List.mem_cons_self)
    obtain ⟨items, hitems⟩ := ih fun x hx => h x (List.mem_cons_of_mem _ hx)
    exact ⟨m :: items, .cons hm hitems⟩

theorem forall₂_upTo {α β : Type} {R : α → β → Prop} {l : List α} {l' : List β}
    (h : List.Forall₂ R l l') (limit : Option Nat) :
    List.Forall₂ R (upTo limit l) (upTo limit l') := by
  cases limit with
  | none => exact h
  | some k => exact List.forall₂_take k h

theorem Delivers.bound {q : CompiledQuery} {found : List (RawMatch Nat)} {limit : Option Nat}
    {taken : Stream.Taken Nat} (h : Delivers q.table found limit taken) :
    List.Forall₂ (fun raw m => raw.bind q.captures = .ok m)
      (upTo limit (fitting q.captures.length found)) taken.found := by
  have hnames : q.table.snapshot = q.captures := CaptureTable.snapshot_ofNames q.captures
  have hitems := h.items
  rw [hnames] at hitems
  exact hitems.imp fun _ _ hm => hm.1

/-- A new runner hands out the engine's matches as far as they can be bound, if the query
and the source are of one language. -/
theorem Runner.collectAll_of_language (e : Engine) {q : CompiledQuery} {p : ParsedSource}
    (hlanguage : q.language = p.language) (o : Options) (limit : Option Nat) :
    ∃ taken runner, (Runner.withOptions o).collectAll e q p limit = .ok (taken, runner) ∧
      Delivers q.table (e.run q p 0 o.settings).found limit taken ∧
      runner.cursor = taken.stream.cursor ∧
      runner.exceeded = (e.run q p 0 o.settings).raised
        (advancesMade q.table.count (e.run q p 0 o.settings).found limit) := by
  obtain ⟨hdelivers, hexceeded⟩ :=
    Runner.collect_spec (e := e) (r := Runner.withOptions o) (o := o) rfl ⟨q, p, 0, limit⟩
  exact ⟨_, _, if_pos hlanguage, hdelivers, rfl, hexceeded⟩

/-- Where every match can be bound, a new runner hands out all of them up to the limit; it
stops where it has as many as were asked for, or where there are no more. -/
theorem Runner.collectAll_of_inRange {e : Engine} (he : e.CapturesInRange) {q : CompiledQuery}
    {p : ParsedSource} (hlanguage : q.language = p.language) (o : Options) {items : List (Match Nat)}
    (hitems : List.Forall₂ (fun raw m => raw.bind q.captures = .ok m)
      (e.run q p 0 o.settings).found items) (limit : Option Nat) :
    ∃ taken runner, (Runner.withOptions o).collectAll e q p limit = .ok (taken, runner) ∧
      taken.found = upTo limit items ∧ (∀ error, taken.ending ≠ .failed error) ∧
      runner.cursor.advances = pulls limit (e.run q p 0 o.settings).found.length ∧
      runner.exceeded = (e.run q p 0 o.settings).raised
        (pulls limit (e.run q p 0 o.settings).found.length) := by
  have hfits := he q p 0 o.settings
  have hfitting : fitting q.captures.length (e.run q p 0 o.settings).found =
      (e.run q p 0 o.settings).found := fitting_eq_self hfits
  have hadvances : advancesMade q.table.count (e.run q p 0 o.settings).found limit =
      pulls limit (e.run q p 0 o.settings).found.length := by
    have hcount : q.table.count = q.captures.length := rfl
    cases limit <;> simp only [advancesMade, pulls, hcount, hfitting]
  obtain ⟨taken, runner, hcollect, hdelivers, hcursor, hexceeded⟩ :=
    Runner.collectAll_of_language e hlanguage o limit
  refine ⟨taken, runner, hcollect, ?_, ?_, ?_, hadvances ▸ hexceeded⟩
  · -- Binding is a function, so what is handed out is known from the matches.
    have hgot := hdelivers.bound
    rw [hfitting] at hgot
    have huniq : Relator.RightUnique fun (raw : RawMatch Nat) m => raw.bind q.captures = .ok m :=
      fun raw m m' hm hm' => Except.ok.inj (hm.symm.trans hm')
    exact List.right_unique_forall₂' huniq hgot (forall₂_upTo hitems limit)
  · intro error hfailed
    have hstops := hdelivers.ending
    rw [hfailed] at hstops
    cases hstops with
    | failed _ hraw hstray =>
      obtain ⟨c, hc, rfl⟩ := List.mem_map.1 (List.mem_of_find?_eq_some hstray)
      have hlt : c.1 < q.captures.length := hfits _ (List.mem_of_getElem? hraw) c hc
      have hle := List.find?_some hstray
      simp only [decide_eq_true_eq] at hle
      exact absurd hlt (Nat.not_lt.2 hle)
  · rw [hcursor, hdelivers.advances, hadvances]

end Query

/-! ## What a command needs -/

namespace Program

open Query (upTo pulls)

/-- The source of a command: its language is asked for or told by its path, its file can be
read, and the engine can use the language and makes a tree of the text. -/
structure HasSource (s : Surroundings) (path : String) (asked : Option Language)
    (p : ParsedSource) : Prop where
  language : asked.or (Language.ofPath path) = some p.language
  source : s.files.readText path = .ok p.source
  fits : s.engine.misfit p.language = none
  parse : s.engine.parse p.language p.source = some ⟨p.tree, p.hasErrors⟩

/-- The text of a query, as it is given or as its file has it. -/
inductive HasText (s : Surroundings) : Usage.QuerySource → String → Prop
  | inline (text : String) : HasText s (.inline text) text
  | file {path text : String} (h : s.files.readText path = .ok text) : HasText s (.file path) text

/-- The query and all that it needs: its text, its source, and the engine's consent. -/
structure HasQuery (s : Surroundings) (r : Usage.QueryRequest) (text : String) (p : ParsedSource)
    (q : CompiledQuery) : Prop where
  hasText : HasText s r.query text
  hasSource : HasSource s r.file r.language p
  accepted : s.engine.Accepts p.language text q

theorem parseFile_eq_ok_iff {s : Surroundings} {path : String} {asked : Option Language}
    {p : ParsedSource} : parseFile s path asked = .ok p ↔ HasSource s path asked p := by
  constructor
  · intro h
    unfold parseFile at h
    split at h
    next => cases h
    next l hl =>
      split at h
      next => cases h
      next text htext =>
        cases hparse : s.engine.parseSource l text with
        | error error => simp [hparse, Except.mapError] at h
        | ok p' =>
          rw [hparse] at h
          cases h
          obtain ⟨rfl, rfl, hfits, hmade⟩ := Engine.parseSource_eq_ok_iff.1 hparse
          exact ⟨hl, htext, hfits, hmade⟩
  · rintro ⟨hl, htext, hfits, hmade⟩
    have hparse : s.engine.parseSource p.language p.source = .ok p :=
      Engine.parseSource_eq_ok_iff.2 ⟨rfl, rfl, hfits, hmade⟩
    simp only [parseFile, hl, htext, hparse]
    rfl

theorem queryText_eq_ok_iff {s : Surroundings} {query : Usage.QuerySource} {text : String} :
    queryText s query = .ok text ↔ HasText s query text := by
  cases query with
  | inline given =>
    constructor
    · intro h
      cases h
      exact .inline _
    · rintro ⟨⟩
      rfl
  | file path =>
    constructor
    · intro h
      cases hread : s.files.readText path with
      | error f => simp [queryText, hread, Except.mapError] at h
      | ok found =>
        simp only [queryText, hread, Except.mapError, Except.ok.injEq] at h
        exact .file (h ▸ hread)
    · rintro ⟨⟩
      next h => simp only [queryText, h, Except.mapError]

/-- A query that has all it needs goes on to its source. -/
theorem HasQuery.query_eq {s : Surroundings} {r : Usage.QueryRequest} {text : String}
    {p : ParsedSource} {q : CompiledQuery} (h : HasQuery s r text p q) (t : Log.Telemetry)
    (c : Config) (w : RecordWriter) :
    query s t c r w = { querySource s c r text p w with
      events := sourceEvents t r.file p ++ (querySource s c r text p w).events } := by
  simp only [query, queryText_eq_ok_iff.2 h.hasText, parseFile_eq_ok_iff.2 h.hasSource]

theorem HasQuery.compileQuery_eq {s : Surroundings} {r : Usage.QueryRequest} {text : String}
    {p : ParsedSource} {q : CompiledQuery} (h : HasQuery s r text p q) :
    s.engine.compileQuery p.language text = .ok q :=
  Engine.compileQuery_eq_ok_iff.2 h.accepted

/-! ## Commands -/

/-- The record that a walk writes for each node. -/
def nodeRecords (p : ParsedSource) (nodes : List Nat) : List Record :=
  (nodes.filterMap p.tree.row?).map fun row => .node (.ofRow row)

/-- The record that a query writes for each match. -/
def matchRecords (p : ParsedSource) (items : List (Query.Match Nat)) : List Record :=
  items.map fun m => .found (.ofMatch p m)

/-- A walk writes a record for each node and does not fail. -/
theorem walkSource_of_room_none (r : Usage.WalkRequest) (p : ParsedSource) {w : RecordWriter}
    (hroom : w.sink.room = none) :
    (walkSource r p w).writer =
        w.append (nodeRecords p (p.pull r.limit (Walk.start 0 r.mode r.namedOnly)).nodes) ∧
      (walkSource r p w).failure = none := by
  rw [walkSource, RecordWriter.writeAll_of_room_none hroom]
  exact ⟨rfl, rfl⟩

/-- A record is written for each match, also where the stream fails after them. -/
theorem writer_writeMatches_of_room_none (c : Config) (r : Usage.QueryRequest) (p : ParsedSource)
    (taken : Query.Stream.Taken Nat) (runner : Query.Runner) {w : RecordWriter}
    (hroom : w.sink.room = none) :
    (writeMatches c r p taken runner w).writer = w.append (matchRecords p taken.found) := by
  rw [writeMatches, RecordWriter.writeAll_of_room_none hroom]
  cases taken.ending <;> rfl

/-- The warning that matches were dropped is given just where the runner says so. -/
theorem writeMatches_of_room_none (c : Config) (r : Usage.QueryRequest) (p : ParsedSource)
    {taken : Query.Stream.Taken Nat} (hending : ∀ error, taken.ending ≠ .failed error)
    (runner : Query.Runner) {w : RecordWriter} (hroom : w.sink.room = none) :
    (writeMatches c r p taken runner w).failure = none ∧
      (matchesDropped c.matchLimit ∈ (writeMatches c r p taken runner w).events ↔
        runner.exceeded = true) := by
  have heq : writeMatches c r p taken runner w = {
      writer := w.append (matchRecords p taken.found)
      events := (if taken.ending = .ended then [streamExhausted] else [])
        ++ (if runner.exceeded then [matchesDropped c.matchLimit] else [])
        ++ [queryFinished r.file (w.append (matchRecords p taken.found)).written] } := by
    rw [writeMatches, RecordWriter.writeAll_of_room_none hroom]
    cases hend : taken.ending with
    | failed error => exact absurd hend (hending error)
    | reached => rfl
    | ended => rfl
  rw [heq]
  refine ⟨rfl, ?_⟩
  have hended : matchesDropped c.matchLimit ∉
      if taken.ending = .ended then [streamExhausted] else [] := by
    split <;> simp [matchesDropped, streamExhausted]
  have hfinished : ∀ n, matchesDropped c.matchLimit ≠ queryFinished r.file n := by
    intro n
    simp [matchesDropped, queryFinished]
  by_cases hexceeded : runner.exceeded = true
  · simp [hexceeded]
  · simp [hexceeded, hended, hfinished]

/-- Whatever the engine reports, a query writes a record for each match that can be bound,
up to the limit. -/
theorem HasQuery.writer_query {s : Surroundings} {r : Usage.QueryRequest} {text : String}
    {p : ParsedSource} {q : CompiledQuery} (h : HasQuery s r text p q) (t : Log.Telemetry)
    (c : Config) {w : RecordWriter} (hroom : w.sink.room = none) :
    ∃ items, (query s t c r w).writer = w.append (matchRecords p items) ∧
      List.Forall₂ (fun raw m => raw.bind q.captures = .ok m)
        (upTo r.limit (Query.fitting q.captures.length
          (s.engine.run q p 0 c.options.settings).found)) items := by
  obtain ⟨taken, runner, hcollect, hdelivers, -, -⟩ :=
    Query.Runner.collectAll_of_language s.engine h.accepted.language c.options r.limit
  refine ⟨taken.found, ?_, hdelivers.bound⟩
  rw [h.query_eq]
  simp only [querySource, h.compileQuery_eq, hcollect]
  exact writer_writeMatches_of_room_none c r p taken runner hroom

/-- A query that has been compiled for the language of the source writes a record
for each of the engine's matches up to the limit, and does not fail. -/
theorem querySource_of_compiled {s : Surroundings} (hengine : s.engine.CapturesInRange) (c : Config)
    (r : Usage.QueryRequest) {text : String} {p : ParsedSource} {q : CompiledQuery}
    (hq : s.engine.compileQuery p.language text = .ok q) {items : List (Query.Match Nat)}
    (hitems : List.Forall₂ (fun raw m => raw.bind q.captures = .ok m)
      (s.engine.run q p 0 c.options.settings).found items) {w : RecordWriter}
    (hroom : w.sink.room = none) :
    (querySource s c r text p w).writer = w.append (matchRecords p (upTo r.limit items)) ∧
      (querySource s c r text p w).failure = none ∧
      (matchesDropped c.matchLimit ∈ (querySource s c r text p w).events ↔
        (s.engine.run q p 0 c.options.settings).raised
          (pulls r.limit (s.engine.run q p 0 c.options.settings).found.length) = true) := by
  obtain ⟨taken, runner, hcollect, hfound, hending, -, hexceeded⟩ :=
    Query.Runner.collectAll_of_inRange hengine (Engine.compileQuery_eq_ok_iff.1 hq).language
      c.options hitems r.limit
  have hwriter := writer_writeMatches_of_room_none c r p taken runner hroom
  obtain ⟨hfailure, hdropped⟩ := writeMatches_of_room_none c r p hending runner hroom
  have hcompiled : matchesDropped c.matchLimit ≠ queryCompiled q := by
    simp [matchesDropped, queryCompiled]
  have hstarted : ∀ n, matchesDropped c.matchLimit ≠ streamStarted n := by
    intro n
    simp [matchesDropped, streamStarted]
  simp only [querySource, hq, hcollect]
  refine ⟨hfound ▸ hwriter, hfailure, ?_⟩
  rw [List.mem_append, hdropped, hexceeded]
  simp [hcompiled, hstarted]

/-- A query fails before it writes, for want of something that it needs, or it has all that
it needs. -/
theorem query_cases (s : Surroundings) (t : Log.Telemetry) (c : Config) (r : Usage.QueryRequest)
    (w : RecordWriter) :
    (∃ f, (query s t c r w).failure = some f ∧ (query s t c r w).writer = w ∧
      (∀ e, f = .exploring e → (∃ l reason, e = .parserInit l reason ∨ e = .noTree l reason) ∨
        ∃ l line column reason, e = .queryRejected l line column reason)) ∨
    ∃ text p q, HasQuery s r text p q := by
  cases htext : queryText s r.query with
  | error f =>
    refine .inl ⟨f, by simp only [query, htext], by simp only [query, htext], ?_⟩
    rintro e rfl
    cases hquery : r.query with
    | inline text => rw [hquery] at htext; cases htext
    | file path =>
      rw [hquery, queryText] at htext
      cases hread : s.files.readText path <;> simp [hread, Except.mapError] at htext
  | ok text =>
    cases hp : parseFile s r.file r.language with
    | error f =>
      refine .inl ⟨f, by simp only [query, htext, hp], by simp only [query, htext, hp], ?_⟩
      rintro e rfl
      unfold parseFile at hp
      split at hp
      next => cases hp
      next l _ =>
        split at hp
        next => cases hp
        next source _ =>
          cases hparse : s.engine.parseSource l source with
          | ok p' => simp [hparse, Except.mapError] at hp
          | error error =>
            rw [hparse] at hp
            cases hp
            exact .inl ⟨_, Engine.parseSource_eq_error hparse⟩
    | ok p =>
      cases hq : s.engine.compileQuery p.language text with
      | error error =>
        refine .inl ⟨.exploring error, by simp only [query, htext, hp, querySource, hq],
          by simp only [query, htext, hp, querySource, hq], ?_⟩
        rintro e he
        cases he
        obtain ⟨f, hf⟩ := Engine.compileQuery_eq_error hq
        exact .inr ⟨_, _, _, _, hf⟩
      | ok q =>
        exact .inr ⟨text, p, q, queryText_eq_ok_iff.1 htext, parseFile_eq_ok_iff.1 hp,
          Engine.compileQuery_eq_ok_iff.1 hq⟩

/-- A command that fails has written nothing. -/
theorem perform_cases {s : Surroundings} (hengine : s.engine.CapturesInRange) (t : Log.Telemetry)
    (c : Config) (command : Usage.Command) {w : RecordWriter} (hroom : w.sink.room = none)
    (hflush : w.sink.flushFails = false) :
    (perform s t c command w).failure = none ∨
      ∃ f, (perform s t c command w).failure = some f ∧ (perform s t c command w).writer = w := by
  have hfinish : ∀ records, (w.append records).finish = none := by
    intro records
    simp [RecordWriter.finish, RecordWriter.append, hflush]
  cases command with
  | walk r =>
    cases hp : parseFile s r.file r.language with
    | error f => exact .inr ⟨f, by simp [perform, walk, hp], by simp [perform, walk, hp]⟩
    | ok p =>
      obtain ⟨hwriter, hfailure⟩ := walkSource_of_room_none r p hroom
      exact .inl (by simp [perform, walk, hp, hwriter, hfailure, hfinish])
  | query r =>
    obtain ⟨f, hfailure, hwriter, -⟩ | ⟨text, p, q, hq⟩ := query_cases s t c r w
    · exact .inr ⟨f, by simp [perform, hfailure], by simp [perform, hfailure, hwriter]⟩
    · obtain ⟨items, hitems⟩ := Query.exists_bound (hengine q p 0 c.options.settings)
      obtain ⟨hwriter, hfailure, -⟩ :=
        querySource_of_compiled hengine c r hq.compileQuery_eq hitems hroom
      exact .inl (by simp [perform, hq.query_eq, hwriter, hfailure, hfinish])

end Program

/-! ## A small engine -/

/-- A root with one child. -/
def SyntaxTree.pair : SyntaxTree :=
  ⟨[⟨none, "module", true, false, false, 0, 1, ⟨0, 0⟩, ⟨0, 1⟩⟩,
    ⟨some 0, "identifier", true, false, false, 0, 1, ⟨0, 0⟩, ⟨0, 1⟩⟩]⟩

/-- An engine that sees a root with one child in every source. A query is refused
if it is an open parenthesis; any other has one pattern, and captures the child
first and then the root. Matches count as dropped from the third advance on. -/
def Engine.pair : Engine where
  misfit _ := none
  parse _ _ := some ⟨.pair, false⟩
  compile _ text := if text = "(" then .error ⟨0, 0, "unclosed"⟩ else .ok ⟨1, ["node"]⟩
  run q _ _ _ :=
    ⟨[1, 0].map fun n => ⟨0, (List.range q.captures.length).map (·, n)⟩, some 3⟩

theorem Engine.capturesInRange_pair : Engine.pair.CapturesInRange := by
  intro q p root settings raw hraw c hc
  obtain ⟨n, -, rfl⟩ := List.mem_map.1 hraw
  obtain ⟨i, hi, rfl⟩ := List.mem_map.1 hc
  exact List.mem_range.1 hi

end TreeExplorer
