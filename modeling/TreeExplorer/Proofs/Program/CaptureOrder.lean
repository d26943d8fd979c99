/-
The order of captures does not show. A match keeps its names in no order of its own,
so whatever reads it must come to the same for every order: `Match.Reorders` relates
two matches with the same bindings, and their records are equal because names are
sorted and each is there once (`MatchRecord.ofMatch_eq_of_reorders`).

What the engine reports is related if it binds alike: same pattern, same index refused,
same last capture under each name (`RawMatch.Alike`). Related streams hand out related
matches at each pull (`Stream.Alike.next`) and hence in a run (`Stream.Alike.take`), and
what is written of them is the same: a record that tells of each report (`MatchRecord.Tells`).
-/
import TreeExplorer.Proofs.Program.Commands
import TreeExplorer.Proofs.Query.Captures
import TreeExplorer.Proofs.Record.Lines
import TreeExplorer.Proofs.Text.ByteOrder

namespace TreeExplorer

namespace Query

universe u

variable {ν : Type u}

/-! ## Bindings in any order -/

/-- The same bindings, each name once, in any order. -/
structure Match.Reorders (m m' : Match ν) : Prop where
  pattern : m.pattern = m'.pattern
  captures : m.captures.Perm m'.captures
  distinct : (m.captures.map (·.1)).Nodup

/-! ## Reports that bind alike -/

/-- Two matches of one pattern that are refused for the same index, if at all, and have
the same last capture under each name. -/
structure RawMatch.Alike (names : List String) (raw raw' : RawMatch ν) : Prop where
  pattern : raw.pattern = raw'.pattern
  stray : raw.stray? names.length = raw'.stray? names.length
  last : ∀ x, lastUnder names raw.captures x = lastUnder names raw'.captures x

theorem RawMatch.fits_of_stray?_eq_none {count : Nat} {raw : RawMatch ν}
    (h : raw.stray? count = none) : raw.Fits count := by
  by_contra hnot
  obtain ⟨i, hi⟩ := exists_stray_of_not_fits hnot
  rw [h] at hi
  cases hi

theorem RawMatch.reorders_of_bind {names : List String} {raw raw' : RawMatch ν} {m m' : Match ν}
    (hm : raw.bind names = .ok m) (hm' : raw'.bind names = .ok m')
    (hpattern : raw.pattern = raw'.pattern)
    (hlast : ∀ x, lastUnder names raw.captures x = lastUnder names raw'.captures x) :
    m.Reorders m' := by
  have hdistinct := nodup_names_of_bind hm
  have hdistinct' := nodup_names_of_bind hm'
  refine ⟨?_, perm_of_lookup hdistinct hdistinct' fun x => ?_, hdistinct⟩
  · rw [(bindInto_of_bind hm).1, (bindInto_of_bind hm').1, hpattern]
  · calc m.captures.lookup x = lastUnder names raw.captures x := capture_of_bind hm x
      _ = lastUnder names raw'.captures x := hlast x
      _ = m'.captures.lookup x := (capture_of_bind hm' x).symm

theorem RawMatch.Alike.bind {names : List String} {raw raw' : RawMatch ν}
    (h : raw.Alike names raw') :
    (∃ e, raw.bind names = .error e ∧ raw'.bind names = .error e) ∨
      ∃ m m', raw.bind names = .ok m ∧ raw'.bind names = .ok m' ∧ m.Reorders m' := by
  cases hstray : raw.stray? names.length with
  | some i => exact .inl ⟨_, bind_of_stray hstray, bind_of_stray (h.stray ▸ hstray)⟩
  | none =>
    obtain ⟨m, hm, -⟩ := exists_bind_of_fits (fits_of_stray?_eq_none hstray)
    obtain ⟨m', hm', -⟩ := exists_bind_of_fits (fits_of_stray?_eq_none (h.stray ▸ hstray))
    exact .inr ⟨m, m', hm, hm', reorders_of_bind hm hm' h.pattern h.last⟩

/-- Answers that bind alike. -/
inductive Answer.Alike (names : List String) : Answer ν → Answer ν → Prop
  | found {raw raw' : RawMatch ν} (h : raw.Alike names raw') :
    Alike names (.found raw) (.found raw')
  | exhausted : Alike names .exhausted .exhausted
  | failed (e : Error) : Alike names (.failed e) (.failed e)

/-- What is handed out is the same but for the order of bindings. -/
inductive Pulled.Alike : Pulled ν → Pulled ν → Prop
  | item {m m' : Match ν} (h : m.Reorders m') : Alike (.item m) (.item m')
  | failed (e : Error) : Alike (.failed e) (.failed e)
  | ended : Alike .ended .ended

namespace Stream

/-- Streams whose answers bind alike. -/
structure Alike (s s' : Stream ν) : Prop where
  names : s.names = s'.names
  finished : s.finished = s'.finished
  advances : s.cursor.advances = s'.cursor.advances
  exceededFrom : s.cursor.exceededFrom = s'.cursor.exceededFrom
  answers : List.Forall₂ (Answer.Alike s.names) s.cursor.answers s'.cursor.answers

theorem Alike.next {s s' : Stream ν} (h : s.Alike s') :
    s.next.1.Alike s'.next.1 ∧ s.next.2.Alike s'.next.2 := by
  obtain ⟨names, ⟨answers, advances, exceededFrom⟩, finished⟩ := s
  obtain ⟨names', ⟨answers', advances', exceededFrom'⟩, finished'⟩ := s'
  obtain ⟨rfl, rfl, rfl, rfl, hanswers⟩ := h
  simp only at hanswers
  cases finished with
  | true => exact ⟨.ended, rfl, rfl, rfl, rfl, hanswers⟩
  | false =>
    cases hanswers with
    | nil => exact ⟨.ended, rfl, rfl, rfl, rfl, .nil⟩
    | cons ha hrest =>
      cases ha with
      | exhausted => exact ⟨.ended, rfl, rfl, rfl, rfl, hrest⟩
      | failed e => exact ⟨.failed e, rfl, rfl, rfl, rfl, hrest⟩
      | found hraw =>
        obtain ⟨e, he, he'⟩ | ⟨m, m', hm, hm', hmatch⟩ := hraw.bind
        · simp only [Stream.next, Cursor.next, he, he']
          exact ⟨.failed e, rfl, rfl, rfl, rfl, hrest⟩
        · simp only [Stream.next, Cursor.next, hm, hm']
          exact ⟨.item hmatch, rfl, rfl, rfl, rfl, hrest⟩

/-- Outcomes of pulls that are the same but for the order of bindings. -/
structure Taken.Alike (t t' : Taken ν) : Prop where
  found : List.Forall₂ Match.Reorders t.found t'.found
  ending : t.ending = t'.ending
  stream : t.stream.Alike t'.stream

theorem Alike.take {s s' : Stream ν} (h : s.Alike s') (k : Nat) : (s.take k).Alike (s'.take k) := by
  induction k generalizing s s' with
  | zero => exact ⟨.nil, rfl, h⟩
  | succ k ih =>
    obtain ⟨hpulled, hnext⟩ := h.next
    unfold Stream.take
    generalize s.next = x at hpulled hnext
    generalize s'.next = x' at hpulled hnext
    obtain ⟨pulled, s⟩ := x
    obtain ⟨pulled', s'⟩ := x'
    cases hpulled with
    | item hmatch =>
      obtain ⟨hfound, hending, hstream⟩ := ih hnext
      exact ⟨.cons hmatch hfound, hending, hstream⟩
    | failed e => exact ⟨.nil, rfl, hnext⟩
    | ended => exact ⟨.nil, rfl, hnext⟩

theorem Alike.takeUpTo {s s' : Stream ν} (h : s.Alike s') (limit : Option Nat) :
    (s.takeUpTo limit).Alike (s'.takeUpTo limit) := by
  rw [Stream.takeUpTo, Stream.takeUpTo, h.answers.length_eq]
  exact h.take _

end Stream

end Query

/-- Runs of a query that bind alike. -/
structure QueryRun.Alike (names : List String) (r r' : QueryRun) : Prop where
  found : List.Forall₂ (Query.RawMatch.Alike names) r.found r'.found
  exceededFrom : r.exceededFrom = r'.exceededFrom

/-- Engines that parse and compile the same, and whose runs bind alike. -/
structure Engine.Alike (e e' : Engine) : Prop where
  misfit : e.misfit = e'.misfit
  parse : e.parse = e'.parse
  compile : e.compile = e'.compile
  run : ∀ q p root settings,
    (e.run q p root settings).Alike q.table.snapshot (e'.run q p root settings)

theorem Query.Runner.collect_of_alike {e e' : Engine} (h : e.Alike e') (r : Runner)
    (q : CompiledQuery) (p : ParsedSource) (root : Nat) (limit : Option Nat) :
    (r.collect e q p root limit).1.Alike (r.collect e' q p root limit).1 ∧
      (r.collect e q p root limit).2.exceeded = (r.collect e' q p root limit).2.exceeded := by
  have hrun := h.run q p root r.settings
  have hstart : (r.start e q p root).Alike (r.start e' q p root) := by
    refine ⟨rfl, rfl, rfl, hrun.exceededFrom, ?_⟩
    refine List.forall₂_map_left_iff.2 (List.forall₂_map_right_iff.2 ?_)
    exact hrun.found.imp fun _ _ hraw => .found hraw
  have htaken := hstart.takeUpTo limit
  refine ⟨htaken, ?_⟩
  have hexceeded := htaken.stream.exceededFrom
  have hadvances := htaken.stream.advances
  unfold exceeded Cursor.exceeded collect
  rw [hexceeded, hadvances]

/-! ## Records -/

namespace MatchRecord

/-- The record tells of a match that the engine reports: its pattern, and in the order of
their bytes the names that are bound, each with the record and the text of the last node
under it. -/
structure Tells (p : ParsedSource) (names : List String) (raw : Query.RawMatch Nat)
    (record : MatchRecord) : Prop where
  pattern : record.pattern = raw.pattern
  ordered : record.captures.Pairwise fun a b => Text.bytes a.1 < Text.bytes b.1
  captures : ∀ x a, (x, a) ∈ record.captures ↔ ∃ n row,
    Query.lastUnder names raw.captures x = some n ∧ p.tree.row? n = some row ∧
      a = (NodeRecord.ofRow row).withText (p.textOf row)

/-- The text of a record under a number: as JSON a line that reads back as the record, and
for people a heading with a line for each capture under it. -/
def Prints (number : Nat) (record : MatchRecord) (text : String) : RecordFormat → Prop
  | .json => ∃ line v, text = line ++ "\n" ∧ Json.parse line = some v ∧
      Record.ofJson? v = some (.found record)
  | .human => ∃ lines, text = "match " ++ Text.decimal number ++ " (pattern " ++
        Text.decimal record.pattern ++ ")\n" ++ String.join (lines.map (· ++ "\n")) ∧
      List.Forall₂ (fun line c => line = "  @" ++ c.1 ++ " " ++ c.2.human) lines record.captures

/-- The order of bindings is lost where names are sorted. -/
theorem sortByName_eq_of_perm {α : Type} {l l' : List (String × α)} (h : (l.map (·.1)).Nodup)
    (hperm : l.Perm l') : sortByName l = sortByName l' := by
  have h' : (l'.map (·.1)).Nodup := (hperm.map _).nodup_iff.1 h
  refine ((sortByName_perm l).trans (hperm.trans (sortByName_perm l').symm)).eq_of_pairwise ?_
    (pairwise_sortByName h) (pairwise_sortByName h')
  exact fun a b _ _ hlt hgt => absurd hgt (String.lt_asymm hlt)

/-- Matches with the same bindings have the same record. -/
theorem ofMatch_eq_of_reorders (p : ParsedSource) {m m' : Query.Match Nat} (h : m.Reorders m') :
    ofMatch p m = ofMatch p m' := by
  have hcaptures : (ofMatch p m).captures = (ofMatch p m').captures :=
    sortByName_eq_of_perm (nodup_names_shown p h.distinct) (h.captures.filterMap _)
  rw [ofMatch, ofMatch, MatchRecord.mk.injEq]
  exact ⟨h.pattern, hcaptures⟩

theorem mem_captures_ofMatch {p : ParsedSource} {m : Query.Match Nat}
    (h : (m.captures.map (·.1)).Nodup) {x : String} {a : NodeRecord} :
    (x, a) ∈ (ofMatch p m).captures ↔ ∃ n row, m.capture x = some n ∧
      p.tree.row? n = some row ∧ a = (NodeRecord.ofRow row).withText (p.textOf row) := by
  have hshown : (x, a) ∈ (ofMatch p m).captures ↔ ∃ c ∈ m.captures, shown p c = some (x, a) := by
    rw [← List.mem_filterMap]
    exact (sortByName_perm _).mem_iff
  rw [hshown]
  constructor
  · rintro ⟨⟨k, n⟩, hc, hsome⟩
    obtain ⟨row, hrow, heq⟩ := Option.map_eq_some_iff.1 hsome
    cases heq
    exact ⟨n, row, (mem_iff_lookup h).1 hc, hrow, rfl⟩
  · rintro ⟨n, row, hn, hrow, rfl⟩
    exact ⟨(x, n), (mem_iff_lookup h).2 hn, Option.map_eq_some_iff.2 ⟨row, hrow, rfl⟩⟩

/-- Where all nodes have rows no name is lost. -/
theorem names_ofMatch_perm {p : ParsedSource} {m : Query.Match Nat}
    (h : ∀ c ∈ m.captures, c.2 < p.tree.rows.length) :
    ((ofMatch p m).captures.map (·.1)).Perm (m.captures.map (·.1)) := by
  have hkept : (m.captures.filterMap (shown p)).map (·.1) = m.captures.map (·.1) := by
    rw [List.map_filterMap, ← List.filterMap_eq_map]
    refine List.filterMap_congr fun c hc => ?_
    obtain ⟨row, hrow⟩ : ∃ row, p.tree.row? c.2 = some row :=
      ⟨_, List.getElem?_eq_getElem (h c hc)⟩
    rw [shown, hrow]
    rfl
  rw [← hkept]
  exact (sortByName_perm _).map _

theorem tells_ofMatch (p : ParsedSource) {names : List String} {raw : Query.RawMatch Nat}
    {m : Query.Match Nat} (h : raw.bind names = .ok m) : Tells p names raw (ofMatch p m) := by
  have hdistinct := Query.RawMatch.nodup_names_of_bind h
  refine ⟨(Query.RawMatch.bindInto_of_bind h).1, ?_, fun x a => ?_⟩
  · exact (ordered_ofMatch p hdistinct).imp Text.bytes_lt_bytes
  · rw [mem_captures_ofMatch hdistinct, Query.RawMatch.capture_of_bind h]

theorem prints_block (format : RecordFormat) (number : Nat) (record : MatchRecord) :
    record.Prints number (Record.block format number (.found record)) format := by
  cases format with
  | json =>
    refine ⟨record.json.text, record.json, ?_, record.whole_json.parse_text,
      Record.ofJson?_json (.found record)⟩
    simp [Record.block, Record.lines, Record.json]
  | human =>
    refine ⟨record.captures.map fun c => "  @" ++ c.1 ++ " " ++ c.2.human, ?_, ?_⟩
    · simp [Record.block, Record.lines, Record.human, human, String.append_assoc]
    · rw [List.forall₂_map_left_iff, List.forall₂_same]
      exact fun _ _ => rfl

end MatchRecord

/-! ## Programs -/

namespace Program

theorem writeMatches_of_alike (c : Config) (r : Usage.QueryRequest) (p : ParsedSource)
    {taken taken' : Query.Stream.Taken Nat} {runner runner' : Query.Runner}
    (hfound : List.Forall₂ Query.Match.Reorders taken.found taken'.found)
    (hending : taken.ending = taken'.ending) (hexceeded : runner.exceeded = runner'.exceeded)
    (w : RecordWriter) :
    writeMatches c r p taken runner w = writeMatches c r p taken' runner' w := by
  have hrecords : taken.found.map (fun m => Record.found (.ofMatch p m)) =
      taken'.found.map fun m => .found (.ofMatch p m) := by
    rw [← List.forall₂_eq_eq_eq, List.forall₂_map_left_iff, List.forall₂_map_right_iff]
    exact hfound.imp fun m m' hm => congrArg Record.found (MatchRecord.ofMatch_eq_of_reorders p hm)
  simp only [writeMatches, hrecords, hending, hexceeded]

section Engines

variable {e e' : Engine} (h : e.Alike e') (files : FileSystem) (environment : Variables)

include h

theorem querySource_of_alike (c : Config) (r : Usage.QueryRequest) (text : String)
    (p : ParsedSource) (w : RecordWriter) :
    querySource ⟨e, files, environment⟩ c r text p w =
      querySource ⟨e', files, environment⟩ c r text p w := by
  have hcompile : e.compileQuery p.language text = e'.compileQuery p.language text := by
    rw [Engine.compileQuery, Engine.compileQuery, h.compile]
  simp only [querySource, hcompile]
  cases e'.compileQuery p.language text with
  | error e => rfl
  | ok q =>
    by_cases hlanguage : q.language = p.language
    · obtain ⟨⟨hfound, hending, hstream⟩, hexceeded⟩ :=
        Query.Runner.collect_of_alike h (.withOptions c.options) q p 0 r.limit
      simp only [Query.Runner.collectAll, if_pos hlanguage, hstream.names,
        writeMatches_of_alike c r p hfound hending hexceeded]
    · simp only [Query.Runner.collectAll, if_neg hlanguage]

theorem parseFile_of_alike (path : String) (language : Option Language) :
    parseFile ⟨e, files, environment⟩ path language =
      parseFile ⟨e', files, environment⟩ path language := by
  simp only [parseFile, Engine.parseSource, h.misfit, h.parse]

theorem perform_of_alike (t : Log.Telemetry) (c : Config) (command : Usage.Command)
    (w : RecordWriter) :
    perform ⟨e, files, environment⟩ t c command w =
      perform ⟨e', files, environment⟩ t c command w := by
  cases command with
  | walk r => simp only [perform, walk, parseFile_of_alike h]
  | query r =>
    have htext : queryText ⟨e, files, environment⟩ r.query =
        queryText ⟨e', files, environment⟩ r.query := by
      cases r.query <;> rfl
    simp only [perform, query, htext, parseFile_of_alike h, querySource_of_alike h]

theorem run_of_alike (t : Log.Telemetry) (call : Call) :
    run ⟨e, files, environment⟩ t call = run ⟨e', files, environment⟩ t call := by
  simp only [run, perform_of_alike h]

end Engines

/-- **The order of captures does not show.** A match has one record, whatever the order
of its bindings; in it names stand in the order of their bytes, each that is bound once,
with the record and text of its node, and none is lost. So matches that differ in that
order only are written the same, in either form, and so are reports of the engine that
leave the same last capture under each name. These records are what is written: into a
sink without a limit goes one for each match, and the query command writes one for each
report that can be bound, in the order of the reports and up to its limit. -/
theorem output_ignores_capture_order :
    (∀ (p : ParsedSource) (m : Query.Match Nat), (m.captures.map (·.1)).Nodup →
      let record := MatchRecord.ofMatch p m
      (∀ captures, m.captures.Perm captures →
        MatchRecord.ofMatch p { m with captures := captures } = record) ∧
      record.pattern = m.pattern ∧
      record.captures.Pairwise (fun a b => Text.bytes a.1 < Text.bytes b.1) ∧
      (∀ x a, (x, a) ∈ record.captures ↔ ∃ n row, m.capture x = some n ∧
        p.tree.row? n = some row ∧ a = (NodeRecord.ofRow row).withText (p.textOf row)) ∧
      ((∀ c ∈ m.captures, c.2 < p.tree.rows.length) →
        (record.captures.map (·.1)).Perm (m.captures.map (·.1)))) ∧
    (∀ (c : Config) (r : Usage.QueryRequest) (p : ParsedSource) (taken : Query.Stream.Taken Nat)
      (found : List (Query.Match Nat)) (runner : Query.Runner) (w : RecordWriter),
      List.Forall₂ Query.Match.Reorders taken.found found →
      writeMatches c r p { taken with found := found } runner w =
        writeMatches c r p taken runner w) ∧
    (∀ (p : ParsedSource) (names : List String) (raw raw' : Query.RawMatch Nat)
      (m m' : Query.Match Nat), raw.bind names = .ok m → raw'.bind names = .ok m' →
      raw.pattern = raw'.pattern →
      (∀ x, Query.lastUnder names raw.captures x = Query.lastUnder names raw'.captures x) →
      MatchRecord.ofMatch p m = MatchRecord.ofMatch p m') ∧
    (∀ e e' : Engine, e.Alike e' → ∀ files environment t call,
      run ⟨e, files, environment⟩ t call = run ⟨e', files, environment⟩ t call) ∧
    (∀ (c : Config) (r : Usage.QueryRequest) (p : ParsedSource) (taken : Query.Stream.Taken Nat)
      (runner : Query.Runner) (w : RecordWriter), w.sink.room = none →
      (writeMatches c r p taken runner w).writer =
        w.append (taken.found.map fun m => .found (.ofMatch p m))) ∧
    (∀ (s : Surroundings) (t : Log.Telemetry) (c : Config) (r : Usage.QueryRequest)
      (w : RecordWriter) (text : String) (p : ParsedSource) (q : CompiledQuery),
      w.sink.room = none → HasQuery s r text p q →
      ∃ records : List MatchRecord,
        (query s t c r w).writer = w.append (records.map .found) ∧
        List.Forall₂ (MatchRecord.Tells p q.captures)
          (Query.upTo r.limit (Query.fitting q.captures.length
            (s.engine.run q p 0 c.options.settings).found)) records) ∧
    ∀ (format : RecordFormat) (number : Nat) (record : MatchRecord),
      record.Prints number (Record.block format number (.found record)) format := by
  refine ⟨?_, ?_, ?_, ?_, ?_, ?_, MatchRecord.prints_block⟩
  · intro p m hdistinct record
    refine ⟨fun captures hperm => ?_, rfl, ?_, fun x a => ?_, MatchRecord.names_ofMatch_perm⟩
    · have hreorders : m.Reorders { m with captures := captures } := ⟨rfl, hperm, hdistinct⟩
      exact (MatchRecord.ofMatch_eq_of_reorders p hreorders).symm
    · exact (MatchRecord.ordered_ofMatch p hdistinct).imp Text.bytes_lt_bytes
    · exact MatchRecord.mem_captures_ofMatch hdistinct
  · intro c r p taken found runner w hfound
    refine (writeMatches_of_alike c r p ?_ ?_ ?_ w).symm
    · exact hfound
    · rfl
    · rfl
  · intro p names raw raw' m m' hm hm' hpattern hlast
    exact MatchRecord.ofMatch_eq_of_reorders p
      (Query.RawMatch.reorders_of_bind hm hm' hpattern hlast)
  · intro e e' h files environment t call
    exact run_of_alike h files environment t call
  · intro c r p taken runner w hroom
    exact writer_writeMatches_of_room_none c r p taken runner hroom
  · intro s t c r w text p q hroom hq
    obtain ⟨items, hwriter, hitems⟩ := hq.writer_query t c hroom
    refine ⟨items.map (.ofMatch p), ?_, ?_⟩
    · rw [hwriter, matchRecords, List.map_map]
      rfl
    · rw [List.forall₂_map_right_iff]
      exact hitems.imp fun raw m hm => MatchRecord.tells_ofMatch p hm

/-- A match with three names, one of them behind ASCII, in two orders and as it is written
for people, and two engines of which one overwrites a node under each of two indices with
the name `b`, with the record that a query writes for it. -/
theorem output_of_overwritten_captures :
    let row (parent : Option Nat) (a b : Nat) : Row :=
      ⟨parent, "name", true, false, false, a, b, ⟨0, a⟩, ⟨0, b⟩⟩
    let tree : SyntaxTree := ⟨[row none 0 2, row (some 0) 0 1, row (some 0) 1 2]⟩
    let p : ParsedSource := ⟨.python, "xy", tree, false⟩
    let m : Query.Match Nat := ⟨0, [("z", 1), ("é", 2), ("a", 2)]⟩
    let engine (captures : List (Nat × Nat)) : Engine := {
      misfit := fun _ => none
      parse := fun _ _ => some ⟨tree, false⟩
      compile := fun _ _ => .ok ⟨1, ["b", "a", "b"]⟩
      run := fun q _ _ _ => ⟨if q.captures = ["b", "a", "b"] then [⟨0, captures⟩] else [], none⟩ }
    let files : FileSystem := ⟨[['w']], [([['w'], ['a', '.', 'p', 'y']], .file "xy".toUTF8)]⟩
    let r : Usage.QueryRequest := ⟨"a.py", none, .inline "(_)", none⟩
    let w : RecordWriter := ⟨{}, .human, 0⟩
    (m.captures.map (·.1)).Nodup ∧
    MatchRecord.ofMatch p { m with captures := [("a", 2), ("é", 2), ("z", 1)] } =
      MatchRecord.ofMatch p m ∧
    (MatchRecord.ofMatch p m).captures.map (·.1) = ["a", "z", "é"] ∧
    (MatchRecord.ofMatch p m).captures.Pairwise (fun a b => Text.bytes a.1 < Text.bytes b.1) ∧
    (engine [(1, 1), (0, 2)]).Alike (engine [(0, 1), (2, 0), (1, 1), (0, 2)]) ∧
    (∀ files environment t call,
      run ⟨engine [(1, 1), (0, 2)], files, environment⟩ t call =
        run ⟨engine [(0, 1), (2, 0), (1, 1), (0, 2)], files, environment⟩ t call) ∧
    (∀ ending stream runner, (writeMatches {} r p ⟨[m], ending, stream⟩ runner w).writer.sink =
      Sink.append {} ("match 1 (pattern 0)\n" ++
        "  @a name 1:2-1:3 y\n  @z name 1:1-1:2 x\n  @é name 1:2-1:3 y\n")) ∧
    ∃ record : MatchRecord,
      (query ⟨engine [(0, 1), (2, 0), (1, 1), (0, 2)], files, []⟩ .idle {} r w).writer =
        w.append [.found record] ∧
      record.captures.Pairwise (fun a b => Text.bytes a.1 < Text.bytes b.1) ∧
      ("a", ⟨"name", true, ⟨1, 1⟩, ⟨1, 2⟩, 0, 1, some "x"⟩) ∈ record.captures ∧
      ("b", ⟨"name", true, ⟨1, 2⟩, ⟨1, 3⟩, 1, 2, some "y"⟩) ∈ record.captures := by
  intro row tree p m engine files r w
  have hdistinct : (m.captures.map (·.1)).Nodup := by decide
  obtain ⟨hrecords, -, -, hruns, hwritten, hqueried, -⟩ := output_ignores_capture_order
  obtain ⟨hsame, -, hsorted, -, -⟩ := hrecords p m hdistinct
  have halike : (engine [(1, 1), (0, 2)]).Alike (engine [(0, 1), (2, 0), (1, 1), (0, 2)]) := by
    refine ⟨rfl, rfl, rfl, fun q p root settings => ⟨?_, rfl⟩⟩
    simp only [engine]
    split
    next hq =>
      have hnames : q.table.snapshot = ["b", "a", "b"] := by
        rw [CompiledQuery.table, hq]
        rfl
      rw [hnames]
      refine .cons ⟨rfl, rfl, fun x => ?_⟩ .nil
      by_cases ha : x = "a"
      · subst ha
        decide
      · by_cases hb : x = "b"
        · subst hb
          decide
        · simp [Query.lastUnder, Ne.symm ha, Ne.symm hb]
    next => exact .nil
  have htext : String.join (Record.blocks .human 1 [.found (.ofMatch p m)]) =
      "match 1 (pattern 0)\n" ++
        "  @a name 1:2-1:3 y\n  @z name 1:1-1:2 x\n  @é name 1:2-1:3 y\n" := by decide +kernel
  have hquery : HasQuery ⟨engine [(0, 1), (2, 0), (1, 1), (0, 2)], files, []⟩ r "(_)" p
      ⟨.python, "(_)", 1, ["b", "a", "b"]⟩ :=
    ⟨.inline _, ⟨by decide +kernel, eq_ok_of_toOption (by decide +kernel), rfl, rfl⟩, rfl, rfl, rfl⟩
  obtain ⟨records, hwriter, htells⟩ := hqueried _ .idle {} r w _ _ _ rfl hquery
  refine ⟨hdistinct, hsame _ (by decide), by decide, hsorted, halike, hruns _ _ halike, ?_, ?_⟩
  · intro ending stream runner
    rw [hwritten {} r p ⟨[m], ending, stream⟩ runner w rfl]
    exact congrArg (Sink.append {}) htext
  · cases htells with
    | cons hrecord hnone =>
      cases hnone
      exact ⟨_, hwriter, hrecord.ordered, (hrecord.captures _ _).2 ⟨1, _, by decide, rfl, by decide⟩,
        (hrecord.captures _ _).2 ⟨2, _, by decide, rfl, by decide⟩⟩

end Program

end TreeExplorer
