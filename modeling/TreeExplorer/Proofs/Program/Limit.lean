/-
What a limit does to a command. What a command lists does not depend on its limit
(`Lists`): the nodes of the walk until it ends, or the engine's matches, or nothing where
it lacks what it needs. A limit cuts this list and changes no record in it, for a record
is numbered by those before it (`writer_perform_of_lists`). It also decides how far the engine is asked,
and with that whether dropped matches are reported (`dropped_mem_events`).
-/
import TreeExplorer.Proofs.Program.Commands
import TreeExplorer.Proofs.Tree.Walks

namespace TreeExplorer

/-! ## Limits -/

namespace Query

/-- A limit is at most another, where none is above all. -/
def AtMost (n m : Option Nat) : Prop :=
  ∀ j ∈ m, ∃ k ∈ n, k ≤ j

theorem upTo_upTo {α : Type} {n m : Option Nat} (h : AtMost n m) (l : List α) :
    upTo n (upTo m l) = upTo n l := by
  cases m with
  | none => rfl
  | some j =>
    obtain ⟨k, hk, hle⟩ := h j rfl
    rw [Option.mem_def.1 hk, upTo, upTo, upTo, List.take_take, Nat.min_eq_left hle]

theorem upTo_nil {α : Type} (limit : Option Nat) : upTo limit ([] : List α) = [] := by
  cases limit <;> simp [upTo]

theorem upTo_map {α β : Type} (f : α → β) (limit : Option Nat) (l : List α) :
    upTo limit (l.map f) = (upTo limit l).map f := by
  cases limit with
  | none => rfl
  | some k => exact List.map_take.symm

end Query

open Query (upTo pulls AtMost)

/-- Records that are cut off do not change the texts of those before them. -/
theorem Record.blocks_upTo (format : RecordFormat) (limit : Option Nat) (first : Nat)
    (records : List Record) :
    Record.blocks format first (upTo limit records) = upTo limit (Record.blocks format first records) := by
  cases limit with
  | none => rfl
  | some k =>
    simp only [upTo]
    induction k generalizing first records with
    | zero => rfl
    | succ k ih =>
      cases records with
      | nil => rfl
      | cons r rest => simp only [blocks, List.take_succ_cons, ih]

theorem Record.length_blocks (format : RecordFormat) (first : Nat) (records : List Record) :
    (Record.blocks format first records).length = records.length := by
  induction records generalizing first with
  | nil => rfl
  | cons r rest ih => simp only [blocks, List.length_cons, ih]

/-- Pulls of a whole walk give out its nodes up to the limit. -/
theorem ParsedSource.nodes_pull {p : ParsedSource} (h : p.tree.Rooted) {mode : Mode}
    {namedOnly : Bool} {nodes : List Nat}
    (hdrains : (Walk.start 0 mode namedOnly).Drains p.tree.view nodes) (limit : Option Nat) :
    (p.pull limit (Walk.start 0 mode namedOnly)).nodes = upTo limit nodes := by
  obtain ⟨nodes', hdrains', hlength, -⟩ := h.exists_drains mode namedOnly
  have htake := Walk.drains_iff.1 hdrains
  have htake' := Walk.drains_iff.1 hdrains'
  rw [pull, Walk.nodes_take]
  cases limit with
  | some k => exact htake k
  | none =>
    -- One pull more than there are rows finds the end, so nothing is cut off.
    have hshort : ((Walk.start 0 mode namedOnly).run p.tree.view (p.tree.rows.length + 1)).nodes.length <
        p.tree.rows.length + 1 := by
      rw [htake', List.length_take]
      omega
    exact hdrains.nodes_run hshort

/-- The command with another limit. -/
def Usage.Command.withLimit (limit : Option Nat) : Usage.Command → Usage.Command
  | .walk r => .walk { r with limit }
  | .query r => .query { r with limit }

/-- Every tree that the engine makes has a root. -/
def Engine.MakesRoots (e : Engine) : Prop :=
  ∀ l text x, e.parse l text = some x → x.tree.Rooted

namespace Program

/-! ## What a command lists -/

/-- The record is that of a node. -/
def Shows (p : ParsedSource) (n : Nat) (record : Record) : Prop :=
  ∃ row, p.tree.row? n = some row ∧ record = .node (.ofRow row)

/-- The record is that of a match, its captures bound to the names of the query. -/
def Reports (p : ParsedSource) (names : List String) (raw : Query.RawMatch Nat) (record : Record) :
    Prop :=
  ∃ m, raw.bind names = .ok m ∧ record = .found (.ofMatch p m)

/-- The records of a command that has no limit. -/
inductive Lists (s : Surroundings) (c : Config) : Usage.Command → List Record → Prop
  /-- A walk lists the nodes that it gives out until it ends. -/
  | walk {r : Usage.WalkRequest} {p : ParsedSource} {nodes : List Nat} {records : List Record}
      (hp : HasSource s r.file r.language p)
      (hdrains : (Walk.start 0 r.mode r.namedOnly).Drains p.tree.view nodes)
      (h : List.Forall₂ (Shows p) nodes records) : Lists s c (.walk r) records
  /-- A query lists the matches that the engine finds. -/
  | query {r : Usage.QueryRequest} {text : String} {p : ParsedSource} {q : CompiledQuery}
      {records : List Record} (hq : HasQuery s r text p q)
      (h : List.Forall₂ (Reports p q.captures) (s.engine.run q p 0 c.options.settings).found
        records) : Lists s c (.query r) records
  /-- Without a source there is nothing to walk. -/
  | noSource {r : Usage.WalkRequest} (h : ∀ p, ¬HasSource s r.file r.language p) :
    Lists s c (.walk r) []
  /-- Something that a query needs is missing. -/
  | noQuery {r : Usage.QueryRequest} (h : ∀ text p q, ¬HasQuery s r text p q) :
    Lists s c (.query r) []

theorem HasSource.rooted {s : Surroundings} (hroots : s.engine.MakesRoots) {path : String}
    {asked : Option Language} {p : ParsedSource} (h : HasSource s path asked p) : p.tree.Rooted :=
  hroots _ _ _ h.parse

theorem forall₂_nodeRecords {p : ParsedSource} {nodes : List Nat}
    (h : ∀ n ∈ nodes, n < p.tree.rows.length) :
    List.Forall₂ (Shows p) nodes (nodeRecords p nodes) := by
  induction nodes with
  | nil => exact .nil
  | cons n rest ih =>
    have hrow : p.tree.row? n = some (p.tree.rows.get ⟨n, h n List.mem_cons_self⟩) :=
      List.getElem?_eq_getElem _
    have hrest := ih fun k hk => h k (List.mem_cons_of_mem _ hk)
    simp only [nodeRecords, List.filterMap_cons, hrow, List.map_cons]
    exact .cons ⟨_, hrow, rfl⟩ hrest

theorem nodeRecords_eq {p : ParsedSource} {nodes : List Nat} {records : List Record}
    (h : List.Forall₂ (Shows p) nodes records) : nodeRecords p nodes = records := by
  induction h with
  | nil => rfl
  | cons hshows _ ih =>
    obtain ⟨row, hrow, rfl⟩ := hshows
    simp only [nodeRecords, List.filterMap_cons, hrow, List.map_cons] at ih ⊢
    rw [ih]

theorem exists_items_of_reports {p : ParsedSource} {names : List String}
    {found : List (Query.RawMatch Nat)} {records : List Record}
    (h : List.Forall₂ (Reports p names) found records) :
    ∃ items, List.Forall₂ (fun raw m => raw.bind names = .ok m) found items ∧
      records = matchRecords p items := by
  induction h with
  | nil => exact ⟨[], .nil, rfl⟩
  | cons hreports _ ih =>
    obtain ⟨m, hm, rfl⟩ := hreports
    obtain ⟨items, hitems, rfl⟩ := ih
    exact ⟨m :: items, .cons hm hitems, rfl⟩

theorem exists_lists_walk {s : Surroundings} (hroots : s.engine.MakesRoots) (c : Config)
    (r : Usage.WalkRequest) : ∃ records, Lists s c (.walk r) records := by
  by_cases hsource : ∃ p, HasSource s r.file r.language p
  · obtain ⟨p, hp⟩ := hsource
    obtain ⟨nodes, hdrains, -, hlt⟩ := (hp.rooted hroots).exists_drains r.mode r.namedOnly
    exact ⟨_, .walk hp hdrains (forall₂_nodeRecords hlt)⟩
  · exact ⟨[], .noSource fun p hp => hsource ⟨p, hp⟩⟩

theorem exists_lists_query {s : Surroundings} (hengine : s.engine.CapturesInRange) (c : Config)
    (r : Usage.QueryRequest) : ∃ records, Lists s c (.query r) records := by
  by_cases hready : ∃ text p q, HasQuery s r text p q
  · obtain ⟨text, p, q, hq⟩ := hready
    obtain ⟨items, hitems⟩ := Query.exists_bound (hengine q p 0 c.options.settings)
    refine ⟨matchRecords p items, .query hq ?_⟩
    rw [matchRecords, List.forall₂_map_right_iff]
    exact hitems.imp fun raw m hm => ⟨m, hm, rfl⟩
  · exact ⟨[], .noQuery fun text p q hq => hready ⟨text, p, q, hq⟩⟩

theorem exists_lists {s : Surroundings} (hengine : s.engine.CapturesInRange)
    (hroots : s.engine.MakesRoots) (c : Config) (command : Usage.Command) :
    ∃ records, Lists s c command records := by
  cases command with
  | walk r => exact exists_lists_walk hroots c r
  | query r => exact exists_lists_query hengine c r

/-! ## What a command writes -/

theorem writer_perform_walk (s : Surroundings) (t : Log.Telemetry) (c : Config)
    (r : Usage.WalkRequest) (w : RecordWriter) :
    (perform s t c (.walk r) w).writer = (walk s t r w).writer := by
  simp only [perform]
  split <;> rfl

theorem writer_perform_query (s : Surroundings) (t : Log.Telemetry) (c : Config)
    (r : Usage.QueryRequest) (w : RecordWriter) :
    (perform s t c (.query r) w).writer = (query s t c r w).writer := by
  simp only [perform]
  split <;> rfl

theorem events_perform_query (s : Surroundings) (t : Log.Telemetry) (c : Config)
    (r : Usage.QueryRequest) (w : RecordWriter) :
    (perform s t c (.query r) w).events = (query s t c r w).events := by
  simp only [perform]
  split <;> rfl

/-- What a query needs does not depend on its limit. -/
theorem hasQuery_limit_iff {s : Surroundings} {r : Usage.QueryRequest} {text : String}
    {p : ParsedSource} {q : CompiledQuery} (limit : Option Nat) :
    HasQuery s { r with limit } text p q ↔ HasQuery s r text p q :=
  ⟨fun h => ⟨h.hasText, h.hasSource, h.accepted⟩, fun h => ⟨h.hasText, h.hasSource, h.accepted⟩⟩

theorem walk_of_noSource {s : Surroundings} {r : Usage.WalkRequest}
    (h : ∀ p, ¬HasSource s r.file r.language p) (t : Log.Telemetry) (w : RecordWriter) :
    (walk s t r w).writer = w := by
  cases hp : parseFile s r.file r.language with
  | ok p => exact absurd (parseFile_eq_ok_iff.1 hp) (h p)
  | error f => simp only [walk, hp]

theorem query_of_noQuery {s : Surroundings} {r : Usage.QueryRequest}
    (h : ∀ text p q, ¬HasQuery s r text p q) (t : Log.Telemetry) (c : Config) (w : RecordWriter) :
    (query s t c r w).writer = w := by
  obtain ⟨f, -, hwriter, -⟩ | ⟨text, p, q, hq⟩ := query_cases s t c r w
  · exact hwriter
  · exact absurd hq (h text p q)

/-- Under a limit a command writes its records up to the limit. -/
theorem writer_perform_of_lists {s : Surroundings} (hengine : s.engine.CapturesInRange)
    (hroots : s.engine.MakesRoots) {c : Config} {command : Usage.Command} {records : List Record}
    (h : Lists s c command records) (t : Log.Telemetry) (limit : Option Nat) {w : RecordWriter}
    (hroom : w.sink.room = none) :
    (perform s t c (command.withLimit limit) w).writer = w.append (upTo limit records) := by
  cases h with
  | @walk r p nodes records hp hdrains hrecords =>
    have hnodes := ParsedSource.nodes_pull (hp.rooted hroots) hdrains limit
    have hcut := nodeRecords_eq (Query.forall₂_upTo hrecords limit)
    obtain ⟨hwriter, -⟩ := walkSource_of_room_none { r with limit } p hroom
    rw [Usage.Command.withLimit, writer_perform_walk]
    simp only [walk, parseFile_eq_ok_iff.2 hp]
    rw [hwriter, hnodes, hcut]
  | @query r text p q records hq hrecords =>
    obtain ⟨items, hitems, rfl⟩ := exists_items_of_reports hrecords
    obtain ⟨hwriter, -, -⟩ :=
      querySource_of_compiled hengine c { r with limit } hq.compileQuery_eq hitems hroom
    rw [Usage.Command.withLimit, writer_perform_query, ((hasQuery_limit_iff limit).2 hq).query_eq]
    simp only
    rw [hwriter, matchRecords, matchRecords, Query.upTo_map]
  | @noSource r hnone =>
    rw [Usage.Command.withLimit, writer_perform_walk,
      walk_of_noSource (r := { r with limit }) hnone, Query.upTo_nil, RecordWriter.append_nil]
  | @noQuery r hnone =>
    have hlimited : ∀ text p q, ¬HasQuery s { r with limit } text p q :=
      fun text p q hq => hnone text p q ((hasQuery_limit_iff limit).1 hq)
    rw [Usage.Command.withLimit, writer_perform_query, query_of_noQuery hlimited, Query.upTo_nil,
      RecordWriter.append_nil]

theorem dropped_notMem_sourceEvents (t : Log.Telemetry) (path : String) (p : ParsedSource)
    (limit : Option Nat) : matchesDropped limit ∉ sourceEvents t path p := by
  unfold sourceEvents
  split
  · simp [matchesDropped, walkExhausted, sourceFlawed]
  · exact List.not_mem_nil

/-- Dropped matches are reported just where the engine reports them within the
advances that the limit allows. -/
theorem dropped_mem_events {s : Surroundings} (hengine : s.engine.CapturesInRange) {c : Config}
    {r : Usage.QueryRequest} {text : String} {p : ParsedSource} {q : CompiledQuery}
    (hq : HasQuery s r text p q) (t : Log.Telemetry) {w : RecordWriter}
    (hroom : w.sink.room = none) :
    matchesDropped c.matchLimit ∈ (perform s t c (.query r) w).events ↔
      (s.engine.run q p 0 c.options.settings).raised
        (pulls r.limit (s.engine.run q p 0 c.options.settings).found.length) = true := by
  obtain ⟨items, hitems⟩ := Query.exists_bound (hengine q p 0 c.options.settings)
  obtain ⟨-, -, hdropped⟩ := querySource_of_compiled hengine c r hq.compileQuery_eq hitems hroom
  have hsource := dropped_notMem_sourceEvents t r.file p c.matchLimit
  rw [events_perform_query, hq.query_eq, ← hdropped]
  simp only [List.mem_append, hsource, false_or]

/-! ## Runs -/

/-- A call under which the program carries out the command: its command line is read
so, its configuration is loaded, and logging can be set up. -/
structure Carries (s : Surroundings) (t : Log.Telemetry) (c : Config) (format : RecordFormat)
    (sink : Sink) (call : Call) (command : Usage.Command) : Prop where
  read : ∃ v, Usage.readCommandLine (Config.divide call.arguments).command = .ok v ∧
    v.command = command ∧ v.output.resolve call.terminal = format
  configured : Config.load s.files s.environment (Config.divide call.arguments).configuration = .ok c
  logging : ∃ t', t.initialise c = .ok t'
  output : call.output = sink

theorem Carries.run_eq {s : Surroundings} {t : Log.Telemetry} {c : Config} {format : RecordFormat}
    {sink : Sink} {call : Call} {command : Usage.Command}
    (h : Carries s t c format sink call command) :
    ∃ t', t.initialise c = .ok t' ∧
      (run s t call).output = (perform s t' c command { sink, format }).writer.sink ∧
      (run s t call).log = t'.lines (perform s t' c command { sink, format }).events := by
  obtain ⟨⟨v, hv, rfl, rfl⟩, hload, ⟨t', ht'⟩, rfl⟩ := h
  refine ⟨t', ht', ?_, ?_⟩
  · simp only [run, hv, hload, ht', performed]
  · simp only [run, hv, hload, ht', performed]

/-- What a run has in its output is the texts of its records up to the limit. -/
theorem Carries.output_eq {s : Surroundings} (hengine : s.engine.CapturesInRange)
    (hroots : s.engine.MakesRoots) {t : Log.Telemetry} {c : Config} {format : RecordFormat}
    {sink : Sink} (hroom : sink.room = none) {call : Call} {command : Usage.Command}
    {limit : Option Nat} {records : List Record} (hrecords : Lists s c command records)
    (h : Carries s t c format sink call (command.withLimit limit)) :
    (run s t call).output = sink.append (String.join (upTo limit (Record.blocks format 1 records))) := by
  obtain ⟨t', -, hout, -⟩ := h.run_eq
  rw [hout, writer_perform_of_lists hengine hroots hrecords t' limit hroom, RecordWriter.append,
    ← Record.blocks_upTo]

end Program

end TreeExplorer
