/-
What a run leaves in its two sinks. Records are written as they are found, so a
run that failed between two of them would leave half of its output behind. None
does: `perform_cases` says that a command fails before its first record or not at
all, and everything that comes before the command writes to one sink alone.
-/
import TreeExplorer.Proofs.Program.Commands

namespace TreeExplorer

/-- The sink takes whatever is written to it, and is flushed when asked. -/
def Sink.Accepts (s : Sink) : Prop :=
  s.room = none ∧ s.flushFails = false

/-! ## Notices -/

theorem Usage.Topic.help_ne_empty (topic : Usage.Topic) (name : Option String) (full : Bool) :
    topic.help name full ≠ "" := by
  intro h
  have hlist := congrArg String.toList h
  cases topic <;> simp [help, about] at hlist

theorem Usage.Notice.text_ne_empty (n : Usage.Notice) (name : Option String) : n.text name ≠ "" := by
  cases n with
  | fault f =>
    intro h
    have hlist := congrArg String.toList h
    simp [text, Fault.report] at hlist
  | help topic full => exact topic.help_ne_empty name full
  | version => simp [text, versionText]
  | nothingGiven => exact Topic.help_ne_empty .program name false

namespace Program

/-! ## Failures that cannot come up -/

theorem writeMatches_failure (c : Config) (r : Usage.QueryRequest) (p : ParsedSource)
    {taken : Query.Stream.Taken Nat} (hending : ∀ error, taken.ending ≠ .failed error)
    (runner : Query.Runner) (w : RecordWriter) {f : Failure}
    (h : (writeMatches c r p taken runner w).failure = some f) : ∃ g, f = .writing g := by
  unfold writeMatches at h
  split at h
  next g _ => exact ⟨g, (Option.some.inj h).symm⟩
  next =>
    cases hend : taken.ending with
    | failed error => exact absurd hend (hending error)
    | reached => simp [hend] at h
    | ended => simp [hend] at h

/-- A query is never refused for its language, nor a match for its captures. -/
theorem query_failure_ne {s : Surroundings} (hengine : s.engine.CapturesInRange) {t : Log.Telemetry}
    {c : Config} {r : Usage.QueryRequest} {w : RecordWriter} {f : Failure}
    (h : (query s t c r w).failure = some f) :
    (∀ a b, f ≠ .exploring (.languageMismatch a b)) ∧
      ∀ i n, f ≠ .exploring (.unknownCapture i n) := by
  obtain ⟨f', hf', -, hcause⟩ | ⟨text, p, q, hq⟩ := query_cases s t c r w
  · cases h.symm.trans hf'
    constructor
    · rintro a b rfl
      rcases hcause _ rfl with ⟨_, _, he | he⟩ | ⟨_, _, _, _, he⟩ <;> cases he
    · rintro i n rfl
      rcases hcause _ rfl with ⟨_, _, he | he⟩ | ⟨_, _, _, _, he⟩ <;> cases he
  · obtain ⟨items, hitems⟩ := Query.exists_bound (hengine q p 0 c.options.settings)
    obtain ⟨taken, runner, hcollect, -, hending, -⟩ := Query.Runner.collectAll_of_inRange hengine
      hq.accepted.language c.options hitems r.limit
    have hwrite : (writeMatches c r p taken runner w).failure = some f := by
      rw [← h, hq.query_eq]
      simp only [querySource, hq.compileQuery_eq, hcollect]
    obtain ⟨g, rfl⟩ := writeMatches_failure c r p hending runner w hwrite
    exact ⟨by simp, by simp⟩

/-! ## Outcomes -/

/-- The outcome is that of a failure: no output, and a text that tells of it. -/
def Tells (call : Call) (o : Outcome) (text : String) : Prop :=
  o.success = false ∧ o.output = call.output ∧ o.diagnostics = call.diagnostics.append text

theorem tells_failed {call : Call} (h : call.diagnostics.room = none) (t : Log.Telemetry)
    (f : Failure) : Tells call (failed call t f) ("error: " ++ f.message ++ "\n") := by
  refine ⟨rfl, rfl, ?_⟩
  rw [failed, Sink.write_of_room_none h]

theorem performed_cases {call : Call} (h : call.diagnostics.room = none) (t : Log.Telemetry)
    {p : Performance} (hp : p.failure = none ∨ ∃ f, p.failure = some f ∧ p.writer.sink = call.output) :
    ((performed call t p).success = true ∧ (performed call t p).diagnostics = call.diagnostics) ∨
      ∃ f, Tells call (performed call t p) ("error: " ++ Failure.message f ++ "\n") := by
  rcases hp with hnone | ⟨f, hsome, hsink⟩
  · exact .inl ⟨by simp [performed, hnone], by simp [performed, hnone]⟩
  · refine .inr ⟨f, by simp [performed, hsome], hsink, ?_⟩
    simp only [performed, hsome, Sink.write_of_room_none h]

/-- A run succeeds and says nothing, or fails and does nothing else than say so. -/
theorem run_cases {s : Surroundings} (hengine : s.engine.CapturesInRange) (t : Log.Telemetry)
    {call : Call} (houtput : call.output.Accepts) (hdiagnostics : call.diagnostics.Accepts) :
    ((run s t call).success = true ∧ (run s t call).diagnostics = call.diagnostics) ∨
    (∃ n, Usage.readCommandLine (Config.divide call.arguments).command = .error n ∧
      Tells call (run s t call) (n.text (Usage.calledName call.arguments))) ∨
    ∃ f, Tells call (run s t call) ("error: " ++ Failure.message f ++ "\n") := by
  obtain ⟨hroom, -⟩ := hdiagnostics
  cases hread : Usage.readCommandLine (Config.divide call.arguments).command with
  | error n =>
    have hrun : run s t call = noticed call t n := by simp only [run, hread]
    rw [hrun]
    by_cases hanswer : n.isAnswer = true
    · exact .inl ⟨hanswer, by simp [noticed, hanswer]⟩
    · refine .inr (.inl ⟨n, rfl, ?_⟩)
      simp [Tells, noticed, hanswer, Sink.write_of_room_none hroom]
  | ok v =>
    cases hload : Config.load s.files s.environment (Config.divide call.arguments).configuration with
    | error fs =>
      have hrun : run s t call = failed call t (.configuration fs) := by simp only [run, hread, hload]
      exact .inr (.inr ⟨_, hrun ▸ tells_failed hroom t _⟩)
    | ok c =>
      cases hinit : t.initialise c with
      | error f =>
        have hrun : run s t call = failed call t (.telemetry f) := by
          simp only [run, hread, hload, hinit]
        exact .inr (.inr ⟨_, hrun ▸ tells_failed hroom t _⟩)
      | ok t' =>
        simp only [run, hread, hload, hinit]
        have hperform := perform_cases hengine t' c v.command
          (w := { sink := call.output, format := v.output.resolve call.terminal }) houtput.1 houtput.2
        have hcases := performed_cases hroom t'
          (hperform.imp_right fun ⟨f, hf, hw⟩ => ⟨f, hf, congrArg RecordWriter.sink hw⟩)
        exact hcases.imp_right .inr

/-- **Nothing is half written.** With sinks that take everything, a run that fails
has put nothing into its output and has told why, in a text that begins with
`error: ` unless it is about the command line; a run that succeeds has told
nothing. A query is never refused for its language nor a match for its captures,
whatever the sinks take. -/
theorem sinks_run {s : Surroundings} (hengine : s.engine.CapturesInRange) (t : Log.Telemetry)
    {call : Call} (houtput : call.output.Accepts) (hdiagnostics : call.diagnostics.Accepts) :
    ((run s t call).success = false →
      (run s t call).output = call.output ∧
      ∃ text, text ≠ "" ∧ (run s t call).diagnostics = call.diagnostics.append text ∧
        ((∃ v, Usage.readCommandLine (Config.divide call.arguments).command = .ok v) →
          ∃ rest, text = "error: " ++ rest)) ∧
    ((run s t call).success = true → (run s t call).diagnostics = call.diagnostics) ∧
    (∀ t c r w f, (query s t c r w).failure = some f →
      (∀ a b, f ≠ .exploring (.languageMismatch a b)) ∧
      ∀ i n, f ≠ .exploring (.unknownCapture i n)) := by
  refine ⟨?_, ?_, fun _ _ _ _ _ => query_failure_ne hengine⟩
  · intro hfalse
    obtain ⟨htrue, -⟩ | ⟨n, hread, -, hout, hdiag⟩ | ⟨f, -, hout, hdiag⟩ :=
      run_cases hengine t houtput hdiagnostics
    · rw [hfalse] at htrue
      cases htrue
    · refine ⟨hout, _, n.text_ne_empty _, hdiag, ?_⟩
      rintro ⟨v, hv⟩
      cases hread.symm.trans hv
    · refine ⟨hout, _, ?_, hdiag, fun _ => ⟨f.message ++ "\n", by rw [String.append_assoc]⟩⟩
      intro hempty
      have hlist := congrArg String.toList hempty
      simp at hlist
  · intro htrue
    obtain ⟨-, hdiag⟩ | ⟨n, -, hfalse, -, -⟩ | ⟨f, hfalse, -, -⟩ :=
      run_cases hengine t houtput hdiagnostics
    · exact hdiag
    · rw [hfalse] at htrue
      cases htrue
    · rw [hfalse] at htrue
      cases htrue

/-- A query that does not compile leaves the output empty, and one that does leaves
the diagnostics empty. -/
theorem sinks_open_parenthesis :
    let files : FileSystem := ⟨[['w']], [([['w'], ['a', '.', 'p', 'y']], .file "x".toUTF8)]⟩
    let outcome (text : String) : Outcome := run ⟨.pair, files, []⟩ .idle
      ⟨["sylvan", "query", "--query", text, "a.py"].map Argument.ofText, false, {}, {}⟩
    (outcome "(").success = false ∧ (outcome "(").output = {} ∧
      (∃ rest, (outcome "(").diagnostics = Sink.append {} ("error: " ++ rest)) ∧
      (outcome "(_) @node").success = true ∧ (outcome "(_) @node").diagnostics = {} := by
  intro files outcome
  let call (text : String) : Call :=
    ⟨["sylvan", "query", "--query", text, "a.py"].map Argument.ofText, false, {}, {}⟩
  have hrejected : (outcome "(").success = false := by decide +kernel
  have hfound : (outcome "(_) @node").success = true := by decide +kernel
  have hread : Usage.readCommandLine (Config.divide (call "(").arguments).command =
      .ok ⟨.auto, .query ⟨"a.py", none, .inline "(", none⟩⟩ := eq_ok_of_toOption (by decide +kernel)
  obtain ⟨hfails, -, -⟩ := @sinks_run ⟨.pair, files, []⟩ Engine.capturesInRange_pair .idle
    (call "(") ⟨rfl, rfl⟩ ⟨rfl, rfl⟩
  obtain ⟨-, hsucceeds, -⟩ := @sinks_run ⟨.pair, files, []⟩ Engine.capturesInRange_pair .idle
    (call "(_) @node") ⟨rfl, rfl⟩ ⟨rfl, rfl⟩
  obtain ⟨houtput, text, -, hdiagnostics, hprefix⟩ := hfails hrejected
  obtain ⟨rest, rfl⟩ := hprefix ⟨_, hread⟩
  exact ⟨hrejected, houtput, ⟨rest, hdiagnostics⟩, hfound, hsucceeds hfound⟩

end Program

end TreeExplorer
