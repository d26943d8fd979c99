/-
The stages of a run. Any of them may fail, several at once, and the first that
does decides what comes of the run. `Situation.fault` says for each stage alone
whether it fails, and why, `Situation.Agree` what it reads. The outcome follows
from the first fault (`visible_outcome_of_first`), and the fault of a stage from
what the stages up to it read (`fault_eq_of_agree`); what later stages would have
read does not come in.
-/
import TreeExplorer.Proofs.Config.Chain
import TreeExplorer.Proofs.Program.Commands

namespace TreeExplorer

/-! ## Commands -/

namespace Usage.Command

def file : Command → String
  | .walk r => r.file
  | .query r => r.file

def language : Command → Option Language
  | .walk r => r.language
  | .query r => r.language

def query? : Command → Option QuerySource
  | .walk _ => none
  | .query r => some r.query

end Usage.Command

namespace Program

/-! ## Stages -/

/-- The stages of a run. -/
inductive Stage where
  | usage
  | configuration
  | telemetry
  | queryFile
  | language
  | source
  /-- The engine takes the language up and makes a tree of the source; one that always does
  never fails here. -/
  | tree
  | query
  deriving DecidableEq, Repr

/-- The place of a stage in the order in which they are gone through. -/
def Stage.rank : Stage → Nat
  | usage => 0
  | configuration => 1
  | telemetry => 2
  | queryFile => 3
  | language => 4
  | source => 5
  | tree => 6
  | query => 7

/-- What is told at the end of a run that a stage has stopped. -/
inductive Verdict where
  | notice (n : Usage.Notice)
  | failure (f : Failure)

/-- What can be seen of an outcome: whether the run succeeded, the output and the
diagnostics. -/
def Outcome.visible (o : Outcome) : Bool × Sink × Sink :=
  (o.success, o.output, o.diagnostics)

/-- What can be seen of a call that ends with a verdict. -/
def Verdict.told (call : Call) : Verdict → Bool × Sink × Sink
  | notice n => (noticed call .idle n).visible
  | failure f => (failed call .idle f).visible

/-- The verdict where something has failed. -/
def verdict? {ε α : Type} (wrap : ε → Verdict) : Except ε α → Option Verdict
  | .error e => some (wrap e)
  | .ok _ => none

theorem exists_ok_of_verdict? {ε α : Type} {wrap : ε → Verdict} {r : Except ε α}
    (h : verdict? wrap r = none) : ∃ a, r = .ok a := by
  cases r with
  | error e => cases h
  | ok a => exact ⟨a, rfl⟩

theorem exists_error_of_verdict? {ε α : Type} {wrap : ε → Verdict} {r : Except ε α} {v : Verdict}
    (h : verdict? wrap r = some v) : ∃ e, r = .error e ∧ v = wrap e := by
  cases r with
  | error e => exact ⟨e, rfl, (Option.some.inj h).symm⟩
  | ok a => cases h

/-- A run that is to be made, and the process that it is made in. -/
structure Situation where
  surroundings : Surroundings
  telemetry : Log.Telemetry
  call : Call

namespace Situation

def outcome (x : Situation) : Outcome :=
  run x.surroundings x.telemetry x.call

def parts (x : Situation) : Config.Division :=
  Config.divide x.call.arguments

def invocation (x : Situation) : Except Usage.Notice Usage.Invocation :=
  Usage.readCommandLine x.parts.command

def configuration (x : Situation) : Except (List Config.LoadFault) Config :=
  Config.load x.surroundings.files x.surroundings.environment x.parts.configuration

/-- The command, if there is one. -/
def command? (x : Situation) : Option Usage.Command :=
  x.invocation.toOption.map (·.command)

/-- The language of the source, if it is known. -/
def language? (x : Situation) : Option Language :=
  x.command?.bind fun c => c.language.or (Language.ofPath c.file)

/-- The text of the source, if it can be read. -/
def source? (x : Situation) : Option String :=
  x.command?.bind fun c => (x.surroundings.files.readText c.file).toOption

/-- The text of the query, if there is one and it can be read. -/
def queryText? (x : Situation) : Option String :=
  (x.command?.bind (·.query?)).bind fun q => (queryText x.surroundings q).toOption

/-- Why a stage fails, if it does. -/
def fault (x : Situation) : Stage → Option Verdict
  | .usage => verdict? .notice x.invocation
  | .configuration => verdict? (.failure ∘ .configuration) x.configuration
  | .telemetry =>
    x.configuration.toOption.bind fun c =>
      verdict? (.failure ∘ .telemetry) (x.telemetry.initialise c)
  | .queryFile =>
    (x.command?.bind (·.query?)).bind fun q => verdict? .failure (queryText x.surroundings q)
  | .language =>
    x.command?.bind fun c =>
      if x.language?.isNone then some (.failure (.unknownLanguage c.file)) else none
  | .source =>
    x.command?.bind fun c =>
      verdict? (.failure ∘ .source c.file) (x.surroundings.files.readText c.file)
  | .tree =>
    x.language?.bind fun l => x.source?.bind fun text =>
      verdict? (.failure ∘ .exploring) (x.surroundings.engine.parseSource l text)
  | .query =>
    x.language?.bind fun l => x.queryText?.bind fun text =>
      verdict? (.failure ∘ .exploring) (x.surroundings.engine.compileQuery l text)

/-- Two situations agree on what a stage reads: its arguments, the files it opens,
the environment, the state of logging, the answer of the engine it asks for. -/
def Agree (x y : Situation) : Stage → Prop
  | .usage => x.parts.command = y.parts.command
  | .configuration =>
    x.parts.configuration = y.parts.configuration ∧
      x.surroundings.environment = y.surroundings.environment ∧
      Config.SameFiles x.surroundings.environment x.parts.configuration x.surroundings.files
        y.surroundings.files
  | .telemetry => x.telemetry = y.telemetry
  | .queryFile =>
    ∀ path, x.command?.bind (·.query?) = some (.file path) →
      x.surroundings.files.readText path = y.surroundings.files.readText path
  | .language =>
    x.command?.map (fun c => (c.language, c.file)) = y.command?.map fun c => (c.language, c.file)
  | .source =>
    ∀ c ∈ x.command?,
      x.surroundings.files.readText c.file = y.surroundings.files.readText c.file
  | .tree =>
    ∀ l ∈ x.language?, ∀ text ∈ x.source?,
      x.surroundings.engine.misfit l = y.surroundings.engine.misfit l ∧
        (x.surroundings.engine.parse l text).isSome = (y.surroundings.engine.parse l text).isSome
  | .query =>
    ∀ l ∈ x.language?, ∀ text ∈ x.queryText?,
      x.surroundings.engine.compile l text = y.surroundings.engine.compile l text

/-! ## The fault of a stage follows from what is read up to it -/

variable {x y : Situation}

theorem command?_eq (h : Agree x y .usage) : x.command? = y.command? := by
  have hcommand : x.parts.command = y.parts.command := h
  simp only [command?, invocation, hcommand]

theorem language?_eq (h : Agree x y .usage) : x.language? = y.language? := by
  simp only [language?, command?_eq h]

theorem configuration_eq (h : Agree x y .configuration) : x.configuration = y.configuration := by
  obtain ⟨harguments, henvironment, hfiles⟩ := h
  rw [configuration, Config.load_eq_of_sameFiles hfiles, harguments, henvironment, configuration]

theorem source?_eq (h : Agree x y .usage) (hsource : Agree x y .source) : x.source? = y.source? := by
  simp only [source?, ← command?_eq h]
  refine Option.bind_congr fun c hc => ?_
  rw [hsource c hc]

theorem queryText_eq (hquery : Agree x y .queryFile) {q : Usage.QuerySource}
    (hq : x.command?.bind (·.query?) = some q) :
    queryText x.surroundings q = queryText y.surroundings q := by
  cases q with
  | inline text => rfl
  | file path => rw [queryText, queryText, hquery path hq]

theorem queryText?_eq (h : Agree x y .usage) (hquery : Agree x y .queryFile) :
    x.queryText? = y.queryText? := by
  simp only [queryText?, ← command?_eq h]
  refine Option.bind_congr fun q hq => ?_
  rw [queryText_eq hquery hq]

/-- The fault names the language, and why it does not fit, but nothing of the tree. -/
theorem verdict?_parseSource_eq {e e' : Engine} {l : Language} {text : String}
    (hfits : e.misfit l = e'.misfit l) (hmade : (e.parse l text).isSome = (e'.parse l text).isSome) :
    verdict? (.failure ∘ .exploring) (e.parseSource l text) =
      verdict? (.failure ∘ .exploring) (e'.parseSource l text) := by
  rw [Engine.parseSource, Engine.parseSource, ← hfits]
  cases e.misfit l with
  | some reason => rfl
  | none =>
    cases hp : e.parse l text with
    | none =>
      rw [hp, Option.isSome_none] at hmade
      rw [Option.isNone_iff_eq_none.1 (Option.isSome_eq_false_iff.1 hmade.symm)]
    | some made =>
      rw [hp, Option.isSome_some] at hmade
      obtain ⟨made', hp'⟩ := Option.isSome_iff_exists.1 hmade.symm
      rw [hp']
      rfl

/-- Situations that agree on what is read up to a stage have the same fault there. -/
theorem fault_eq_of_agree {i : Stage} (h : ∀ j, j.rank ≤ i.rank → Agree x y j) :
    x.fault i = y.fault i := by
  have husage : Agree x y .usage := h .usage (Nat.zero_le _)
  have hcommand := command?_eq husage
  have hlanguage := language?_eq husage
  cases i with
  | usage =>
    have hparts : x.parts.command = y.parts.command := husage
    simp only [fault, invocation, hparts]
  | configuration => simp only [fault, configuration_eq (h .configuration (by decide))]
  | telemetry =>
    have htelemetry : x.telemetry = y.telemetry := h .telemetry (by decide)
    simp only [fault, configuration_eq (h .configuration (by decide)), htelemetry]
  | queryFile =>
    simp only [fault, ← hcommand]
    refine Option.bind_congr fun q hq => ?_
    rw [queryText_eq (h .queryFile (by decide)) hq]
  | language => simp only [fault, hcommand, hlanguage]
  | source =>
    simp only [fault, ← hcommand]
    refine Option.bind_congr fun c hc => ?_
    rw [h .source (by decide) c hc]
  | tree =>
    have hsource := source?_eq husage (h .source (by decide))
    simp only [fault, ← hlanguage, ← hsource]
    refine Option.bind_congr fun l hl => Option.bind_congr fun text htext => ?_
    obtain ⟨hfits, hmade⟩ := h .tree (by decide) l hl text htext
    exact verdict?_parseSource_eq hfits hmade
  | query =>
    have hquery := queryText?_eq husage (h .queryFile (by decide))
    simp only [fault, ← hlanguage, ← hquery]
    refine Option.bind_congr fun l hl => Option.bind_congr fun text htext => ?_
    have hanswer := h .query (by decide) l hl text htext
    simp only [Engine.compileQuery, hanswer]

end Situation

/-! ## The outcome follows from the first fault -/

theorem visible_performed {call : Call} {t : Log.Telemetry} {p : Performance} {f : Failure}
    (hf : p.failure = some f) (hw : p.writer.sink = call.output) :
    (performed call t p).visible = (Verdict.failure f).told call := by
  simp [Outcome.visible, performed, Verdict.told, failed, hf, hw]

/-- A command fails as its source does, once its query has been read. -/
theorem perform_of_parseFile_error {s : Surroundings} {t : Log.Telemetry} {c : Config}
    {command : Usage.Command} {w : RecordWriter} {f : Failure}
    (hquery : ∀ q ∈ command.query?, ∃ text, queryText s q = .ok text)
    (hp : parseFile s command.file command.language = .error f) :
    (perform s t c command w).failure = some f ∧ (perform s t c command w).writer = w := by
  cases command with
  | walk r =>
    have hp' : parseFile s r.file r.language = .error f := hp
    simp [perform, walk, hp']
  | query r =>
    have hp' : parseFile s r.file r.language = .error f := hp
    obtain ⟨text, htext⟩ := hquery r.query rfl
    simp [perform, query, htext, hp']

namespace Situation

variable {x : Situation}

/-- A situation whose command is carried out ends as the command does. -/
theorem visible_outcome_of_failure {v : Usage.Invocation} {c : Config} {t : Log.Telemetry}
    {f : Failure} (hv : x.invocation = .ok v) (hc : x.configuration = .ok c)
    (ht : x.telemetry.initialise c = .ok t)
    (hfails : ∀ w, (perform x.surroundings t c v.command w).failure = some f ∧
      (perform x.surroundings t c v.command w).writer = w) :
    x.outcome.visible = (Verdict.failure f).told x.call := by
  simp only [invocation, parts] at hv
  simp only [configuration, parts] at hc
  simp only [outcome, run, hv, hc, ht]
  obtain ⟨hf, hw⟩ := hfails { sink := x.call.output, format := v.output.resolve x.call.terminal }
  exact visible_performed hf (by rw [hw])

/-- What has been passed when a command is carried out: a command line that is read,
a configuration and logging. -/
theorem exists_of_fault_none (husage : x.fault .usage = none)
    (hconfiguration : x.fault .configuration = none) (htelemetry : x.fault .telemetry = none) :
    ∃ v c t, x.invocation = .ok v ∧ x.command? = some v.command ∧ x.configuration = .ok c ∧
      x.telemetry.initialise c = .ok t := by
  obtain ⟨v, hv⟩ := exists_ok_of_verdict? husage
  obtain ⟨c, hc⟩ := exists_ok_of_verdict? hconfiguration
  simp only [fault, hc, Except.toOption, Option.bind_some] at htelemetry
  obtain ⟨t, ht⟩ := exists_ok_of_verdict? htelemetry
  exact ⟨v, c, t, hv, by simp [command?, hv, Except.toOption], hc, ht⟩

/-! ### The stages of a command -/

theorem language?_of_command {command : Usage.Command} (h : x.command? = some command) :
    x.language? = command.language.or (Language.ofPath command.file) := by
  rw [language?, h, Option.bind_some]

theorem source?_of_command {command : Usage.Command} (h : x.command? = some command) {text : String}
    (htext : x.surroundings.files.readText command.file = .ok text) : x.source? = some text := by
  rw [source?, h, Option.bind_some, htext]
  rfl

/-- The text of a query is that of a query command. -/
theorem exists_query_of_queryText? {command : Usage.Command} (h : x.command? = some command)
    {text : String} (htext : x.queryText? = some text) :
    ∃ r, command = .query r ∧ queryText x.surroundings r.query = .ok text := by
  simp only [queryText?, h, Option.bind_some, Option.bind_eq_some_iff] at htext
  obtain ⟨q, hq, hread⟩ := htext
  cases command with
  | walk r => cases hq
  | query r =>
    cases hq
    refine ⟨r, rfl, ?_⟩
    cases hr : queryText x.surroundings r.query with
    | error f => rw [hr] at hread; cases hread
    | ok found => rw [hr] at hread; cases hread; rfl

theorem exists_queryText {command : Usage.Command} (h : x.command? = some command)
    (hquery : x.fault .queryFile = none) :
    ∀ q ∈ command.query?, ∃ text, queryText x.surroundings q = .ok text := by
  intro q hq
  simp only [fault, h, Option.bind_some, Option.mem_def.1 hq] at hquery
  exact exists_ok_of_verdict? hquery

theorem exists_language {command : Usage.Command} (h : x.command? = some command)
    (hlanguage : x.fault .language = none) : ∃ l, x.language? = some l := by
  simp only [fault, h, Option.bind_some] at hlanguage
  cases hl : x.language? with
  | none => simp [hl] at hlanguage
  | some l => exact ⟨l, rfl⟩

theorem exists_source {command : Usage.Command} (h : x.command? = some command)
    (hsource : x.fault .source = none) :
    ∃ text, x.surroundings.files.readText command.file = .ok text := by
  simp only [fault, h, Option.bind_some] at hsource
  exact exists_ok_of_verdict? hsource

/-- Where a language is known and the source can be read, the source is parsed. -/
theorem parseFile_of_command {command : Usage.Command} (h : x.command? = some command)
    {l : Language} (hl : x.language? = some l) {text : String}
    (htext : x.surroundings.files.readText command.file = .ok text) :
    parseFile x.surroundings command.file command.language =
      (x.surroundings.engine.parseSource l text).mapError .exploring := by
  rw [language?_of_command h] at hl
  simp only [parseFile, hl, htext]

/-- Where no stage up to the tree has a fault, there is a parsed source. -/
theorem exists_parsed {command : Usage.Command} (h : x.command? = some command)
    (hlanguage : x.fault .language = none) (hsource : x.fault .source = none)
    (htree : x.fault .tree = none) :
    ∃ p, x.language? = some p.language ∧
      parseFile x.surroundings command.file command.language = .ok p := by
  obtain ⟨l, hl⟩ := exists_language h hlanguage
  obtain ⟨text, htext⟩ := exists_source h hsource
  simp only [fault, hl, source?_of_command h htext, Option.bind_some] at htree
  obtain ⟨p, hp⟩ := exists_ok_of_verdict? htree
  obtain ⟨rfl, -, -, -⟩ := Engine.parseSource_eq_ok_iff.1 hp
  refine ⟨p, hl, ?_⟩
  rw [parseFile_of_command h hl htext, hp]
  rfl

/-- The faults of a command, when the stages before it have none: the command fails
with the first of them and has written nothing. -/
theorem perform_of_first {command : Usage.Command} (h : x.command? = some command) {i : Stage}
    (hi : Stage.telemetry.rank < i.rank) {verdict : Verdict} (hfault : x.fault i = some verdict)
    (hfirst : ∀ j, j.rank < i.rank → x.fault j = none) :
    ∃ f, verdict = .failure f ∧ ∀ t c w,
      (perform x.surroundings t c command w).failure = some f ∧
        (perform x.surroundings t c command w).writer = w := by
  cases i with
  | usage => simp [Stage.rank] at hi
  | configuration => simp [Stage.rank] at hi
  | telemetry => simp [Stage.rank] at hi
  | queryFile =>
    simp only [fault, h, Option.bind_some, Option.bind_eq_some_iff] at hfault
    obtain ⟨q, hq, hverdict⟩ := hfault
    obtain ⟨f, hread, rfl⟩ := exists_error_of_verdict? hverdict
    refine ⟨f, rfl, fun t c w => ?_⟩
    cases command with
    | walk r => cases hq
    | query r =>
      cases hq
      simp [perform, query, hread]
  | language =>
    have hquery := exists_queryText h (hfirst .queryFile (by decide))
    simp only [fault, h, Option.bind_some, Option.ite_none_right_eq_some] at hfault
    obtain ⟨hnone, hverdict⟩ := hfault
    refine ⟨_, (Option.some.inj hverdict).symm, fun t c w => perform_of_parseFile_error hquery ?_⟩
    rw [Option.isNone_iff_eq_none, language?_of_command h] at hnone
    simp only [parseFile, hnone]
  | source =>
    have hquery := exists_queryText h (hfirst .queryFile (by decide))
    obtain ⟨l, hl⟩ := exists_language h (hfirst .language (by decide))
    simp only [fault, h, Option.bind_some] at hfault
    obtain ⟨f, hread, rfl⟩ := exists_error_of_verdict? hfault
    refine ⟨_, rfl, fun t c w => perform_of_parseFile_error hquery ?_⟩
    rw [language?_of_command h] at hl
    simp only [parseFile, hl, hread]
  | tree =>
    have hquery := exists_queryText h (hfirst .queryFile (by decide))
    obtain ⟨l, hl⟩ := exists_language h (hfirst .language (by decide))
    obtain ⟨text, htext⟩ := exists_source h (hfirst .source (by decide))
    simp only [fault, hl, source?_of_command h htext, Option.bind_some] at hfault
    obtain ⟨e, hparse, rfl⟩ := exists_error_of_verdict? hfault
    refine ⟨_, rfl, fun t c w => perform_of_parseFile_error hquery ?_⟩
    rw [parseFile_of_command h hl htext, hparse]
    rfl
  | query =>
    -- The query is compiled for the language that the source was parsed as.
    obtain ⟨p, hl, hp⟩ := exists_parsed h (hfirst .language (by decide))
      (hfirst .source (by decide)) (hfirst .tree (by decide))
    simp only [fault, hl, Option.bind_some, Option.bind_eq_some_iff] at hfault
    obtain ⟨text, htext, hverdict⟩ := hfault
    obtain ⟨e, hcompile, rfl⟩ := exists_error_of_verdict? hverdict
    obtain ⟨r, rfl, hread⟩ := exists_query_of_queryText? h htext
    simp only [Usage.Command.file, Usage.Command.language] at hp
    refine ⟨_, rfl, fun t c w => ?_⟩
    simp [perform, query, hread, hp, querySource, hcompile]

/-! ### The whole run -/

/-- The outcome is what the first fault tells. -/
theorem visible_outcome_of_first {i : Stage} {verdict : Verdict} (hi : x.fault i = some verdict)
    (hfirst : ∀ j, j.rank < i.rank → x.fault j = none) :
    x.outcome.visible = verdict.told x.call := by
  by_cases hcommand : Stage.telemetry.rank < i.rank
  · obtain ⟨v, c, t, hv, hv', hc, ht⟩ := exists_of_fault_none
      (hfirst .usage (Nat.lt_trans (by decide) hcommand))
      (hfirst .configuration (Nat.lt_trans (by decide) hcommand)) (hfirst .telemetry hcommand)
    obtain ⟨f, rfl, hfails⟩ := perform_of_first hv' hcommand hi hfirst
    exact visible_outcome_of_failure hv hc ht fun w => hfails t c w
  · cases i with
    | usage =>
      obtain ⟨n, hread, rfl⟩ := exists_error_of_verdict? hi
      simp only [invocation, parts] at hread
      simp only [outcome, run, hread]
      rfl
    | configuration =>
      obtain ⟨v, hv⟩ := exists_ok_of_verdict? (hfirst .usage (by decide))
      obtain ⟨fs, hload, rfl⟩ := exists_error_of_verdict? hi
      simp only [invocation, parts] at hv
      simp only [configuration, parts] at hload
      simp only [outcome, run, hv, hload]
      rfl
    | telemetry =>
      obtain ⟨v, hv⟩ := exists_ok_of_verdict? (hfirst .usage (by decide))
      obtain ⟨c, hc⟩ := exists_ok_of_verdict? (hfirst .configuration (by decide))
      simp only [fault, hc, Except.toOption, Option.bind_some] at hi
      obtain ⟨f, hinit, rfl⟩ := exists_error_of_verdict? hi
      simp only [invocation, parts] at hv
      simp only [configuration, parts] at hc
      simp only [outcome, run, hv, hc, hinit]
      rfl
    | _ => exact absurd (by decide) hcommand

/-- The name that a program is called by is told by the arguments of its command. -/
theorem calledName_parts (x : Situation) :
    Usage.calledName x.call.arguments = Usage.calledName x.parts.command := by
  rw [parts]
  cases x.call.arguments with
  | nil => rfl
  | cons program rest => rfl

/-- A verdict is told the same in situations with the same sinks whose commands have
the same arguments. -/
theorem told_eq {y : Situation} (houtput : x.call.output = y.call.output)
    (hdiagnostics : x.call.diagnostics = y.call.diagnostics) (h : Agree x y .usage)
    (verdict : Verdict) : verdict.told x.call = verdict.told y.call := by
  have hname : Usage.calledName x.call.arguments = Usage.calledName y.call.arguments := by
    have hcommand : x.parts.command = y.parts.command := h
    rw [calledName_parts, hcommand, ← calledName_parts]
  cases verdict with
  | notice n => simp only [Verdict.told, Outcome.visible, noticed, houtput, hdiagnostics, hname]
  | failure f => simp only [Verdict.told, Outcome.visible, failed, houtput, hdiagnostics]

/-- **The first stage that fails decides.** Of two situations with the same sinks
that agree on what is read up to a stage, where this stage is the first to fail in
one of them, nothing that can be seen of the outcomes differs. What the later
stages would have read may be anything. -/
theorem outcome_eq_of_first_fault {x y : Situation} {i : Stage}
    (houtput : x.call.output = y.call.output) (hdiagnostics : x.call.diagnostics = y.call.diagnostics)
    (hagree : ∀ j, j.rank ≤ i.rank → Agree x y j) (hfails : x.fault i ≠ none)
    (hfirst : ∀ j, j.rank < i.rank → x.fault j = none) :
    x.outcome.success = y.outcome.success ∧ x.outcome.output = y.outcome.output ∧
      x.outcome.diagnostics = y.outcome.diagnostics := by
  obtain ⟨verdict, hverdict⟩ := Option.ne_none_iff_exists'.1 hfails
  have hverdict' : y.fault i = some verdict := fault_eq_of_agree hagree ▸ hverdict
  have hfirst' : ∀ j, j.rank < i.rank → y.fault j = none := by
    intro j hj
    rw [← hfirst j hj]
    exact (fault_eq_of_agree fun k hk => hagree k (Nat.le_trans hk hj.le)).symm
  have hvisible : x.outcome.visible = y.outcome.visible :=
    calc x.outcome.visible
        = verdict.told x.call := visible_outcome_of_first hverdict hfirst
      _ = verdict.told y.call := told_eq houtput hdiagnostics (hagree .usage (Nat.zero_le _)) verdict
      _ = y.outcome.visible := (visible_outcome_of_first hverdict' hfirst').symm
  simpa only [Outcome.visible, Prod.mk.injEq] using hvisible

/-- A call in a directory with these entries and nothing else. -/
def bare (entries : List (Location × FileEntry)) (words : List String) : Situation where
  surroundings := ⟨.pair, ⟨[['w']], entries⟩, []⟩
  telemetry := .idle
  call := ⟨words.map Argument.ofText, false, {}, {}⟩

/-- A source of no known language fails the same whether or not it is there, and
help is given the same where the configuration is broken. -/
theorem outcome_notes_and_help :
    let words := ["sylvan", "walk", "notes"]
    let there := bare [([['w'], ['n', 'o', 't', 'e', 's']], .file "x".toUTF8)] words
    let missing := bare [] words
    let plain := bare [] ["sylvan", "--help"]
    let broken := bare [] ["sylvan", "--config-path", "nowhere", "--help"]
    (missing.fault .source).isSome = true ∧ (there.fault .source).isNone = true ∧
      there.outcome.diagnostics = missing.outcome.diagnostics ∧
      (broken.fault .configuration).isSome = true ∧
      (plain.fault .configuration).isNone = true ∧
      plain.outcome.success = broken.outcome.success ∧
      plain.outcome.output = broken.outcome.output := by
  intro words there missing plain broken
  have hnotes := outcome_eq_of_first_fault (x := there) (y := missing) (i := .language) rfl rfl
    (by
      intro j hj
      cases j with
      | usage => rfl
      | configuration =>
        refine ⟨rfl, rfl, Config.SameFiles.of_absent rfl fun path hpath => ?_⟩
        have hlooked : Config.lookedFor [['w']] [] there.parts.configuration =
            ["/etc/xdg/sylvan/sylvan.toml", "/etc/xdg/.sylvan.toml", "/w/.sylvan.toml"] := by
          decide +kernel
        have hmem : path ∈ Config.lookedFor [['w']] [] there.parts.configuration := hpath
        rw [hlooked] at hmem
        simp only [List.mem_cons, List.not_mem_nil, or_false] at hmem
        rcases hmem with rfl | rfl | rfl <;> exact ⟨rfl, rfl⟩
      | telemetry => rfl
      | queryFile =>
        intro path hpath
        have hnone : (there.command?.bind (·.query?)).isNone = true := by decide +kernel
        rw [hpath] at hnone
        cases hnone
      | language => rfl
      | _ => exact absurd hj (by decide))
    (Option.isSome_iff_ne_none.1 (by decide +kernel))
    (by
      intro j hj
      cases j with
      | usage => exact Option.isNone_iff_eq_none.1 (by decide +kernel)
      | configuration => exact Option.isNone_iff_eq_none.1 (by decide +kernel)
      | telemetry => exact Option.isNone_iff_eq_none.1 (by decide +kernel)
      | queryFile => exact Option.isNone_iff_eq_none.1 (by decide +kernel)
      | _ => exact absurd hj (by decide))
  have hhelp := outcome_eq_of_first_fault (x := plain) (y := broken) (i := .usage) rfl rfl
    (by
      intro j hj
      cases j with
      | usage => exact show plain.parts.command = broken.parts.command by decide +kernel
      | _ => exact absurd hj (by decide))
    (Option.isSome_iff_ne_none.1 (by decide +kernel))
    (fun j hj => absurd hj (Nat.not_lt_zero _))
  exact ⟨by decide +kernel, by decide +kernel, hnotes.2.2, by decide +kernel, by decide +kernel,
    hhelp.1, hhelp.2.1⟩

end Situation

end Program

end TreeExplorer
