/-
Logging is set up once in a process, by the first configuration whose filter is accepted.
A call finds nothing installed, and then its own filter decides, or something that stays.
So after any calls what is installed is what the first accepted configuration among them
asked for (`after_idle_append`), and nothing if there is none (`after_idle_of_refused`).
The program makes one such call in each run that has read its command line and loaded its
configuration, and keeps the state that the call leaves (`telemetry_run`).
-/
import Mathlib.Data.List.Basic
import TreeExplorer.Program

namespace TreeExplorer.Log

/-- The filter of a configuration can be read. -/
def Accepted (c : Config) : Prop :=
  ∃ f, Filter.parse c.logFilter = .ok f

namespace Telemetry

/-- The subscriber that is installed. -/
def subscriber? : Telemetry → Option Subscriber
  | installed s => some s
  | _ => none

/-- The state that a call leaves behind. One that fails leaves what it found. -/
def settle (t : Telemetry) (c : Config) : Telemetry :=
  match t.initialise c with
  | .ok t' => t'
  | .error _ => t

/-- The state that calls leave behind, made one after another. -/
def after (t : Telemetry) (cs : List Config) : Telemetry :=
  cs.foldl settle t

/-- The subscribers that calls put in place of what they find, made one after another. -/
def installs (t : Telemetry) : List Config → List Subscriber
  | [] => []
  | c :: cs =>
    (if t.settle c = t then [] else (t.settle c).subscriber?.toList) ++ (t.settle c).installs cs

/-! ## One call -/

theorem initialise_idle_of_ok {c : Config} {f : Filter} (h : Filter.parse c.logFilter = .ok f) :
    idle.initialise c = .ok (installed ⟨f, c.logFormat⟩) := by
  simp only [initialise, h]

theorem exists_initialise_idle_of_refused {c : Config} (h : ¬Accepted c) :
    ∃ e, Filter.parse c.logFilter = .error e ∧ idle.initialise c = .error (.filter e) := by
  cases hparse : Filter.parse c.logFilter with
  | ok f => exact absurd ⟨f, hparse⟩ h
  | error e => exact ⟨e, rfl, by simp only [initialise, hparse]⟩

theorem settle_installed (s : Subscriber) (c : Config) : (installed s).settle c = installed s :=
  rfl

theorem settle_idle_of_ok {c : Config} {f : Filter} (h : Filter.parse c.logFilter = .ok f) :
    idle.settle c = installed ⟨f, c.logFormat⟩ := by
  rw [settle, initialise_idle_of_ok h]

theorem settle_idle_of_refused {c : Config} (h : ¬Accepted c) : idle.settle c = idle := by
  obtain ⟨e, -, hfails⟩ := exists_initialise_idle_of_refused h
  rw [settle, hfails]

/-! ## Calls one after another -/

theorem after_append (t : Telemetry) (cs ds : List Config) :
    t.after (cs ++ ds) = (t.after cs).after ds :=
  List.foldl_append

theorem after_cons (t : Telemetry) (c : Config) (cs : List Config) :
    t.after (c :: cs) = (t.settle c).after cs :=
  rfl

theorem installs_append (t : Telemetry) (cs ds : List Config) :
    t.installs (cs ++ ds) = t.installs cs ++ (t.after cs).installs ds := by
  induction cs generalizing t with
  | nil => rfl
  | cons c cs ih => rw [List.cons_append, installs, installs, ih, after_cons, List.append_assoc]

/-- Calls of which each leaves the state as it is leave it so together. -/
theorem after_of_still {t : Telemetry} {cs : List Config} (h : ∀ c ∈ cs, t.settle c = t) :
    t.after cs = t ∧ t.installs cs = [] := by
  induction cs with
  | nil => exact ⟨rfl, rfl⟩
  | cons c cs ih =>
    obtain ⟨hc, hcs⟩ := List.forall_mem_cons.1 h
    obtain ⟨hafter, hinstalls⟩ := ih hcs
    refine ⟨?_, ?_⟩
    · rw [after_cons, hc, hafter]
    · rw [installs, hc, if_pos rfl, hinstalls, List.append_nil]

theorem after_installed (s : Subscriber) (cs : List Config) :
    (installed s).after cs = installed s ∧ (installed s).installs cs = [] :=
  after_of_still fun c _ => settle_installed s c

theorem after_idle_of_refused {cs : List Config} (h : ∀ c ∈ cs, ¬Accepted c) :
    idle.after cs = idle ∧ idle.installs cs = [] :=
  after_of_still fun c hc => settle_idle_of_refused (h c hc)

section

variable {earlier : List Config} {c : Config} {f : Filter}

/-- The first accepted configuration decides, whatever comes behind it. -/
theorem after_idle_append (hearlier : ∀ b ∈ earlier, ¬Accepted b)
    (hf : Filter.parse c.logFilter = .ok f) (later : List Config) :
    idle.after (earlier ++ c :: later) = installed ⟨f, c.logFormat⟩ ∧
      idle.installs (earlier ++ c :: later) = [⟨f, c.logFormat⟩] := by
  obtain ⟨hidle, hnone⟩ := after_idle_of_refused hearlier
  obtain ⟨hstays, hnoMore⟩ := after_installed ⟨f, c.logFormat⟩ later
  constructor
  · rw [after_append, hidle, after_cons, settle_idle_of_ok hf, hstays]
  · rw [installs_append, hnone, hidle, installs, settle_idle_of_ok hf, hnoMore]
    rfl

theorem exists_first_accepted {cs : List Config} (h : ∃ c ∈ cs, Accepted c) :
    ∃ earlier c later f, cs = earlier ++ c :: later ∧ (∀ b ∈ earlier, ¬Accepted b) ∧
      Filter.parse c.logFilter = .ok f := by
  induction cs with
  | nil => simp at h
  | cons c cs ih =>
    by_cases hc : Accepted c
    · obtain ⟨f, hf⟩ := hc
      exact ⟨[], c, cs, f, rfl, by simp, hf⟩
    · have htail : ∃ c ∈ cs, Accepted c := by simpa [hc] using h
      obtain ⟨earlier, d, later, f, rfl, hearlier, hf⟩ := ih htail
      exact ⟨c :: earlier, d, later, f, rfl, List.forall_mem_cons.2 ⟨hc, hearlier⟩, hf⟩

/-- Behind an accepted configuration every call succeeds and changes nothing. -/
theorem initialise_after_accepted {cs : List Config} (h : ∃ b ∈ cs, Accepted b) (c : Config) :
    (idle.after cs).initialise c = .ok (idle.after cs) := by
  obtain ⟨earlier, b, later, f, rfl, hearlier, hf⟩ := exists_first_accepted h
  rw [(after_idle_append hearlier hf later).1]
  rfl

theorem exists_initialise_eq_error_iff :
    (∃ fault, (idle.after earlier).initialise c = .error fault) ↔
      ¬Accepted c ∧ ∀ b ∈ earlier, ¬Accepted b := by
  constructor
  · rintro ⟨fault, h⟩
    have hearlier : ∀ b ∈ earlier, ¬Accepted b := by
      intro b hb haccepted
      cases (initialise_after_accepted ⟨b, hb, haccepted⟩ c).symm.trans h
    refine ⟨?_, hearlier⟩
    rintro ⟨f, hf⟩
    rw [(after_idle_of_refused hearlier).1] at h
    cases (initialise_idle_of_ok hf).symm.trans h
  · rintro ⟨hc, hearlier⟩
    obtain ⟨e, -, he⟩ := exists_initialise_idle_of_refused hc
    exact ⟨.filter e, by rw [(after_idle_of_refused hearlier).1, he]⟩

/-- A call that fails tells what is wrong with its filter, and nothing is installed. -/
theorem idle_of_initialise_eq_error {fault : TelemetryFault}
    (h : (idle.after earlier).initialise c = .error fault) :
    (∃ e, Filter.parse c.logFilter = .error e ∧ fault = .filter e) ∧
      idle.after (earlier ++ [c]) = idle := by
  obtain ⟨hc, hearlier⟩ := exists_initialise_eq_error_iff.1 ⟨fault, h⟩
  obtain ⟨e, hparse, he⟩ := exists_initialise_idle_of_refused hc
  rw [(after_idle_of_refused hearlier).1, he] at h
  refine ⟨⟨e, hparse, (Except.error.inj h).symm⟩, ?_⟩
  rw [after_append, (after_idle_of_refused hearlier).1]
  exact settle_idle_of_refused hc

end

end Telemetry

end TreeExplorer.Log

/-! ## Runs of the program -/

namespace TreeExplorer.Program

open Log (Telemetry)

/-- The configuration with which a run sets logging up, if it gets that far. -/
def loaded? (s : Surroundings) (call : Call) : Option Config :=
  match Usage.readCommandLine (Config.divide call.arguments).command with
  | .error _ => none
  | .ok _ =>
    (Config.load s.files s.environment (Config.divide call.arguments).configuration).toOption

/-- The state of logging that runs leave behind, made one after another in one process. -/
def telemetryAfter (t : Telemetry) (runs : List (Surroundings × Call)) : Telemetry :=
  runs.foldl (fun t r => (run r.1 t r.2).telemetry) t

theorem telemetry_run (s : Surroundings) (t : Telemetry) (call : Call) :
    (run s t call).telemetry = t.after (loaded? s call).toList := by
  cases hread : Usage.readCommandLine (Config.divide call.arguments).command with
  | error n =>
    simp only [run, loaded?, hread]
    rfl
  | ok v =>
    cases hload : Config.load s.files s.environment (Config.divide call.arguments).configuration with
    | error fs =>
      simp only [run, loaded?, hread, hload]
      rfl
    | ok c =>
      cases hinitialise : t.initialise c <;>
        simp only [run, loaded?, hread, hload, hinitialise, Except.toOption, Option.toList_some,
          Telemetry.after_cons, Telemetry.settle] <;> rfl

/-- The runs of a process set logging up with the configurations that they load. -/
theorem telemetryAfter_eq (t : Telemetry) (runs : List (Surroundings × Call)) :
    telemetryAfter t runs = t.after (runs.filterMap fun r => loaded? r.1 r.2) := by
  induction runs generalizing t with
  | nil => rfl
  | cons r runs ih =>
    have hrest : telemetryAfter t (r :: runs) = telemetryAfter (run r.1 t r.2).telemetry runs := rfl
    rw [hrest, ih, telemetry_run, ← Telemetry.after_append]
    cases hloaded : loaded? r.1 r.2 <;> simp [hloaded]

end TreeExplorer.Program

namespace TreeExplorer.Log.Telemetry

/-- **Logging is set up once, by the first accepted filter.** Of calls that are made one
after another in a process in which nothing is installed, one fails just if its filter and
those of all before it are refused; it tells what is wrong with its filter and leaves
nothing installed. The first one whose filter is accepted installs a subscriber with its
filter and its format, and that is the only one ever installed: all calls behind it
succeed and leave it in place, whatever their filters. The runs of the program make such
calls with the configurations that they load. -/
theorem first_accepted_filter_installs (cs : List Config) :
    (∀ earlier c later, cs = earlier ++ c :: later →
      ((∃ fault, (idle.after earlier).initialise c = .error fault) ↔
        ¬Accepted c ∧ ∀ b ∈ earlier, ¬Accepted b) ∧
      (∀ fault, (idle.after earlier).initialise c = .error fault →
        (∃ e, Filter.parse c.logFilter = .error e ∧ fault = .filter e) ∧
        idle.after (earlier ++ [c]) = idle) ∧
      (∀ f, Filter.parse c.logFilter = .ok f → (∀ b ∈ earlier, ¬Accepted b) →
        idle.after earlier = idle ∧ idle.after (earlier ++ [c]) = installed ⟨f, c.logFormat⟩ ∧
        idle.after cs = installed ⟨f, c.logFormat⟩ ∧ idle.installs cs = [⟨f, c.logFormat⟩]) ∧
      ((∃ b ∈ earlier, Accepted b) →
        (idle.after earlier).initialise c = .ok (idle.after earlier))) ∧
    ((∀ c ∈ cs, ¬Accepted c) → idle.after cs = idle ∧ idle.installs cs = []) ∧
    ∀ runs : List (Program.Surroundings × Program.Call),
      Program.telemetryAfter idle runs =
        idle.after (runs.filterMap fun r => Program.loaded? r.1 r.2) := by
  refine ⟨?_, after_idle_of_refused, Program.telemetryAfter_eq idle⟩
  rintro earlier c later rfl
  refine ⟨exists_initialise_eq_error_iff, fun _ => idle_of_initialise_eq_error, ?_,
    fun h => initialise_after_accepted h c⟩
  intro f hf hearlier
  exact ⟨(after_idle_of_refused hearlier).1, (after_idle_append hearlier hf []).1,
    after_idle_append hearlier hf later⟩

/-- A level that is none, then a filter for JSON lines, then no directive at all. -/
theorem installs_between_refused :
    let cs : List Config :=
      [{ logFilter := "sylvan_iter=loudest" }, { logFilter := "debug", logFormat := .json },
        { logFilter := "=" }]
    idle.initialise cs[0] = .error (.filter .level) ∧ idle.after (cs.take 1) = idle ∧
      idle.installs cs = [⟨⟨[{ level := some .debug }]⟩, .json⟩] ∧
      (idle.after (cs.take 2)).initialise cs[2] = .ok (idle.after (cs.take 2)) := by
  intro cs
  obtain ⟨hcalls, -, -⟩ := first_accepted_filter_installs cs
  have hfirst : Filter.parse cs[0].logFilter = .error .level := by decide
  have hsecond : Filter.parse cs[1].logFilter = .ok ⟨[{ level := some .debug }]⟩ := by decide
  have hrefused : ¬Accepted cs[0] := by
    rintro ⟨f, hf⟩
    cases hfirst.symm.trans hf
  obtain ⟨hfails, hidle, -, -⟩ := hcalls [] cs[0] [cs[1], cs[2]] rfl
  obtain ⟨-, -, hinstalls, -⟩ := hcalls [cs[0]] cs[1] [cs[2]] rfl
  obtain ⟨-, -, -, hlater⟩ := hcalls [cs[0], cs[1]] cs[2] [] rfl
  obtain ⟨fault, hfault⟩ := hfails.2 ⟨hrefused, by simp⟩
  obtain ⟨⟨e, he, rfl⟩, hafter⟩ := hidle fault hfault
  obtain rfl := Except.error.inj (hfirst.symm.trans he)
  obtain ⟨-, -, -, honce⟩ := hinstalls _ hsecond (by simpa using hrefused)
  exact ⟨hfault, hafter, honce, hlater ⟨cs[1], by simp, _, hsecond⟩⟩

end TreeExplorer.Log.Telemetry
