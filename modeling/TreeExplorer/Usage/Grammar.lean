/-
Reading a command line argument by argument. A grammar says which options there
are, whether a plain argument is taken, and which words are commands. A value is
not looked at when it is met but when the next thing is: an argument that fits
nothing is told before a bad value that stands in front of it.
-/
import TreeExplorer.Usage.Argument
import TreeExplorer.Usage.Fault

namespace TreeExplorer.Usage

universe u

/-- Why a value is refused. -/
inductive Refusal where
  /-- Nothing is no value here. -/
  | empty
  | notText
  /-- The value is none of the choices. -/
  | noChoice
  | reason (text : String)
  deriving DecidableEq, Repr

/-- Where a value goes. -/
structure Slot (σ : Type u) where
  label : String
  choices : List String := []
  /-- Takes a value in. -/
  accept : σ → Argument → Except Refusal σ

/-- The fault of a refused value. -/
def Slot.fault {σ : Type u} (slot : Slot σ) (value : Argument) : Refusal → Fault
  | .empty => .missingValue slot.label slot.choices
  | .notText => .notText
  | .noChoice => .noChoice value.shown slot.label slot.choices
  | .reason text => .badValue value.shown slot.label text

/-- What an option does. -/
inductive OptionKind (σ : Type u) where
  | switch (set : σ → σ)
  | valued (slot : Slot σ)

/-- An option. -/
structure OptionSpec (σ : Type u) where
  name : String
  kind : OptionKind σ

/-- What a command line may hold. -/
structure Grammar (σ : Type u) where
  options : List (OptionSpec σ)
  /-- Where the one plain argument goes, if one is taken. -/
  operand : Option (Slot σ) := none
  commands : List String := []
  hasVersion : Bool := false

/-- How far a command line has been read. -/
structure Scan (σ : Type u) where
  values : σ
  /-- The labels of what has been taken in. -/
  given : List String := []
  /-- The slot in use: its value, or none if that is still to come. -/
  pending : Option (Slot σ × Option Argument) := none
  operandTaken : Bool := false
  /-- Whether the separator has been met. -/
  plainOnly : Bool := false

namespace Scan

variable {σ : Type u}

/-- Takes a value into a slot that has none yet. -/
def fill (s : Scan σ) (slot : Slot σ) (value : Argument) : Except Fault (Scan σ) :=
  if s.given.contains slot.label then .error (.repeated slot.label)
  else
    match slot.accept s.values value with
    | .ok values => .ok { s with values, given := s.given ++ [slot.label] }
    | .error r => .error (slot.fault value r)

/-- Sets a switch that is not set yet. -/
def turnOn (s : Scan σ) (label : String) (set : σ → σ) : Except Fault (Scan σ) :=
  if s.given.contains label then .error (.repeated label)
  else .ok { s with values := set s.values, given := s.given ++ [label] }

/-- Looks at the value in hand. -/
def resolve (s : Scan σ) : Except Fault (Scan σ) :=
  match s.pending with
  | none => .ok s
  | some (slot, none) => .error (.missingValue slot.label slot.choices)
  | some (slot, some value) => fill { s with pending := none } slot value

/-- Whether an option waits for its value. -/
def awaits (s : Scan σ) : Bool :=
  match s.pending with
  | some (_, none) => !s.plainOnly
  | _ => false

end Scan

namespace Grammar

variable {σ : Type u}

/-- A fault as a reason to stop. -/
def stopAt {α : Type u} : Except Fault α → Except Stop α
  | .ok a => .ok a
  | .error f => .error (.fault f)

/-- The reason to stop at an argument that fits nothing. -/
def misfit (g : Grammar σ) (s : Scan σ) (a : Argument) : Fault :=
  if g.commands.isEmpty then .unexpectedArgument a.shown
  else if s.plainOnly && a.text?.any g.commands.contains then .unexpectedArgument a.shown
  else .unknownCommand a.shown

/-- Reads a plain argument. -/
def readOperand (g : Grammar σ) (s : Scan σ) (a : Argument) : Except Fault (Scan σ) :=
  match g.operand with
  | some slot =>
    if s.operandTaken then .error (g.misfit s a)
    else do
      let s ← s.resolve
      return { s with pending := some (slot, some a), operandTaken := true }
  | none => .error (g.misfit s a)

/-- Reads a flag that stops the reading, once the value in hand has been looked
at. -/
def readStop (s : Scan σ) (label : String) (stop : Stop) (value : Option Argument) : Stop :=
  match value with
  | some v => .fault (.unexpectedValue v.shown label)
  | none =>
    match s.resolve with
    | .ok _ => stop
    | .error f => .fault f

/-- Reads an option of the grammar. -/
def readOption (s : Scan σ) (o : OptionSpec σ) (value : Option Argument) :
    Except Fault (Scan σ) :=
  match o.kind, value with
  | .switch _, some v => .error (.unexpectedValue v.shown ("--" ++ o.name))
  | .switch set, none => do
    let s ← s.resolve
    s.turnOn ("--" ++ o.name) set
  | .valued slot, some v => do
    let s ← s.resolve
    s.fill slot v
  | .valued slot, none => do
    let s ← s.resolve
    return { s with pending := some (slot, none) }

/-- Reads an argument that begins with two dashes. -/
def readLong (g : Grammar σ) (s : Scan σ) (name : Argument) (value : Option Argument) :
    Except Stop (Scan σ) :=
  if name.text? = some "help" then .error (readStop s "--help" (.help true) value)
  else if g.hasVersion && name.text? = some "version" then
    .error (readStop s "--version" .version value)
  else
    match g.options.find? fun o => name.text? = some o.name with
    | some o => stopAt (readOption s o value)
    | none => .error (.fault (.unexpectedArgument ("--" ++ name.shown)))

/-- Reads letters after a dash. Each of them that means something stops the
reading, so only the first counts. -/
def readShort (g : Grammar σ) (s : Scan σ) (letters : Argument) : Except Stop (Scan σ) :=
  match letters with
  | [] => .ok s
  | .char c :: _ =>
    if c = 'h' then .error (readStop s "-h" (.help false) none)
    else if g.hasVersion && c = 'V' then .error (readStop s "-V" .version none)
    else .error (.fault (.unexpectedArgument (String.ofList ['-', c])))
  | .stray _ :: _ => .error (.fault (.unexpectedArgument ("-" ++ letters.shown)))

/-- Reads one argument. -/
def read (g : Grammar σ) (s : Scan σ) (a : Argument) : Except Stop (Scan σ) :=
  if s.plainOnly then stopAt (g.readOperand s a)
  else
    match a.shape with
    | .separator => .ok { s with plainOnly := true }
    | .long name value => g.readLong s name value
    | .short letters => g.readShort s letters
    | .plain =>
      match s.pending with
      | some (slot, none) => .ok { s with pending := some (slot, some a) }
      | _ => stopAt (g.readOperand s a)

/-- The command that an argument is, where a command may stand. -/
def command? (g : Grammar σ) (s : Scan σ) (a : Argument) : Option String :=
  if s.plainOnly || s.awaits then none else a.text?.filter g.commands.contains

/-- What reading comes to: the scan and, where a command was met, its name and the
arguments after it. The value in hand has not been looked at. -/
abbrev Reading (σ : Type u) := Scan σ × Option (String × List Argument)

/-- Reads arguments up to the first command. -/
def readAll (g : Grammar σ) : Scan σ → List Argument → Except Stop (Reading σ)
  | s, [] => .ok (s, none)
  | s, a :: rest =>
    match g.command? s a with
    | some name => .ok (s, some (name, rest))
    | none =>
      match g.read s a with
      | .ok s => g.readAll s rest
      | .error stop => .error stop

/-- Reads the arguments of a command line without commands. -/
def parse (g : Grammar σ) (start : σ) (arguments : List Argument) : Except Stop (Scan σ) :=
  match g.readAll { values := start } arguments with
  | .ok (s, _) => stopAt s.resolve
  | .error stop => .error stop

end Grammar

end TreeExplorer.Usage
