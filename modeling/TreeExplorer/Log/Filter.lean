/-
Which events are written. A filter is a list of directives; each gives a level
to the targets that begin with its text, or to all targets, and may ask for a
field. Of the directives that apply to an event the most specific one decides,
and of equal ones the last.
-/
import TreeExplorer.Log.Event
import TreeExplorer.Log.Pattern
import TreeExplorer.Text.Ascii
import TreeExplorer.Text.Blank
import TreeExplorer.Text.Cut
import TreeExplorer.Text.Utf8

namespace TreeExplorer.Log

/-- A field that a directive asks for, and the value that it is to have. -/
structure FieldPattern where
  name : List Char
  value : Option (List Char) := none
  deriving DecidableEq, Repr

/-- One directive. Without a level nothing is written. -/
structure Directive where
  target : Option (List Char) := none
  /-- The span in which events are to happen. -/
  span : Option (List Char) := none
  field : Option FieldPattern := none
  level : Option Level := some .trace
  deriving DecidableEq, Repr

/-- Why a filter is refused. -/
inductive FilterFault where
  | directive
  | level
  | field (fault : Pattern.Fault)
  deriving DecidableEq, Repr

/-- The wording of a refusal. -/
def FilterFault.message : FilterFault → String
  | .directive => "invalid filter directive"
  | .level =>
    "error parsing level filter: expected one of \"off\", \"error\", \"warn\", \"info\", "
      ++ "\"debug\", \"trace\", or a number 0-5"
  | .field f => "invalid field filter: " ++ f.message

/-- The level of a number from 0, which is none, to 5. -/
def levelOfNumber : Nat → Option (Option Level)
  | 0 => some none
  | 1 => some (some .error)
  | 2 => some (some .warn)
  | 3 => some (some .info)
  | 4 => some (some .debug)
  | 5 => some (some .trace)
  | _ => none

/-- The names of the levels, in the order of their numbers. -/
def levelNames : List String :=
  ["off", "error", "warn", "info", "debug", "trace"]

/-- Reads a level: a number, or a name in any case. -/
def level? (cs : List Char) : Option (Option Level) :=
  match Text.readNat 18446744073709551615 cs with
  | .ok n => levelOfNumber n
  | .error _ =>
    (levelNames.findIdx? fun n => Text.sameIgnoringCase n (String.ofList cs)).bind levelOfNumber

/-- Reads the level after an equals sign; nothing there means every level. -/
def levelAfterEquals (cs : List Char) : Except FilterFault (Option Level) :=
  match cs with
  | [] => .ok (some .trace)
  | cs =>
    match level? cs with
    | some l => .ok l
    | none => .error .level

/-- Whether a directive may begin with a character. -/
def startsTarget (c : Char) : Bool :=
  c = '-' || c = ':' || c = '_' || Text.isAlphanumeric c

/-- The characters of a directive between two byte offsets. -/
def piece (cs : List Char) (start stop : Nat) : Except FilterFault (List Char) :=
  match Text.sliceList cs start stop with
  | some part => .ok part
  | none => .error .directive

/-- The characters of a directive from a byte offset on. -/
def pieceFrom (cs : List Char) (start : Nat) : Except FilterFault (List Char) :=
  match Text.dropBytes cs start with
  | some part => .ok part
  | none => .error .directive

/-- Reads a field that is asked for: a name, or a name and a value with an equals
sign between them. -/
def fieldPattern (cs : List Char) : Except FilterFault FieldPattern :=
  match cs with
  | [] => .error .directive
  | cs =>
    match Text.cut (· == '=') cs with
    | name :: value :: _ =>
      match Pattern.fault? value with
      | none => .ok ⟨name, some value⟩
      | some f => .error (.field f)
    | name :: _ => .ok ⟨name, none⟩
    | [] => .error .directive

/-- Reads the level that may follow the brackets of a span. `rest` is what is left
of the directive, and begins at byte `offset`. -/
def afterSpan (cs : List Char) (offset : Nat) (rest : List Char) :
    Except FilterFault (Option Level) :=
  match rest with
  | [] => .ok (some .trace)
  | '=' :: _ => do levelAfterEquals (← pieceFrom cs (offset + 1))
  | _ => .error .directive

/-- Reads what follows the opening bracket of a span: its name, a field in braces
and an optional level. `rest` is what is left of the directive, and begins at byte
`offset`. -/
def spanDirective (cs : List Char) (target : Option (List Char)) (offset : Nat)
    (rest : List Char) : Except FilterFault Directive := do
  let name := rest.takeWhile fun c => c != ']' && c != '{'
  let stop := offset + Text.byteLength name
  match rest.drop name.length with
  | ']' :: rest => do
    let level ← afterSpan cs (stop + 1) rest
    return { target, span := some (← piece cs offset stop), level }
  | '{' :: rest => do
    let named ← piece cs offset stop
    let field := rest.takeWhile (· != '}')
    let fieldStop := stop + 1 + Text.byteLength field
    match rest.drop field.length with
    | '}' :: ']' :: rest => do
      let pattern ← fieldPattern (← piece cs (stop + 1) fieldStop)
      let level ← afterSpan cs (fieldStop + 2) rest
      return { target, span := if named.isEmpty then none else some named, field := pattern, level }
    | _ => .error .directive
  | _ => .error .directive

/-- Reads a directive. Where its parts end is looked for without the blanks around
it; the parts are then cut at those places from the text as given. -/
def directive (cs : List Char) : Except FilterFault Directive :=
  match Text.trimList cs with
  | [] => .error .directive
  | '[' :: rest => spanDirective cs none 1 rest
  | c :: rest =>
    if !startsTarget c then .error .directive
    else
      let word := (c :: rest).takeWhile fun c => c != '=' && c != '['
      let stop := Text.byteLength word
      match (c :: rest).drop word.length with
      | [] =>
        match level? cs with
        | some level => .ok { level }
        | none => .ok { target := some cs }
      | '[' :: span => do spanDirective cs (some (← piece cs 0 stop)) (stop + 1) span
      | _ => do
        let target ← piece cs 0 stop
        return { target := some target, level := ← levelAfterEquals (← pieceFrom cs (stop + 1)) }

/-- A filter. -/
structure Filter where
  directives : List Directive
  deriving DecidableEq, Repr

namespace Filter

/-- Reads a filter: directives with commas between them. -/
def parse (text : String) : Except FilterFault Filter := do
  let ds ← ((Text.cut (· == ',') text.toList).filter (!·.isEmpty)).mapM directive
  return ⟨ds⟩

/-- Whether an event has a field. The message is a field too. -/
def hasField (e : Event) (name : List Char) : Bool :=
  name = ['m', 'e', 's', 's', 'a', 'g', 'e'] || e.fields.any fun f => f.1.toList = name

/-- Whether a directive speaks of an event. This program opens no spans, so what
is said of a span or of the values in it applies to no event. -/
def applies (d : Directive) (e : Event) : Bool :=
  d.span.isNone
    && (match d.target with
      | none => true
      | some t => t.isPrefixOf e.target.toList)
    && (match d.field with
      | none => true
      | some f => f.value.isNone && hasField e f.name)

/-- The code points of the name of the field that is asked for. -/
def fieldCodes (d : Directive) : Option (List Nat) :=
  d.field.map fun f => f.name.map Char.toNat

/-- Which of two directives is less specific: the one with the shorter target, or
without one; then the one without a field; then the one whose field comes first
in the order of names. -/
def specificity (d e : Directive) : Ordering :=
  (compare (d.target.map List.length) (e.target.map List.length)).then
    (compare (fieldCodes d) (fieldCodes e))

/-- The directive that decides on an event. -/
def deciding (f : Filter) (e : Event) : Option Directive :=
  (f.directives.filter (applies · e)).foldl
    (fun best d =>
      match best with
      | some b => if (specificity b d).isLE then some d else some b
      | none => some d)
    none

/-- Whether an event is written. -/
def enables (f : Filter) (e : Event) : Bool :=
  match (f.deciding e).bind (·.level) with
  | some l => decide (e.level.rank ≤ l.rank)
  | none => false

end Filter

end TreeExplorer.Log
