/-
The kinds of values that options take.
-/
import TreeExplorer.Usage.Grammar

namespace TreeExplorer.Usage

universe u

variable {σ : Type u} {α : Type}

/-- A text, which may be empty. -/
def textValue (a : Argument) : Except Refusal String :=
  match a.text? with
  | some t => .ok t
  | none => .error .notText

/-- A path: anything but nothing. -/
def pathValue (a : Argument) : Except Refusal Argument :=
  if a.isEmpty then .error .empty else .ok a

/-- A text from which something is read. -/
def readValue (read : String → Except String α) (a : Argument) : Except Refusal α := do
  let t ← textValue a
  match read t with
  | .ok v => return v
  | .error reason => .error (.reason reason)

/-- One of several names; nothing is no name. -/
def choiceValue (choose : String → Option α) (a : Argument) : Except Refusal α :=
  if a.isEmpty then .error .empty
  else
    match a.text?.bind choose with
    | some v => .ok v
    | none => .error .noChoice

/-- The option that keeps its value by `set`. -/
def valued (name placeholder : String) (read : Argument → Except Refusal α) (set : α → σ → σ)
    (choices : List String) : OptionSpec σ where
  name := name
  kind := .valued {
    label := "--" ++ name ++ " <" ++ placeholder ++ ">"
    choices := choices
    accept := fun values a => (read a).map fun v => set v values }

/-- The option that is given or not. -/
def switch (name : String) (set : σ → σ) : OptionSpec σ :=
  ⟨name, .switch set⟩

/-- The plain argument that is kept by `set`. -/
def operandText (placeholder : String) (set : String → σ → σ) : Slot σ where
  label := "<" ++ placeholder ++ ">"
  accept := fun values a => (textValue a).map fun v => set v values

end TreeExplorer.Usage
