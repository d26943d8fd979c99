/-
The rules that a TOML document is read by: which version of the format is
understood, and how deep a document may go.
-/

namespace TreeExplorer.Toml

/-- The rules of reading. -/
structure Rules where
  /-- Whether the additions of version 1.1 are understood: tables in line over
  several lines and with a comma at the end, two more escapes, and times without
  seconds. -/
  additions : Bool
  /-- How deep arrays and tables in line may be nested. -/
  maxNesting : Nat
  /-- How many parts a key may have. -/
  maxKeyParts : Option Nat
  deriving DecidableEq, Repr

namespace Rules

/-- Version 1.0. -/
def basic : Rules := ⟨false, 79, some 79⟩

/-- Version 1.1, with keys of any length. -/
def extended : Rules := ⟨true, 80, none⟩

/-- Version 1.1, with keys of a limited length. -/
def extendedLimited : Rules := { extended with maxKeyParts := some 80 }

/-- Whether a key of so many parts is within the limit. -/
def allowsKey (rules : Rules) (parts : Nat) : Bool :=
  rules.maxKeyParts.all fun limit => decide (parts ≤ limit)

end Rules

end TreeExplorer.Toml
