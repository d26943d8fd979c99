/-
Limits on the run of a query. Options name the limits a caller asks for; the
settings are what the engine is handed, with a value for every limit.
-/

namespace TreeExplorer.Query

/-- The limits a caller may ask for. -/
structure Options where
  /-- How many matches may be in progress at once. -/
  matchLimit : Option Nat := none
  /-- How deep below the root a match may start. -/
  maxStartDepth : Option Nat := none
  /-- The bytes that a match must touch. -/
  byteRange : Option (Nat × Nat) := none
  deriving DecidableEq, Repr

/-- The limits in force. -/
structure Settings where
  matchLimit : Nat
  maxStartDepth : Option Nat
  byteRange : Nat × Nat
  deriving DecidableEq, Repr

/-- The match limit that limits nothing. -/
def unlimitedMatches : Nat := 4294967295

/-- The byte range that leaves nothing out. -/
def everyByte : Nat × Nat := (0, 18446744073709551615)

/-- The settings that options ask for. What they leave open is unlimited. -/
def Options.settings (o : Options) : Settings where
  matchLimit := o.matchLimit.getD unlimitedMatches
  maxStartDepth := o.maxStartDepth
  byteRange := o.byteRange.getD everyByte

end TreeExplorer.Query
