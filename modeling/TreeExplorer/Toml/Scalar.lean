/-
Single values of a TOML document that are not in quotes: truth values, numbers,
dates and times.
-/
import TreeExplorer.Json.Basic
import TreeExplorer.Toml.Rules

namespace TreeExplorer.Toml

/-- The largest whole number of a document. -/
def maxInteger : Nat := 9223372036854775807

/-- The value of a digit in a base up to sixteen. -/
def digitIn (base : Nat) (c : Char) : Option Nat :=
  let v :=
    if '0' ≤ c ∧ c ≤ '9' then c.toNat - 48
    else if 'a' ≤ c ∧ c ≤ 'f' then c.toNat - 87
    else if 'A' ≤ c ∧ c ≤ 'F' then c.toNat - 55
    else base
  if v < base then some v else none

/-- Drops underscores, each of which must stand between two digits. `before` says
whether a digit has just been read. -/
def dropUnderscores (digit : Char → Bool) : Bool → List Char → Option (List Char)
  | _, [] => some []
  | before, '_' :: cs =>
    match cs with
    | c :: _ => if before && digit c then dropUnderscores digit false cs else none
    | [] => none
  | _, c :: cs => (dropUnderscores digit (digit c) cs).map (c :: ·)

/-- Reads digits in a base. -/
def readBase (base : Nat) (cs : List Char) : Option Nat :=
  match cs with
  | [] => none
  | cs => cs.foldl (fun acc c => acc.bind fun n => (digitIn base c).map fun d => n * base + d) (some 0)

/-- A number in another base than ten. -/
def basedInteger (base : Nat) (cs : List Char) : Option Json :=
  (dropUnderscores (fun c => (digitIn base c).isSome) false cs).bind fun ds =>
    (readBase base ds).bind fun n => if n ≤ maxInteger then some (.nat n) else none

/-- A number in base ten: a whole one, or a fraction that is in range. -/
def decimalNumber (cs : List Char) : Option Json :=
  (dropUnderscores Text.isDigit false cs).bind fun ds =>
    let (negative, body) := Decimal.signed ds
    let whole := body.takeWhile Text.isDigit
    let tail := body.dropWhile Text.isDigit
    if !Decimal.isPlainWhole whole then none
    else if tail.isEmpty then
      match Text.readInt maxInteger (if negative then '-' :: whole else whole) with
      | .ok i => some (.int i)
      | .error _ => none
    else if Decimal.isFractionTail tail then
      ((Decimal.read ds).bind Decimal.rounded).map Json.fraction
    else none

/-- Reads a field of `n` digits with a value from `low` to `high`. -/
def digitField (n low high : Nat) (cs : List Char) : Option (Nat × List Char) :=
  let ds := cs.take n
  let value := ds.foldl (fun v c => v * 10 + (Text.digit? c).getD 0) 0
  if ds.length = n ∧ ds.all Text.isDigit ∧ low ≤ value ∧ value ≤ high then some (value, cs.drop n)
  else none

/-- Drops a character that has to be there. -/
def expect (c : Char) : List Char → Option (List Char)
  | [] => none
  | d :: cs => if d = c then some cs else none

/-- How many days a month has. -/
def daysIn (year month : Nat) : Nat :=
  if month = 2 then
    if year % 4 = 0 ∧ (year % 100 ≠ 0 ∨ year % 400 = 0) then 29 else 28
  else if month = 4 ∨ month = 6 ∨ month = 9 ∨ month = 11 then 30
  else 31

/-- Reads a date. -/
def dateRest (cs : List Char) : Option (List Char) := do
  let (year, cs) ← digitField 4 0 9999 cs
  let (month, cs) ← digitField 2 1 12 (← expect '-' cs)
  let (_, cs) ← digitField 2 1 (daysIn year month) (← expect '-' cs)
  return cs

/-- Reads the seconds of a time, and parts of a second. -/
def secondsRest (cs : List Char) : Option (List Char) := do
  let (_, cs) ← digitField 2 0 60 cs
  match cs with
  | '.' :: rest =>
    if (rest.takeWhile Text.isDigit).isEmpty then none else some (rest.dropWhile Text.isDigit)
  | rest => some rest

/-- Reads hours and minutes. -/
def clockRest (cs : List Char) : Option (List Char) := do
  let (_, cs) ← digitField 2 0 23 cs
  let (_, cs) ← digitField 2 0 59 (← expect ':' cs)
  return cs

/-- Reads a time of day. -/
def timeRest (rules : Rules) (cs : List Char) : Option (List Char) := do
  match ← clockRest cs with
  | ':' :: rest => secondsRest rest
  | rest => if rules.additions then some rest else none

/-- Whether the characters give the distance from universal time, or nothing. -/
def isOffset : List Char → Bool
  | [] | ['Z'] | ['z'] => true
  | '+' :: cs | '-' :: cs =>
    clockRest cs == some []
  | _ => false

/-- Whether the characters are a date, a time, or both. -/
def isDateTime (rules : Rules) (cs : List Char) : Bool :=
  match dateRest cs with
  | some [] => true
  | some (c :: rest) =>
    (c = 'T' || c = 't' || c = ' ') && (timeRest rules rest).any isOffset
  | none => timeRest rules cs == some []

/-- The value of a word that is not in quotes. The words for numbers without a size,
and for what is no number, stand for no value. -/
def scalar (rules : Rules) (cs : List Char) : Option Json :=
  match String.ofList cs with
  | "true" => some (.bool true)
  | "false" => some (.bool false)
  | "inf" | "+inf" | "-inf" | "nan" | "+nan" | "-nan" => some .null
  | text =>
    match cs with
    | '0' :: 'x' :: ds => basedInteger 16 ds
    | '0' :: 'o' :: ds => basedInteger 8 ds
    | '0' :: 'b' :: ds => basedInteger 2 ds
    | cs =>
      if isDateTime rules cs then some (.obj [("$__toml_private_datetime", .str text)])
      else decimalNumber cs

end TreeExplorer.Toml
