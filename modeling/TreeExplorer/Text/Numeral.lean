/-
Whole numbers in decimal: writing them, and reading them with the cause of a
refusal. Digits are ASCII; a sign may stand in front.
-/

namespace TreeExplorer.Text

/-- The character of a digit below ten. -/
def digitChar (d : Nat) : Char :=
  Char.ofNat (48 + d % 10)

/-- The digits of a number in front of `acc`; `fuel` bounds their count. -/
def decimalLoop : Nat → Nat → List Char → List Char
  | 0, _, acc => acc
  | fuel + 1, n, acc =>
    if n < 10 then digitChar n :: acc else decimalLoop fuel (n / 10) (digitChar n :: acc)

/-- The decimal digits of a number, without leading zeros. -/
def decimalList (n : Nat) : List Char :=
  decimalLoop (n + 1) n []

/-- A number in decimal. -/
def decimal (n : Nat) : String :=
  String.ofList (decimalList n)

/-- A whole number in decimal, with `-` in front of a negative one. -/
def decimalInt (i : Int) : String :=
  if i < 0 then "-" ++ decimal i.natAbs else decimal i.natAbs

/-- The value of an ASCII digit. -/
def digit? (c : Char) : Option Nat :=
  if '0' ≤ c ∧ c ≤ '9' then some (c.toNat - 48) else none

/-- Whether a character is a decimal digit. -/
def isDigit (c : Char) : Bool :=
  (digit? c).isSome

/-- Why a text is no number of the asked range. -/
inductive NumberFault where
  | empty
  | badDigit
  | tooLarge
  | tooSmall
  deriving DecidableEq, Repr

/-- The wording of a refusal. -/
def NumberFault.message : NumberFault → String
  | .empty => "cannot parse integer from empty string"
  | .badDigit => "invalid digit found in string"
  | .tooLarge => "number too large to fit in target type"
  | .tooSmall => "number too small to fit in target type"

/-- Reads digits after the value `acc`, stopping at the first one that leaves
`0` to `limit`. -/
def readDigits (limit : Nat) (overflow : NumberFault) : Nat → List Char → Except NumberFault Nat
  | acc, [] => .ok acc
  | acc, c :: cs =>
    match digit? c with
    | none => .error .badDigit
    | some d =>
      if acc * 10 + d ≤ limit then readDigits limit overflow (acc * 10 + d) cs
      else .error overflow

/-- Reads digits of which there must be one. -/
def readMagnitude (limit : Nat) (overflow : NumberFault) : List Char → Except NumberFault Nat
  | [] => .error .badDigit
  | c :: cs => readDigits limit overflow 0 (c :: cs)

/-- Reads a number from `0` to `limit`; `+` may stand in front. -/
def readNat (limit : Nat) : List Char → Except NumberFault Nat
  | [] => .error .empty
  | '+' :: cs => readMagnitude limit .tooLarge cs
  | cs => readDigits limit .tooLarge 0 cs

/-- Reads a whole number from `-limit - 1` to `limit`; a sign may stand in
front. -/
def readInt (limit : Nat) : List Char → Except NumberFault Int
  | [] => .error .empty
  | '+' :: cs => (readMagnitude limit .tooLarge cs).map Int.ofNat
  | '-' :: cs => (readMagnitude (limit + 1) .tooSmall cs).map fun n => -(Int.ofNat n)
  | cs => (readDigits limit .tooLarge 0 cs).map Int.ofNat

end TreeExplorer.Text
