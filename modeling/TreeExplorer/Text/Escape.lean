/-
Escapes inside quoted texts: letters after a backslash, and characters given by
their number in hexadecimal.
-/

namespace TreeExplorer.Text

/-- The value of a hexadecimal digit. -/
def hexDigit? (c : Char) : Option Nat :=
  if '0' ≤ c ∧ c ≤ '9' then some (c.toNat - 48)
  else if 'a' ≤ c ∧ c ≤ 'f' then some (c.toNat - 87)
  else if 'A' ≤ c ∧ c ≤ 'F' then some (c.toNat - 55)
  else none

/-- Reads `n` hexadecimal digits after the value `acc`. -/
def hexDigits : Nat → Nat → List Char → Option (Nat × List Char)
  | 0, acc, cs => some (acc, cs)
  | _ + 1, _, [] => none
  | n + 1, acc, c :: cs => (hexDigit? c).bind fun d => hexDigits n (acc * 16 + d) cs

/-- The character that a letter after a backslash stands for. -/
def simpleEscape (c : Char) : Option Char :=
  if c = '"' || c = '\\' then some c
  else if c = 'b' then some (Char.ofNat 0x08)
  else if c = 't' then some '\t'
  else if c = 'n' then some '\n'
  else if c = 'f' then some (Char.ofNat 0x0C)
  else if c = 'r' then some '\r'
  else none

/-- The character of a number, if it has one. -/
def scalar? (n : Nat) : Option Char :=
  if n < 0xD800 ∨ (0xDFFF < n ∧ n < 0x110000) then some (Char.ofNat n) else none

/-- Reads what follows a backslash. -/
def escape : List Char → Option (Char × List Char)
  | [] => none
  | 'u' :: cs => (hexDigits 4 0 cs).bind fun r => (scalar? r.1).map fun c => (c, r.2)
  | 'U' :: cs => (hexDigits 8 0 cs).bind fun r => (scalar? r.1).map fun c => (c, r.2)
  | c :: cs => (simpleEscape c).map fun x => (x, cs)

end TreeExplorer.Text
