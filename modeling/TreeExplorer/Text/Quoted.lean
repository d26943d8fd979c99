/-
A text in double quotes with escapes, as it is shown where its extent must be
visible: kinds of anonymous nodes, values in messages. Hidden characters are
escaped by number.
-/
import TreeExplorer.Text.Hidden

namespace TreeExplorer.Text

/-- A digit of a number below sixteen, in lower case. -/
def hexChar (d : Nat) : Char :=
  if d < 10 then Char.ofNat (48 + d) else Char.ofNat (87 + d)

/-- The hexadecimal digits of a number in front of `acc`; `fuel` bounds their
count. -/
def hexLoop : Nat → Nat → List Char → List Char
  | 0, _, acc => acc
  | fuel + 1, n, acc =>
    if n < 16 then hexChar n :: acc else hexLoop fuel (n / 16) (hexChar (n % 16) :: acc)

/-- The hexadecimal digits of a number, without leading zeros. -/
def hexList (n : Nat) : List Char :=
  hexLoop (n + 1) n []

/-- One character inside quotes. -/
def quoteChar (c : Char) : List Char :=
  if c = '"' then ['\\', '"']
  else if c = '\\' then ['\\', '\\']
  else if c = '\n' then ['\\', 'n']
  else if c = '\r' then ['\\', 'r']
  else if c = '\t' then ['\\', 't']
  else if c.toNat = 0 then ['\\', '0']
  else if isHidden c then ['\\', 'u', '{'] ++ hexList c.toNat ++ ['}']
  else [c]

/-- A text in quotes. -/
def quoted (s : String) : String :=
  String.ofList ('"' :: s.toList.flatMap quoteChar ++ ['"'])

end TreeExplorer.Text
