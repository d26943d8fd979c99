/-
Values of JSON and their compact text: no blanks, fields in the order given,
only what has to be escaped escaped.
-/
import TreeExplorer.Decimal
import TreeExplorer.Text.Quoted

namespace TreeExplorer

/-- A JSON value. Whole numbers and fractions are kept apart. -/
inductive Json where
  | null
  | bool (b : Bool)
  | int (i : Int)
  | fraction (d : Decimal)
  | str (s : String)
  | arr (items : List Json)
  | obj (fields : List (String × Json))
  deriving Repr

instance : Inhabited Json := ⟨.null⟩

namespace Json

/-- A whole number that is not negative. -/
def nat (n : Nat) : Json :=
  .int n

/-- A fraction as a value; one that is out of range is no value. -/
def ofDecimal (d : Decimal) : Json :=
  match d.rounded with
  | some r => .fraction r
  | none => .null

/-- The value of a field. -/
def field? (fields : List (String × Json)) (name : String) : Option Json :=
  fields.lookup name

/-- One character inside a string. Quotes, backslashes and controls are escaped;
everything else, from whatever script, stands for itself. -/
def escapeChar (c : Char) : List Char :=
  if c = '"' then ['\\', '"']
  else if c = '\\' then ['\\', '\\']
  else if c.toNat = 0x08 then ['\\', 'b']
  else if c = '\t' then ['\\', 't']
  else if c = '\n' then ['\\', 'n']
  else if c.toNat = 0x0C then ['\\', 'f']
  else if c = '\r' then ['\\', 'r']
  else if c.toNat < 0x20 then
    ['\\', 'u', '0', '0', Text.hexChar (c.toNat / 16), Text.hexChar (c.toNat % 16)]
  else [c]

/-- A string in quotes. -/
def quote (s : String) : List Char :=
  '"' :: s.toList.flatMap escapeChar ++ ['"']

mutual

/-- The characters of a value's text. -/
def chars : Json → List Char
  | null => ['n', 'u', 'l', 'l']
  | bool true => ['t', 'r', 'u', 'e']
  | bool false => ['f', 'a', 'l', 's', 'e']
  | int i => (Text.decimalInt i).toList
  | fraction d => d.text.toList
  | str s => quote s
  | arr items => '[' :: itemChars items ++ [']']
  | obj fields => '{' :: fieldChars fields ++ ['}']

/-- The characters of the items of an array, commas between them. -/
def itemChars : List Json → List Char
  | [] => []
  | [v] => chars v
  | v :: rest => chars v ++ ',' :: itemChars rest

/-- The characters of the fields of an object, commas between them. -/
def fieldChars : List (String × Json) → List Char
  | [] => []
  | [(k, v)] => quote k ++ ':' :: chars v
  | (k, v) :: rest => quote k ++ ':' :: chars v ++ ',' :: fieldChars rest

end

/-- The compact text of a value. -/
def text (v : Json) : String :=
  String.ofList v.chars

end Json

end TreeExplorer
