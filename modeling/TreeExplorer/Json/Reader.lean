/-
Reading JSON texts. A text is one value with blanks around it. Numbers with a
point or an exponent are fractions, and so is a zero with a sign; all others are
whole.
-/
import TreeExplorer.Json.Merge
import TreeExplorer.Text.Escape

namespace TreeExplorer.Json

/-- Whether a character is a blank of JSON. -/
def isBlank (c : Char) : Bool :=
  c = ' ' || c = '\t' || c = '\n' || c = '\r'

/-- Drops blanks at the front. -/
def skipBlanks (cs : List Char) : List Char :=
  cs.dropWhile isBlank

/-- The character of two halves of a pair. -/
def ofPair (high low : Nat) : Option Char :=
  if 0xD800 ≤ high ∧ high < 0xDC00 ∧ 0xDC00 ≤ low ∧ low < 0xE000 then
    Text.scalar? (0x10000 + (high - 0xD800) * 0x400 + (low - 0xDC00))
  else none

/-- Reads the number of a character after its four digits have been read; the
first half of a pair needs the second. -/
def numbered (n : Nat) (cs : List Char) : Option (Char × List Char) :=
  match Text.scalar? n, cs with
  | some c, cs => some (c, cs)
  | none, '\\' :: 'u' :: cs =>
    (Text.hexDigits 4 0 cs).bind fun r => (ofPair n r.1).map fun c => (c, r.2)
  | none, _ => none

/-- Reads what follows a backslash. -/
def escaped : List Char → Option (Char × List Char)
  | [] => none
  | 'u' :: cs => (Text.hexDigits 4 0 cs).bind fun r => numbered r.1 r.2
  | '/' :: cs => some ('/', cs)
  | c :: cs => (Text.simpleEscape c).map fun x => (x, cs)

/-- Reads the inside of a string, after `acc`, up to the closing quote; each step
of `fuel` takes at least one character. -/
def stringRest : Nat → List Char → List Char → Option (String × List Char)
  | 0, _, _ => none
  | _ + 1, _, [] => none
  | fuel + 1, acc, c :: cs =>
    if c = '"' then some (String.ofList acc.reverse, cs)
    else if c = '\\' then (escaped cs).bind fun r => stringRest fuel (r.1 :: acc) r.2
    else if c.toNat < 0x20 then none
    else stringRest fuel (c :: acc) cs

/-- Whether a character may stand in a number. -/
def inNumber (c : Char) : Bool :=
  Text.isDigit c || c = '-' || c = '+' || c = '.' || c = 'e' || c = 'E'

/-- The number that the characters are. -/
def number? (cs : List Char) : Option Json :=
  let (negative, body) :=
    match cs with
    | '-' :: rest => (true, rest)
    | rest => (false, rest)
  let whole := body.takeWhile Text.isDigit
  let tail := body.dropWhile Text.isDigit
  if !Decimal.isPlainWhole whole then none
  else if tail.isEmpty then
    let n := (Decimal.digitRun whole).1
    if negative then some (if n = 0 then .fraction ⟨true, 0, 0⟩ else .int (-(n : Int)))
    else some (.nat n)
  else if Decimal.isFractionTail tail then (Decimal.read cs).map Json.ofDecimal
  else none

/-- Takes a word from the front. -/
def eat (word cs : List Char) : Option (List Char) :=
  if word.isPrefixOf cs then some (cs.drop word.length) else none

mutual

/-- Reads a value that starts here; `fuel` bounds the nesting and the number of
items. -/
def value : Nat → List Char → Option (Json × List Char)
  | 0, _ => none
  | _ + 1, [] => none
  | fuel + 1, c :: cs =>
    if c = '"' then (stringRest (cs.length + 1) [] cs).map fun r => (.str r.1, r.2)
    else if c = '[' then
      match skipBlanks cs with
      | ']' :: rest => some (.arr [], rest)
      | rest => items fuel [] rest
    else if c = '{' then
      match skipBlanks cs with
      | '}' :: rest => some (.obj [], rest)
      | rest => members fuel [] rest
    else if c = 'n' then (eat ['u', 'l', 'l'] cs).map fun r => (.null, r)
    else if c = 't' then (eat ['r', 'u', 'e'] cs).map fun r => (.bool true, r)
    else if c = 'f' then (eat ['a', 'l', 's', 'e'] cs).map fun r => (.bool false, r)
    else
      (number? ((c :: cs).takeWhile inNumber)).map fun v => (v, (c :: cs).dropWhile inNumber)

/-- Reads the items of an array after those in `acc`. -/
def items : Nat → List Json → List Char → Option (Json × List Char)
  | 0, _, _ => none
  | fuel + 1, acc, cs =>
    match value fuel cs with
    | none => none
    | some (v, rest) =>
      match skipBlanks rest with
      | ',' :: rest => items fuel (v :: acc) (skipBlanks rest)
      | ']' :: rest => some (.arr (v :: acc).reverse, rest)
      | _ => none

/-- Reads the fields of an object after those in `acc`. -/
def members : Nat → List (String × Json) → List Char → Option (Json × List Char)
  | 0, _, _ => none
  | fuel + 1, acc, cs =>
    match cs with
    | '"' :: cs =>
      match stringRest (cs.length + 1) [] cs with
      | none => none
      | some (k, rest) =>
        match skipBlanks rest with
        | ':' :: rest =>
          match value fuel (skipBlanks rest) with
          | none => none
          | some (v, rest) =>
            match skipBlanks rest with
            | ',' :: rest => members fuel ((k, v) :: acc) (skipBlanks rest)
            | '}' :: rest => some (.obj ((k, v) :: acc).reverse, rest)
            | _ => none
        | _ => none
    | _ => none

end

mutual

/-- A value as it is kept where whole numbers have 64 bits: a larger one is a
fraction, and of two fields with one name the last counts. -/
def settled : Json → Json
  | .int i =>
    if -9223372036854775808 ≤ i ∧ i ≤ 18446744073709551615 then .int i
    else .ofDecimal ⟨decide (i < 0), i.natAbs, 0⟩
  | .arr items => .arr (settledItems items)
  | .obj fields => .obj (settledFields [] fields)
  | v => v

/-- The items of an array, each settled. -/
def settledItems : List Json → List Json
  | [] => []
  | v :: rest => settled v :: settledItems rest

/-- The fields of an object, each settled, after those in `acc`. -/
def settledFields (acc : List (String × Json)) : List (String × Json) → List (String × Json)
  | [] => acc
  | (k, v) :: rest => settledFields (put k (settled v) acc) rest

end

/-- The value that a text is. -/
def parse (text : String) : Option Json :=
  let cs := skipBlanks text.toList
  match value (cs.length + 1) cs with
  | some (v, rest) => if (skipBlanks rest).isEmpty then some v else none
  | none => none

end TreeExplorer.Json
