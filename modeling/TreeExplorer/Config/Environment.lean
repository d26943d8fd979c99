/-
Configuration in environment variables. A name leads to a field, or with dots or
double underscores to a field of a field. A value with a comma is a list of
texts; apart from that a value is a truth value, a number, a quoted text, a list
in brackets or a map in braces where it can be read as one, and a plain text
otherwise.
-/
import TreeExplorer.Json.Merge
import TreeExplorer.Text.Ascii
import TreeExplorer.Text.Blank
import TreeExplorer.Text.Cut
import TreeExplorer.Text.Escape
import TreeExplorer.Text.Utf8

namespace TreeExplorer

/-- The variables of the environment. -/
abbrev Variables := List (String × String)

namespace Config.Environment

/-! ## Values -/

/-- The blanks of ASCII. -/
def isSpace (c : Char) : Bool :=
  c = ' ' || c = '\t' || c = '\n' || c = '\r' || c.toNat = 0x0C

/-- Drops blanks at the front. -/
def skipSpace (cs : List Char) : List Char :=
  cs.dropWhile isSpace

/-- The characters that end a plain value. -/
def isSeparator (c : Char) : Bool :=
  c = ',' || c = '{' || c = '}' || c = '[' || c = ']'

/-- The characters of a key without quotes. -/
def isKeyChar (c : Char) : Bool :=
  c.isAlphanum || c = '_' || c = '-'

/-- Takes a word from the front, whatever its ASCII case. -/
def eatWord : List Char → List Char → Option (List Char)
  | [], cs => some cs
  | _ :: _, [] => none
  | w :: ws, c :: cs => if Text.lowerChar c = w then eatWord ws cs else none

/-- The largest number of 64 bits. -/
def maxLong : Nat := 18446744073709551615

/-- A plain value: a fraction if it has a point, a whole number, or a text. -/
def plain (cs : List Char) : Json :=
  let text := Text.trimList cs
  match if text.contains '.' then Decimal.read text else none with
  | some d => .ofDecimal d
  | none =>
    match Text.readNat maxLong text with
    | .ok n => .nat n
    | .error _ =>
      match Text.readInt (maxLong / 2) text with
      | .ok i => .int i
      | .error _ => .str (String.ofList text)

/-- The inside of a quoted text as it stands, after `acc`, and what follows the
closing quote. A quote after a backslash does not close. -/
def quotedSpan : List Char → List Char → Option (List Char × List Char)
  | _, [] => none
  | acc, '"' :: cs => some (acc.reverse, cs)
  | acc, '\\' :: c :: cs => quotedSpan (c :: '\\' :: acc) cs
  | acc, c :: cs => quotedSpan (c :: acc) cs

/-- Whether a character may not stand in a quoted text as it is. -/
def isControl (c : Char) : Bool :=
  (c.toNat < 0x20 && c != '\t') || c.toNat = 0x7F

/-- Reads escapes and the characters around them, after `acc`; each step of `fuel`
takes at least one character. -/
def unescape : Nat → List Char → List Char → Option (List Char)
  | 0, _, _ => none
  | _ + 1, acc, [] => some acc.reverse
  | fuel + 1, acc, '\\' :: cs => (Text.escape cs).bind fun r => unescape fuel (r.1 :: acc) r.2
  | fuel + 1, acc, c :: cs => if isControl c then none else unescape fuel (c :: acc) cs

/-- The text that stands in quotes. Of what comes before the first escape only as
many bytes are kept as it has characters. -/
def quotedText (cs : List Char) : Option (List Char) :=
  let plain := cs.takeWhile (· != '\\')
  if plain.any isControl then none
  else
    match cs.dropWhile (· != '\\') with
    | [] => some plain
    | rest => do
      let kept ← Text.takeBytes plain plain.length
      return kept ++ (← unescape (rest.length + 1) [] rest)

/-- Reads a text in quotes, after the opening one. -/
def quotedRest (cs : List Char) : Option (String × List Char) := do
  let (inner, rest) ← quotedSpan [] cs
  return (String.ofList (← quotedText inner), rest)

/-- Reads the key of an entry. -/
def key : List Char → Option (String × List Char)
  | '"' :: rest => quotedRest rest
  | cs =>
    match cs.takeWhile isKeyChar with
    | [] => none
    | k => some (String.ofList k, cs.dropWhile isKeyChar)

mutual

/-- Reads a value and the blanks around it; `fuel` bounds the nesting. -/
def value : Nat → List Char → Option (Json × List Char)
  | 0, _ => none
  | fuel + 1, cs =>
    let cs := skipSpace cs
    let found : Option (Json × List Char) :=
      match eatWord ['t', 'r', 'u', 'e'] cs, eatWord ['f', 'a', 'l', 's', 'e'] cs with
      | some rest, _ => some (.bool true, rest)
      | none, some rest => some (.bool false, rest)
      | none, none =>
        match cs with
        | '{' :: rest => map fuel [] rest
        | '[' :: rest => items fuel [] rest
        | '"' :: rest => (quotedRest rest).map fun r => (.str r.1, r.2)
        | '\'' :: c :: '\'' :: rest => some (.str (String.ofList [c]), rest)
        | '\'' :: _ => none
        | cs =>
          some (plain (cs.takeWhile (!isSeparator ·)), cs.dropWhile (!isSeparator ·))
    found.map fun r => (r.1, skipSpace r.2)

/-- Reads the items of a list after those in `acc`. A bracket closes the list right
behind the opening one or a comma. -/
def items : Nat → List Json → List Char → Option (Json × List Char)
  | 0, _, _ => none
  | fuel + 1, acc, cs =>
    match cs with
    | ']' :: rest => some (.arr acc.reverse, rest)
    | cs =>
      match value fuel cs with
      | some (v, ',' :: rest) => items fuel (v :: acc) rest
      | some (v, ']' :: rest) => some (.arr (v :: acc).reverse, rest)
      | _ => none

/-- Reads the entries of a map after those in `acc`. A brace closes the map right
behind the opening one or a comma. Of two entries with one key the last counts. -/
def map : Nat → List (String × Json) → List Char → Option (Json × List Char)
  | 0, _, _ => none
  | fuel + 1, acc, cs =>
    match cs with
    | '}' :: rest => some (.obj acc, rest)
    | cs =>
      match key (skipSpace cs) with
      | some (k, rest) =>
        match skipSpace rest with
        | '=' :: rest =>
          match value fuel rest with
          | some (v, ',' :: rest) => map fuel (Json.put k v acc) rest
          | some (v, '}' :: rest) => some (.obj (Json.put k v acc), rest)
          | _ => none
        | _ => none
      | none => none

end

/-- Whether a value with a comma is a list of texts: it does not open a bracket or
a quote. -/
def opensGroup : List Char → Bool
  | c :: _ => c = '[' || c = '{' || c = '"' || c = '\''
  | [] => false

/-- The value of an environment variable. -/
def read (raw : String) : Json :=
  let cs := Text.trimList raw.toList
  if cs.contains ',' && !opensGroup cs then
    .arr ((Text.cut (· == ',') cs).map fun p => .str (String.ofList (Text.trimList p)))
  else
    match value (cs.length + 2) cs with
    | some (v, []) => v
    | _ => .str (String.ofList cs)

/-! ## Names -/

/-- What stands in front of the names of this program's variables, in lower
case. -/
def nameStart : List Char := "sylvan_".toList

/-- Puts a dot in place of two underscores. -/
def undouble : List Char → List Char
  | '_' :: '_' :: cs => '.' :: undouble cs
  | c :: cs => c :: undouble cs
  | [] => []

/-- The way that the name of a variable leads to its field, if it is one of this
program's. -/
def fieldPath (name : String) : Option (List String) :=
  (eatWord nameStart (Text.trimList name.toList)).bind fun rest =>
    let parts := Text.cut (· == '.') (Text.trimList (undouble rest))
    if parts.any List.isEmpty then none
    else some (parts.map fun p => Text.lower (String.ofList p))

/-- A value inside fields of fields. -/
def nested (value : Json) : List String → Json
  | [] => value
  | name :: rest => .obj [(name, nested value rest)]

/-- The fields that variables set. Of two variables for one field the last
counts. -/
def fields (environment : Variables) : List (String × Json) :=
  environment.foldl
    (fun fs v =>
      match fieldPath v.1 with
      | some (name :: rest) => Json.put name (nested (read v.2) rest) fs
      | _ => fs)
    []

end Config.Environment

end TreeExplorer
