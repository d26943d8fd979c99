/-
Reading TOML documents: lines with keys and values, headers of tables, comments.
A text is read as a whole or not at all.
-/
import TreeExplorer.Text.Escape
import TreeExplorer.Toml.Document
import TreeExplorer.Toml.Scalar

namespace TreeExplorer.Toml

/-- Drops spaces and tabs at the front. -/
def skipBlanks (cs : List Char) : List Char :=
  cs.dropWhile fun c => c = ' ' || c = '\t'

/-- Whether a character may not stand in a document as it is. -/
def isControl (c : Char) : Bool :=
  (c.toNat < 0x20 && c != '\t') || c.toNat = 0x7F

/-- Reads the end of a line. -/
def newline : List Char → Option (List Char)
  | '\n' :: cs => some cs
  | '\r' :: '\n' :: cs => some cs
  | _ => none

/-- Drops the characters of a comment. A control character in it is refused. -/
def commentRest : List Char → Option (List Char)
  | [] => some []
  | '\n' :: cs => some ('\n' :: cs)
  | '\r' :: '\n' :: cs => some ('\r' :: '\n' :: cs)
  | c :: cs => if isControl c then none else commentRest cs

/-- Drops a comment, if one starts here. -/
def skipComment : List Char → Option (List Char)
  | '#' :: cs => commentRest cs
  | cs => some cs

/-- Reads blanks and a comment up to the end of a line or of the text. -/
def lineEnd (cs : List Char) : Option (List Char) :=
  (skipComment (skipBlanks cs)).bind fun rest =>
    match rest with
    | [] => some []
    | rest => newline rest

/-- Drops blanks, comments and line ends; `fuel` bounds the number of lines. -/
def skipLines : Nat → List Char → Option (List Char)
  | 0, _ => none
  | fuel + 1, cs =>
    (skipComment (skipBlanks cs)).bind fun rest =>
      match newline rest with
      | some next => skipLines fuel next
      | none => some rest

/-! ## Texts in quotes -/

/-- Reads what follows a backslash. -/
def escape (rules : Rules) (cs : List Char) : Option (Char × List Char) :=
  match rules.additions, cs with
  | true, 'e' :: cs => some (Char.ofNat 0x1B, cs)
  | true, 'x' :: cs =>
    (Text.hexDigits 2 0 cs).bind fun r => (Text.scalar? r.1).map fun c => (c, r.2)
  | _, cs => Text.escape cs

/-- Reads the inside of a text in double quotes on one line. -/
def basicRest (rules : Rules) : Nat → List Char → List Char → Option (String × List Char)
  | 0, _, _ => none
  | _ + 1, _, [] => none
  | _ + 1, acc, '"' :: cs => some (String.ofList acc.reverse, cs)
  | fuel + 1, acc, '\\' :: cs =>
    (escape rules cs).bind fun r => basicRest rules fuel (r.1 :: acc) r.2
  | fuel + 1, acc, c :: cs => if isControl c then none else basicRest rules fuel (c :: acc) cs

/-- Reads the inside of a text in single quotes on one line. -/
def literalRest : List Char → List Char → Option (String × List Char)
  | _, [] => none
  | acc, '\'' :: cs => some (String.ofList acc.reverse, cs)
  | acc, c :: cs => if isControl c then none else literalRest (c :: acc) cs

/-- The quotes that stand in a row, and what follows them. -/
def quoteRun (quote : Char) (cs : List Char) : Nat × List Char :=
  ((cs.takeWhile (· == quote)).length, cs.dropWhile (· == quote))

/-- Drops blanks and line ends. -/
def skipFolded : List Char → List Char
  | ' ' :: cs | '\t' :: cs | '\n' :: cs | '\r' :: '\n' :: cs => skipFolded cs
  | cs => cs

/-- What follows a backslash that ends its line, blanks and further line ends
dropped. -/
def folded (cs : List Char) : Option (List Char) :=
  (newline (skipBlanks cs)).map skipFolded

/-- Reads the inside of a text in three quotes. Up to two quotes right before the
closing three belong to the text. -/
def longRest (rules : Rules) (quote : Char) : Nat → List Char → List Char → Option (String × List Char)
  | 0, _, _ => none
  | _ + 1, _, [] => none
  | fuel + 1, acc, c :: cs =>
    if c = quote then
      let (n, rest) := quoteRun quote (c :: cs)
      if n < 3 then longRest rules quote fuel (List.replicate n quote ++ acc) rest
      else if n ≤ 5 then
        some (String.ofList (List.replicate (n - 3) quote ++ acc).reverse, rest)
      else none
    else if c = '\\' && quote = '"' then
      match folded cs with
      | some rest => longRest rules quote fuel acc rest
      | none => (escape rules cs).bind fun r => longRest rules quote fuel (r.1 :: acc) r.2
    else
      match newline (c :: cs) with
      | some rest => longRest rules quote fuel ('\n' :: acc) rest
      | none => if isControl c then none else longRest rules quote fuel (c :: acc) cs

/-- Drops one line end at the front. -/
def dropNewline (cs : List Char) : List Char :=
  (newline cs).getD cs

/-- Reads a text in quotes of any kind. -/
def quotedText (rules : Rules) : List Char → Option (String × List Char)
  | '"' :: '"' :: '"' :: cs => longRest rules '"' (cs.length + 1) [] (dropNewline cs)
  | '\'' :: '\'' :: '\'' :: cs => longRest rules '\'' (cs.length + 1) [] (dropNewline cs)
  | '"' :: cs => basicRest rules (cs.length + 1) [] cs
  | '\'' :: cs => literalRest [] cs
  | _ => none

/-! ## Keys -/

/-- The characters of a key without quotes. -/
def isBare (c : Char) : Bool :=
  c.isAlphanum || c = '_' || c = '-'

/-- Reads one part of a key. -/
def keyPart (rules : Rules) : List Char → Option (String × List Char)
  | '"' :: cs => basicRest rules (cs.length + 1) [] cs
  | '\'' :: cs => literalRest [] cs
  | cs =>
    match cs.takeWhile isBare with
    | [] => none
    | k => some (String.ofList k, cs.dropWhile isBare)

/-- Reads the parts of a key, dots between them; `fuel` bounds their number. -/
def keyParts (rules : Rules) : Nat → List Char → Option (List String × List Char)
  | 0, _ => none
  | fuel + 1, cs =>
    (keyPart rules (skipBlanks cs)).bind fun r =>
      match skipBlanks r.2 with
      | '.' :: rest => (keyParts rules fuel rest).map fun k => (r.1 :: k.1, k.2)
      | rest => some ([r.1], rest)

/-- Reads a key. -/
def dottedKey (rules : Rules) (cs : List Char) : Option (List String × List Char) :=
  (keyParts rules (cs.length + 1) cs).filter fun k => rules.allowsKey k.1.length

/-! ## Values -/

/-- The characters that end a word without quotes. -/
def endsWord (c : Char) : Bool :=
  c = ',' || c = ']' || c = '}' || c = '#' || c = ' ' || c = '\t' || c = '\n' || c = '\r'

/-- Reads a word without quotes. A blank may stand between a date and a time. -/
def word (cs : List Char) : List Char × List Char :=
  let first := cs.takeWhile (!endsWord ·)
  match dateRest first, cs.dropWhile (!endsWord ·) with
  | some [], ' ' :: c :: rest =>
    if Text.isDigit c then
      (first ++ ' ' :: (c :: rest).takeWhile (!endsWord ·), (c :: rest).dropWhile (!endsWord ·))
    else (first, ' ' :: c :: rest)
  | _, rest => (first, rest)

/-- Drops what may stand around the entries of a table in line: blanks, and by the
rules of version 1.1 also comments and line ends. -/
def skipInline (rules : Rules) (cs : List Char) : Option (List Char) :=
  if rules.additions then skipLines (cs.length + 1) cs else some (skipBlanks cs)

mutual

/-- Reads a value; `fuel` bounds the number of steps, and `depth` is how much deeper
values may be nested. -/
def value (rules : Rules) : Nat → Nat → List Char → Option (Json × List Char)
  | 0, _, _ => none
  | _ + 1, _, [] => none
  | fuel + 1, depth, c :: cs =>
    if c = '"' || c = '\'' then (quotedText rules (c :: cs)).map fun r => (.str r.1, r.2)
    else if c = '[' then
      match depth with
      | 0 => none
      | depth + 1 => array rules fuel depth [] cs
    else if c = '{' then
      match depth, skipInline rules cs with
      | _ + 1, some ('}' :: rest) => some (.obj [], rest)
      | depth + 1, some rest => inlineTable rules fuel depth [] rest
      | _, _ => none
    else
      let w := word (c :: cs)
      (scalar rules w.1).map fun v => (v, w.2)

/-- Reads the items of an array after those in `acc`. -/
def array (rules : Rules) : Nat → Nat → List Json → List Char → Option (Json × List Char)
  | 0, _, _, _ => none
  | fuel + 1, depth, acc, cs =>
    (skipLines (cs.length + 1) cs).bind fun cs =>
      match cs with
      | ']' :: rest => some (.arr acc.reverse, rest)
      | cs =>
        (value rules fuel depth cs).bind fun r =>
          (skipLines (r.2.length + 1) r.2).bind fun rest =>
            match rest with
            | ',' :: rest => array rules fuel depth (r.1 :: acc) rest
            | ']' :: rest => some (.arr (r.1 :: acc).reverse, rest)
            | _ => none

/-- Reads the entries of a table in line after those in `acc`. -/
def inlineTable (rules : Rules) : Nat → Nat → Entries → List Char → Option (Json × List Char)
  | 0, _, _, _ => none
  | fuel + 1, depth, acc, cs =>
    (dottedKey rules cs).bind fun k =>
      match k.2 with
      | '=' :: rest =>
        (value rules fuel depth (skipBlanks rest)).bind fun r =>
          (assign r.1 k.1 acc).bind fun es =>
            (skipInline rules r.2).bind fun rest =>
              match rest with
              | ',' :: rest =>
                (skipInline rules rest).bind fun rest =>
                  match rules.additions, rest with
                  | true, '}' :: rest => some (.obj (entriesJson es), rest)
                  | _, rest => inlineTable rules fuel depth es rest
              | '}' :: rest => some (.obj (entriesJson es), rest)
              | _ => none
      | _ => none

end

/-! ## Documents -/

/-- Reads the rest of a header: a key and the closing brackets. -/
def headerRest (rules : Rules) (close : List Char) (cs : List Char) :
    Option (List String × List Char) :=
  (dottedKey rules cs).bind fun k =>
    if close.isPrefixOf k.2 then
      (lineEnd (k.2.drop close.length)).map fun rest => (k.1, rest)
    else none

/-- Reads a line that is not empty: the tables and the open one after it, and the
lines that follow. -/
def line (rules : Rules) (es : Entries) (current : List String) (cs : List Char) :
    Option (Entries × List String × List Char) :=
  match cs with
  | '[' :: '[' :: cs => do
    let (key, rest) ← headerRest rules [']', ']'] cs
    let es ← openListed key es
    return (es, key, rest)
  | '[' :: cs => do
    let (key, rest) ← headerRest rules [']'] cs
    let es ← openTable key es
    return (es, key, rest)
  | cs => do
    let (key, rest) ← dottedKey rules cs
    match rest with
    | '=' :: rest => do
      let (v, rest) ← value rules (cs.length + 1) rules.maxNesting (skipBlanks rest)
      let rest ← lineEnd rest
      let es ← within current (assign v key) es
      return (es, current, rest)
    | _ => none

/-- Reads lines; `fuel` bounds their number. -/
def lines (rules : Rules) : Nat → Entries → List String → List Char → Option Entries
  | 0, _, _, _ => none
  | fuel + 1, es, current, cs =>
    (skipLines (cs.length + 1) cs).bind fun cs =>
      match cs with
      | [] => some es
      | cs => (line rules es current cs).bind fun r => lines rules fuel r.1 r.2.1 r.2.2

/-- Drops a byte order mark. -/
def dropMark : List Char → List Char
  | c :: cs => if c.toNat = 0xFEFF then cs else c :: cs
  | [] => []

/-- The fields of a document, if the text is one by the rules. -/
def read (rules : Rules) (text : String) : Option (List (String × Json)) :=
  let cs := dropMark text.toList
  (lines rules (cs.length + 1) [] [] cs).map entriesJson

end TreeExplorer.Toml
