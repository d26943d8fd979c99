/-
Patterns for the values of fields: regular expressions with groups, sets of
characters and repetitions. Only whether a text is a pattern matters here. A count
in braces cannot be written, because a brace ends the field.
-/
import TreeExplorer.Decimal
import TreeExplorer.Text.Alphanumeric
import TreeExplorer.Text.Ascii
import TreeExplorer.Text.Escape

namespace TreeExplorer.Log.Pattern

/-- Why a text cannot be used as a pattern. -/
inductive Fault where
  | malformed
  /-- The pattern asks where words begin or end. -/
  | wordBoundary
  deriving DecidableEq, Repr

/-- The wording of a refusal. -/
def Fault.message : Fault → String
  | .malformed => "error building NFA"
  | .wordBoundary =>
    "unsupported regex feature for DFAs: cannot build DFAs for regexes with Unicode word "
      ++ "boundaries; switch to ASCII word boundaries, or heuristically enable Unicode word "
      ++ "boundaries or use a different regex engine"

/-- What a backslash makes of the characters after it. -/
inductive Escaped where
  | char (c : Char)
  /-- One of a set of characters. -/
  | set
  /-- The start or the end of the text. -/
  | edge
  /-- The start or the end of a word, or neither. -/
  | wordEdge
  deriving DecidableEq, Repr

/-- Reads a character that is given by `n` hexadecimal digits. -/
def numbered (n : Nat) (cs : List Char) : Option (Escaped × List Char) :=
  (Text.hexDigits n 0 cs).bind fun r => (Text.scalar? r.1).map fun c => (.char c, r.2)

/-- The character that a letter after a backslash stands for. -/
def controlEscape (c : Char) : Option Char :=
  match c with
  | 'a' => some (Char.ofNat 0x07)
  | 'f' => some (Char.ofNat 0x0C)
  | 't' => some '\t'
  | 'n' => some '\n'
  | 'r' => some '\r'
  | 'v' => some (Char.ofNat 0x0B)
  | _ => none

/-- Reads what follows a backslash. -/
def escaped : List Char → Option (Escaped × List Char)
  | [] => none
  | 'x' :: cs => numbered 2 cs
  | 'u' :: cs => numbered 4 cs
  | 'U' :: cs => numbered 8 cs
  | 'p' :: c :: cs | 'P' :: c :: cs =>
    if "clmnpsz".toList.contains (Text.lowerChar c) then some (.set, cs) else none
  | c :: cs =>
    if "dswDSW".toList.contains c then some (.set, cs)
    else if c = 'A' || c = 'z' then some (.edge, cs)
    else if "bB<>".toList.contains c then some (.wordEdge, cs)
    else
      match controlEscape c with
      | some x => some (.char x, cs)
      | none => if c.toNat < 0x80 && !c.isAlphanum then some (.char c, cs) else none

/-! ## Sets of characters -/

/-- The names of sets in brackets and colons. -/
def setNames : List String :=
  ["alnum", "alpha", "ascii", "blank", "cntrl", "digit", "graph", "lower", "print", "punct", "space",
   "upper", "word", "xdigit"]

/-- Reads the rest of a named set, after the opening bracket. -/
def namedSet : List Char → Option (List Char)
  | ':' :: cs =>
    let cs := if cs.head? = some '^' then cs.drop 1 else cs
    match cs.dropWhile (· != ':') with
    | ':' :: ']' :: rest =>
      if setNames.contains (String.ofList (cs.takeWhile (· != ':'))) then some rest else none
    | _ => none
  | _ => none

/-- Drops what has a meaning of its own right behind the opening bracket of a set:
a caret, and then hyphens or a closing bracket. -/
def setStart (cs : List Char) : List Char :=
  let cs := if cs.head? = some '^' then cs.drop 1 else cs
  match cs with
  | '-' :: rest => rest.dropWhile (· == '-')
  | ']' :: rest => rest
  | cs => cs

/-- Reads one member of a set. -/
def setMember : List Char → Option (Escaped × List Char)
  | [] => none
  | '\\' :: cs => (escaped cs).filter fun r => r.1 != .edge && r.1 != .wordEdge
  | c :: cs => some (.char c, cs)

/-- Whether two members are the ends of a range. -/
def isRange : Escaped → Escaped → Bool
  | .char a, .char b => decide (a.toNat ≤ b.toNat)
  | _, _ => false

/-- Reads the inside of a set up to its closing bracket, inside `depth` further
sets; `fuel` bounds the number of members. -/
def setRest : Nat → Nat → List Char → Option (List Char)
  | 0, _, _ => none
  | fuel + 1, depth, cs =>
    match cs with
    | '[' :: rest =>
      match namedSet rest with
      | some rest => setRest fuel depth rest
      | none => setRest fuel (depth + 1) (setStart rest)
    | ']' :: rest =>
      match depth with
      | 0 => some rest
      | depth + 1 => setRest fuel depth rest
    | '&' :: '&' :: rest | '-' :: '-' :: rest | '~' :: '~' :: rest => setRest fuel depth rest
    | cs =>
      (setMember cs).bind fun first =>
        match first.2 with
        | '-' :: c :: rest =>
          if c = ']' || c = '-' then setRest fuel depth first.2
          else
            (setMember (c :: rest)).bind fun second =>
              if isRange first.1 second.1 then setRest fuel depth second.2 else none
        | rest => setRest fuel depth rest

/-! ## Groups -/

/-- Whether characters name a group. -/
def isGroupName : List Char → Bool
  | [] => false
  | c :: cs =>
    (c = '_' || (Text.isAlphanumeric c && !Text.isDigit c))
      && cs.all fun c => c = '_' || c = '.' || c = '[' || c = ']' || Text.isAlphanumeric c

/-- Whether characters are flags: each letter once, and a hyphen before those that
are turned off. -/
def areFlags (cs : List Char) : Bool :=
  cs.all (fun c => "imsUuRx-".toList.contains c) && decide cs.Nodup && cs.getLast? != some '-'

/-- Reads the name of a group, after the opening angle bracket. -/
def groupName (cs : List Char) : Option (List Char) :=
  match cs.dropWhile (· != '>') with
  | '>' :: rest => if isGroupName (cs.takeWhile (· != '>')) then some rest else none
  | _ => none

/-- Reads the start of a group, after the opening parenthesis: whether it is still
open, and what follows. -/
def groupStart : List Char → Option (Bool × List Char)
  | '?' :: 'P' :: '<' :: cs => (groupName cs).map (true, ·)
  | '?' :: '<' :: cs => (groupName cs).map (true, ·)
  | '?' :: cs =>
    let flags := cs.takeWhile fun c => c != ':' && c != ')'
    match areFlags flags, cs.drop flags.length with
    | true, ':' :: rest => some (true, rest)
    | true, ')' :: rest => if flags.isEmpty then none else some (false, rest)
    | _, _ => none
  | cs => some (true, cs)

/-! ## Patterns -/

/-- Reads a pattern inside `depth` groups, and tells whether it asks for the edges of
words. `repeatable` says whether something that can be repeated has just been read,
and `fuel` bounds the number of steps. -/
def scan : Nat → Nat → Bool → Bool → List Char → Option Bool
  | 0, _, _, _, _ => none
  | fuel + 1, depth, repeatable, wordEdges, cs =>
    match cs with
    | [] => if depth = 0 then some wordEdges else none
    | '(' :: rest =>
      (groupStart rest).bind fun r =>
        scan fuel (if r.1 then depth + 1 else depth) false wordEdges r.2
    | ')' :: rest =>
      match depth with
      | 0 => none
      | depth + 1 => scan fuel depth true wordEdges rest
    | '|' :: rest => scan fuel depth false wordEdges rest
    | '[' :: rest =>
      (setRest (rest.length + 1) 0 (setStart rest)).bind (scan fuel depth true wordEdges)
    | '*' :: rest | '+' :: rest | '?' :: rest =>
      if repeatable then
        scan fuel depth true wordEdges (if rest.head? = some '?' then rest.drop 1 else rest)
      else none
    | '{' :: _ => none
    | '\\' :: rest =>
      (escaped rest).bind fun r => scan fuel depth true (wordEdges || r.1 == .wordEdge) r.2
    | _ :: rest => scan fuel depth true wordEdges rest

/-- Whether characters are a number with a sign or without one. -/
def isNumber (cs : List Char) : Bool :=
  (Decimal.read cs).isSome
    || ["inf", "infinity", "nan"].contains (Text.lower (String.ofList (Decimal.signed cs).2))

/-- What is wrong with a value that a field is to have. A number is taken as it is. -/
def fault? (cs : List Char) : Option Fault :=
  if isNumber cs then none
  else
    match scan (cs.length + 1) 0 false false cs with
    | none => some .malformed
    | some true => some .wordBoundary
    | some false => none

end TreeExplorer.Log.Pattern
