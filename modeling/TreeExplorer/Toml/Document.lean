/-
The tables of a TOML document while it is read. A table may be opened by a
header once, a key may be given once, and a value in line is complete as it
stands; what says a thing twice is no document.
-/
import TreeExplorer.Json.Basic

namespace TreeExplorer.Toml

/-- How a table came into being. -/
inductive Origin where
  /-- Named on the way to a deeper table. -/
  | implied
  /-- Opened by its own header. -/
  | header
  /-- Made by a key with dots. -/
  | dotted
  deriving DecidableEq, Repr

/-- What stands under a key. -/
inductive Entry where
  | leaf (value : Json)
  | table (origin : Origin) (entries : List (String × Entry))
  /-- A list of tables, each with its own header; the last is the open one. -/
  | tables (items : List (List (String × Entry)))
  deriving Repr

/-- The entries of a table. -/
abbrev Entries := List (String × Entry)

/-- Puts an entry under a key, in place of the one that is there. -/
def put (key : String) (entry : Entry) : Entries → Entries
  | [] => [(key, entry)]
  | (k, e) :: rest => if k = key then (k, entry) :: rest else (k, e) :: put key entry rest

/-- Changes the entries of an open table under a key. -/
def inside (key : String) (change : Entries → Option Entries) (es : Entries) : Option Entries :=
  match es.lookup key with
  | some (.table origin sub) => (change sub).map fun s => put key (.table origin s) es
  | some (.tables items) =>
    match items.reverse with
    | last :: before => (change last).map fun s => put key (.tables (s :: before).reverse) es
    | [] => none
  | some (.leaf _) => none
  | none => (change []).map fun s => es ++ [(key, .table .implied s)]

/-- Opens the table of a header. -/
def openTable : List String → Entries → Option Entries
  | [], _ => none
  | [key], es =>
    match es.lookup key with
    | none => some (es ++ [(key, .table .header [])])
    | some (.table .implied sub) => some (put key (.table .header sub) es)
    | some _ => none
  | key :: rest, es => inside key (openTable rest) es

/-- Opens the next table of a list of tables. -/
def openListed : List String → Entries → Option Entries
  | [], _ => none
  | [key], es =>
    match es.lookup key with
    | none => some (es ++ [(key, .tables [[]])])
    | some (.tables items) => some (put key (.tables (items ++ [[]])) es)
    | some _ => none
  | key :: rest, es => inside key (openListed rest) es

/-- Whether a key with dots may lead through an entry. The table that gets the value
has to be made by such a key; on the way to it there may also be tables that a
header has implied, and lists of tables. -/
def leadsOn (isLast : Bool) : Entry → Bool
  | .table .dotted _ => true
  | .table .implied _ | .tables _ => !isLast
  | .table .header _ | .leaf _ => false

/-- Gives a key its value. -/
def assign (value : Json) : List String → Entries → Option Entries
  | [], _ => none
  | [key], es =>
    match es.lookup key with
    | none => some (es ++ [(key, .leaf value)])
    | some _ => none
  | key :: rest, es =>
    match es.lookup key with
    | none => (assign value rest []).map fun s => es ++ [(key, .table .dotted s)]
    | some entry =>
      if leadsOn (rest.length == 1) entry then inside key (assign value rest) es else none

/-- Changes the entries of the table that a header has opened. -/
def within : List String → (Entries → Option Entries) → Entries → Option Entries
  | [], change, es => change es
  | key :: rest, change, es => inside key (within rest change) es

mutual

/-- An entry as a value. -/
def Entry.json : Entry → Json
  | .leaf v => v
  | .table _ es => .obj (entriesJson es)
  | .tables items => .arr (tablesJson items)

/-- Entries as the fields of an object. -/
def entriesJson : List (String × Entry) → List (String × Json)
  | [] => []
  | (k, e) :: rest => (k, e.json) :: entriesJson rest

/-- Tables as the items of an array. -/
def tablesJson : List (List (String × Entry)) → List Json
  | [] => []
  | es :: rest => .obj (entriesJson es) :: tablesJson rest

end

end TreeExplorer.Toml
