/-
Text as bytes: cutting a text at byte offsets, and reading bytes that may not
be text. An offset that falls inside a character is no place to cut.
-/

namespace TreeExplorer.Text

/-- The length of a list of characters in bytes. -/
def byteLength (cs : List Char) : Nat :=
  cs.foldr (fun c n => c.utf8Size + n) 0

/-- What is left after the first `n` bytes, or `none` where `n` is past the end
or inside a character. -/
def dropBytes : List Char → Nat → Option (List Char)
  | cs, 0 => some cs
  | [], _ + 1 => none
  | c :: cs, n + 1 => if c.utf8Size ≤ n + 1 then dropBytes cs (n + 1 - c.utf8Size) else none

/-- The characters that make up the first `n` bytes, or `none` where `n` is past
the end or inside a character. -/
def takeBytes : List Char → Nat → Option (List Char)
  | _, 0 => some []
  | [], _ + 1 => none
  | c :: cs, n + 1 =>
    if c.utf8Size ≤ n + 1 then (takeBytes cs (n + 1 - c.utf8Size)).map (c :: ·) else none

/-- The characters between byte `a` and byte `b`, if both are places to cut and
`a` is not after `b`. -/
def sliceList (cs : List Char) (a b : Nat) : Option (List Char) :=
  if a ≤ b then (dropBytes cs a).bind fun rest => takeBytes rest (b - a) else none

/-- The text between byte `a` and byte `b`, if there is such a text. -/
def slice? (s : String) (a b : Nat) : Option String :=
  (sliceList s.toList a b).map String.ofList

/-- The text that the bytes spell, if they are UTF-8. -/
def ofBytes? (bytes : ByteArray) : Option String :=
  String.fromUTF8? bytes

/-- One piece of a byte sequence: a character, or bytes that are part of none. -/
inductive Piece where
  | char (c : Char)
  | stray (bytes : List UInt8)
  deriving DecidableEq, Repr

/-- The range of the second byte after a first one, and how many bytes follow
the first. -/
def following (b : Nat) : Option (Nat × Nat × Nat) :=
  if 0xC2 ≤ b ∧ b ≤ 0xDF then some (0x80, 0xBF, 1)
  else if b = 0xE0 then some (0xA0, 0xBF, 2)
  else if b = 0xED then some (0x80, 0x9F, 2)
  else if 0xE1 ≤ b ∧ b ≤ 0xEF then some (0x80, 0xBF, 2)
  else if b = 0xF0 then some (0x90, 0xBF, 3)
  else if b = 0xF4 then some (0x80, 0x8F, 3)
  else if 0xF1 ≤ b ∧ b ≤ 0xF3 then some (0x80, 0xBF, 3)
  else none

/-- The value of the first byte of a character that has `n` bytes after it. -/
def leadValue (b n : Nat) : Nat :=
  match n with
  | 1 => b % 0x20
  | 2 => b % 0x10
  | _ => b % 0x08

/-- Reads up to `n` further bytes, the first of them in `low` to `high`: how
many fit, and the value they spell after `value`. -/
def readTail : Nat → Nat → Nat → Nat → List UInt8 → Nat × Nat
  | 0, _, _, value, _ => (0, value)
  | _ + 1, _, _, value, [] => (0, value)
  | n + 1, low, high, value, b :: rest =>
    if low ≤ b.toNat ∧ b.toNat ≤ high then
      let r := readTail n 0x80 0xBF (value * 0x40 + b.toNat % 0x40) rest
      (r.1 + 1, r.2)
    else (0, value)

/-- The first piece of a sequence that starts with `b`, and how many bytes of
`rest` it takes. Bytes that begin a character but do not complete it are one
stray piece. -/
def firstPiece (b : UInt8) (rest : List UInt8) : Piece × Nat :=
  if b.toNat < 0x80 then (.char (Char.ofNat b.toNat), 0)
  else
    match following b.toNat with
    | none => (.stray [b], 0)
    | some (low, high, n) =>
      let r := readTail n low high (leadValue b.toNat n) rest
      if r.1 = n then (.char (Char.ofNat r.2), n) else (.stray (b :: rest.take r.1), r.1)

/-- Cuts a byte sequence into characters and stray bytes. -/
def pieces (bytes : List UInt8) : List Piece :=
  match bytes with
  | [] => []
  | b :: rest =>
    let r := firstPiece b rest
    r.1 :: pieces (rest.drop r.2)
termination_by bytes.length
decreasing_by simp only [List.length_drop, List.length_cons]; omega

/-- The character that stands for stray bytes. -/
def replacement : Char :=
  Char.ofNat 0xFFFD

/-- A piece as a character, stray bytes as the replacement character. -/
def Piece.shown : Piece → Char
  | .char c => c
  | .stray _ => replacement

/-- The character of a piece that is one. -/
def Piece.char? : Piece → Option Char
  | .char c => some c
  | .stray _ => none

/-- The text that bytes spell, each stray piece shown as the replacement
character. -/
def lossy (bytes : List UInt8) : String :=
  String.ofList ((pieces bytes).map Piece.shown)

end TreeExplorer.Text
