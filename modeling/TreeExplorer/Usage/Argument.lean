/-
Arguments of a command line. An argument is a sequence of characters among which
stray bytes may stand; what it is for follows from how it begins.
-/
import TreeExplorer.Text.Utf8

namespace TreeExplorer

/-- An argument as it was given. -/
abbrev Argument := List Text.Piece

namespace Argument

/-- The argument that is this text. -/
def ofText (text : String) : Argument :=
  text.toList.map .char

/-- The argument that these bytes make up. -/
def ofBytes (bytes : List UInt8) : Argument :=
  Text.pieces bytes

/-- The text of an argument without stray bytes. -/
def text? (a : Argument) : Option String :=
  (a.mapM Text.Piece.char?).map String.ofList

/-- The argument as it is shown, stray bytes replaced. -/
def shown (a : Argument) : String :=
  String.ofList (a.map Text.Piece.shown)

/-- Whether a piece is this character. -/
def isChar (c : Char) (p : Text.Piece) : Bool :=
  p.char? == some c

/-- What an argument looks like. -/
inductive Shape where
  /-- Two dashes alone. -/
  | separator
  /-- Two dashes and a name, with a value after the first equals sign. -/
  | long (name : Argument) (value : Option Argument)
  /-- A dash and letters. -/
  | short (letters : Argument)
  | plain

/-- The name before the first equals sign and the value after it. -/
def splitValue (a : Argument) : Argument × Option Argument :=
  (a.takeWhile (!isChar '=' ·),
    match a.dropWhile (!isChar '=' ·) with
    | [] => none
    | _ :: value => some value)

/-- What an argument looks like. A dash alone is plain. -/
def shape : Argument → Shape
  | .char '-' :: .char '-' :: rest =>
    match rest with
    | [] => .separator
    | rest =>
      let (name, value) := splitValue rest
      .long name value
  | [.char '-'] => .plain
  | .char '-' :: letters => .short letters
  | _ => .plain

end Argument

end TreeExplorer
