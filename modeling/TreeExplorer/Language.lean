/-
The languages whose trees can be explored, their names and their file
extensions. A language is found by name, by extension, or from a path.
-/
import TreeExplorer.Path
import TreeExplorer.Text.Ascii
import TreeExplorer.Text.Blank

namespace TreeExplorer

/-- A language that the engine has a grammar for. -/
inductive Language where
  | rust
  | python
  | typescript
  deriving DecidableEq, Repr

namespace Language

/-- The name of a language in output. -/
def name : Language → String
  | rust => "rust"
  | python => "python"
  | typescript => "typescript"

/-- The extensions of a language's files, without the dot. -/
def extensions : Language → List String
  | rust => ["rs"]
  | python => ["py", "pyi"]
  | typescript => ["ts", "tsx", "mts", "cts"]

/-- The names under which a language may be asked for. -/
def aliases : Language → List String
  | rust => ["rust", "rs"]
  | python => ["python", "py"]
  | typescript => ["typescript", "ts", "tsx"]

/-- Every language, in the order in which they are tried. -/
def all : List Language :=
  [rust, python, typescript]

instance : Inhabited Language := ⟨rust⟩

/-- The form of a name that is compared: no blanks around it, ASCII letters in
lower case. -/
def normalise (text : String) : String :=
  Text.lower (Text.trim text)

/-- A name that belongs to no language, in the form that was compared. -/
structure UnknownName where
  text : String
  deriving DecidableEq, Repr

/-- The wording of a refused name. -/
def UnknownName.message (e : UnknownName) : String :=
  "unsupported language: '" ++ e.text ++ "'"

/-- The language of a name, whatever its ASCII case and the blanks around it. -/
def parse (text : String) : Except UnknownName Language :=
  match all.find? fun l => l.aliases.contains (normalise text) with
  | some l => .ok l
  | none => .error ⟨normalise text⟩

/-- The language of an extension, whatever its ASCII case. -/
def ofExtension (ext : String) : Option Language :=
  all.find? fun l => l.extensions.any fun e => Text.sameIgnoringCase e ext

/-- The language of the file that a path leads to. -/
def ofPath (path : String) : Option Language :=
  (Path.extension path).bind ofExtension

end Language

end TreeExplorer
