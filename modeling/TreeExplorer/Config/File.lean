/-
Configuration files. A file is found by way of its directory and holds a TOML
document. It may name a file that it extends, whose fields then stand below its
own; a chain of such files must not come back to one of its own.
-/
import TreeExplorer.FileSystem
import TreeExplorer.Json.Merge
import TreeExplorer.Text.Ascii
import TreeExplorer.Toml.Reader

namespace TreeExplorer.Config

/-- The fields of a configuration. -/
abbrev Fields := List (String × Json)

/-- What is wrong with a file. -/
inductive FileProblem where
  /-- The path ends in no name. -/
  | unnamed
  | read (fault : ReadFault)
  | notRegular
  /-- A file that has to be there is not. -/
  | missing
  /-- The file is in a format that is not understood. -/
  | format (name : String)
  | malformed
  /-- A key has too many parts. -/
  | keyTooLong
  /-- What names the extended file is no text. -/
  | baseKind (found : Json)
  /-- The name of the extended file is empty. -/
  | baseEmpty
  /-- The extended file is not there. -/
  | baseMissing (base referrer : String)
  deriving Repr

/-- The kind of a value in a document, where only numbers without a size are read as
null. -/
def kindName : Json → String
  | .bool _ => "boolean"
  | .null | .int _ | .fraction _ => "number"
  | .str _ => "string"
  | .arr _ => "array"
  | .obj _ => "object"

/-- The wording of a problem. -/
def FileProblem.message : FileProblem → String
  | .unnamed => "cannot determine file name for configuration file path"
  | .read f => f.message
  | .notRegular => "configuration path is not a regular file"
  | .missing => "required configuration file not found"
  | .format name =>
    name ++ " feature disabled: enable the '" ++ name ++ "' feature to support this file format"
  | .malformed => "TOML parse error"
  | .keyTooLong => "recursion limit"
  | .baseKind v => "'extends' key must be a string, but found type: " ++ kindName v
  | .baseEmpty => "'extends' key must be a non-empty string"
  | .baseMissing base referrer =>
    "extended configuration file '" ++ base ++ "' does not exist (referenced from '" ++ referrer
      ++ "')"

/-- Why a file cannot be used. -/
inductive FileFault where
  | problem (path : String) (what : FileProblem)
  /-- A chain of files comes back to one of its own, which is its last one. -/
  | cycle (chain : List String)
  /-- The document is one of version 1.1 only, or goes too deep for version 1.0. -/
  | document
  deriving Repr

/-- The wording of a failure. -/
def FileFault.message : FileFault → String
  | .problem path what => "Configuration file error in '" ++ path ++ "': " ++ what.message
  | .cycle chain => "cyclic extends detected: " ++ " -> ".intercalate chain
  | .document => "Failed to merge CLI with configuration: TOML parse error"

/-- The bytes of a file and the place where it is; where there is none, nothing. -/
def openFile (fs : FileSystem) (path : String) :
    Except FileFault (Option (String × ByteArray)) :=
  match Path.fileNameList path with
  | none => .error (.problem path .unnamed)
  | some name =>
    match fs.resolveIn (Path.directory path) name with
    | .error .notFound => .ok none
    | .error f => .error (.problem path (.read f))
    | .ok (_, .directory) => .error (.problem path .notRegular)
    | .ok (place, .file bytes) => .ok (some (FileSystem.absolute place, bytes))

/-- The format that the extension of a file stands for, unless it is TOML. -/
def foreignFormat (path : String) : Option String :=
  match (Path.extension path).map Text.lower with
  | some "json" | some "json5" => some "json5"
  | some "yaml" | some "yml" => some "yaml"
  | _ => none

/-- The fields of a document. It is looked at by the rules of version 1.1 first;
the fields are those that version 1.0 finds. -/
def readDocument (path text : String) : Except FileFault Fields :=
  if (Toml.read .extended text).isNone then .error (.problem path .malformed)
  else if (Toml.read .extendedLimited text).isNone then .error (.problem path .keyTooLong)
  else
    match Toml.read .basic text with
    | some fields => .ok fields
    | none => .error .document

/-- Reads a single file: the place where it is and its fields. -/
def readSingle (fs : FileSystem) (path : String) : Except FileFault (Option (String × Fields)) := do
  match ← openFile fs path with
  | none => return none
  | some (place, bytes) =>
    match Text.ofBytes? bytes, foreignFormat place with
    | none, _ => .error (.problem place (.read .notText))
    | some _, some format => .error (.problem place (.format format))
    | some text, none => return some (place, ← readDocument place text)

/-- The path of the file that a file extends. It starts from the directory of the
file that names it. -/
def basePath (place : String) (fields : Fields) : Except FileFault (Option String) :=
  match Json.field? fields "extends" with
  | none => .ok none
  | some (.str base) =>
    if base.isEmpty then .error (.problem place .baseEmpty)
    else .ok (some (Path.join (Path.directory place) base))
  | some v => .error (.problem place (.baseKind v))

/-- Reads a file and those that it extends. `chain` are the files on the way to it,
and `fuel` bounds their number. -/
def readChain (fs : FileSystem) : Nat → List String → String → Except FileFault (Option Fields)
  | 0, _, _ => .ok none
  | fuel + 1, chain, path => do
    match ← readSingle fs path with
    | none => return none
    | some (place, fields) =>
      if chain.contains place then .error (.cycle (chain ++ [place]))
      else
        match ← basePath place fields with
        | none => return some fields
        | some base =>
          match ← readChain fs fuel (chain ++ [place]) base with
          | none => .error (.problem base (.baseMissing base place))
          | some lower => return some (Json.layFields fields lower)

/-- Reads a configuration file; where there is none, nothing. A chain without a
cycle visits each file once, and one more step finds a cycle. -/
def readFile (fs : FileSystem) (path : String) : Except FileFault (Option Fields) :=
  readChain fs (fs.entries.length + 2) [] path

/-- The paths of a file and of those that it extends, as far as they are known;
`fuel` bounds their number. -/
def chainPaths (fs : FileSystem) : Nat → String → List String
  | 0, _ => []
  | fuel + 1, path =>
    match readSingle fs path with
    | .ok (some (place, fields)) =>
      match basePath place fields with
      | .ok (some base) => path :: chainPaths fs fuel base
      | _ => [path]
    | _ => [path]

end TreeExplorer.Config
