/-
A file system as data: files with their bytes, and directories. Paths are
followed component by component; every component but the last has to be a
directory.
-/
import TreeExplorer.Path
import TreeExplorer.Text.Utf8

namespace TreeExplorer

/-- A place in the file system: the components from the root. -/
abbrev Location := List (List Char)

/-- What stands at a place. -/
inductive FileEntry where
  | file (bytes : ByteArray)
  | directory

/-- Files and directories, and the directory from which relative paths start. The
directories on the way to an entry need not be listed. -/
structure FileSystem where
  workingDirectory : Location
  entries : List (Location × FileEntry)

/-- Why a file cannot be read. -/
inductive ReadFault where
  | notFound
  | notDirectory
  | isDirectory
  | notText
  | zeroInPath
  | zeroInName
  | nameTooLong
  deriving DecidableEq, Repr

/-- The wording of a failure to read. -/
def ReadFault.message : ReadFault → String
  | .notFound => "No such file or directory (os error 2)"
  | .notDirectory => "Not a directory (os error 20)"
  | .isDirectory => "Is a directory (os error 21)"
  | .notText => "stream did not contain valid UTF-8"
  | .zeroInPath => "file name contained an unexpected NUL byte"
  | .zeroInName => "Invalid argument (os error 22)"
  | .nameTooLong => "File name too long (os error 36)"

namespace FileSystem

/-- What stands at a place. -/
def at? (fs : FileSystem) (place : Location) : Option FileEntry :=
  match fs.entries.find? fun e => e.1 == place with
  | some e => some e.2
  | none =>
    if place.isPrefixOf fs.workingDirectory || fs.entries.any fun e => place.isPrefixOf e.1 then
      some .directory
    else none

/-- The most bytes that the name of an entry has. -/
def maxNameLength : Nat := 255

/-- The most bytes that a path has. -/
def maxPathLength : Nat := 4095

/-- Follows components from a place. -/
def follow (fs : FileSystem) : Location → List (List Char) → Except ReadFault Location
  | place, [] => .ok place
  | place, c :: rest =>
    match fs.at? place with
    | none => .error .notFound
    | some (.file _) => .error .notDirectory
    | some .directory =>
      if c = [] ∨ c = ['.'] then fs.follow place rest
      else if c = ['.', '.'] then fs.follow place.dropLast rest
      else if maxNameLength < Text.byteLength c then .error .nameTooLong
      else fs.follow (place ++ [c]) rest

/-- Every place that following components from a place may come to. -/
def placesFrom : Location → List (List Char) → List Location
  | place, [] => [place]
  | place, c :: rest =>
    if c = [] ∨ c = ['.'] then placesFrom place rest
    else if c = ['.', '.'] then place :: placesFrom place.dropLast rest
    else place :: placesFrom (place ++ [c]) rest

/-- Where a path starts: at the root or in the working directory. -/
def origin (workingDirectory : Location) (path : String) : Location :=
  match path.toList with
  | '/' :: _ => []
  | _ => workingDirectory

/-- Every place that following a path may come to. -/
def places (workingDirectory : Location) (path : String) : List Location :=
  placesFrom (origin workingDirectory path) (Text.cut (· == '/') path.toList)

/-- The character of code zero, which no path has. -/
def zero : Char := Char.ofNat 0

/-- The place that a path leads to, and what stands there. -/
def resolve (fs : FileSystem) (path : String) : Except ReadFault (Location × FileEntry) := do
  let cs := path.toList
  if cs.isEmpty then .error .notFound
  else if cs.contains zero then .error .zeroInPath
  else if maxPathLength < Text.byteLength cs then .error .nameTooLong
  else
    let place ← fs.follow (origin fs.workingDirectory path) (Text.cut (· == '/') cs)
    match fs.at? place with
    | some e => return (place, e)
    | none => .error .notFound

/-- The place that a name has in the directory that a path leads to, and what
stands there. -/
def resolveIn (fs : FileSystem) (directory : String) (name : List Char) :
    Except ReadFault (Location × FileEntry) := do
  match ← fs.resolve directory with
  | (_, .file _) => .error .notDirectory
  | (place, .directory) =>
    if name.contains zero then .error .zeroInName
    else if maxNameLength < Text.byteLength name then .error .nameTooLong
    else
      match fs.at? (place ++ [name]) with
      | some e => return (place ++ [name], e)
      | none => .error .notFound

/-- The text of a file. -/
def readText (fs : FileSystem) (path : String) : Except ReadFault String := do
  match ← fs.resolve path with
  | (_, .directory) => .error .isDirectory
  | (_, .file bytes) =>
    match Text.ofBytes? bytes with
    | some s => return s
    | none => .error .notText

/-- A place as an absolute path. -/
def absolute (place : Location) : String :=
  String.ofList (place.flatMap fun c => '/' :: c)

/-- The file system that holds files below a working directory, each given with
its path from there. -/
def ofFiles (workingDirectory : String) (files : List (String × FileEntry)) : FileSystem :=
  let base := Path.components workingDirectory
  ⟨base, files.map fun f => (base ++ Path.components f.1, f.2)⟩

end FileSystem

end TreeExplorer
