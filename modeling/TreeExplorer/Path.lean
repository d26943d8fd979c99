/-
Paths as text: `/` separates components, empty components and `.` say nothing,
and the last component names the file unless it is `..`.
-/
import TreeExplorer.Text.Cut

namespace TreeExplorer.Path

/-- The components of a path that say something. -/
def components (path : String) : List (List Char) :=
  (Text.cut (· == '/') path.toList).filter fun c => c != [] && c != ['.']

/-- The last component, unless it leads upwards. -/
def fileNameList (path : String) : Option (List Char) :=
  match (components path).getLast? with
  | some name => if name = ['.', '.'] then none else some name
  | none => none

/-- The name of the file that a path leads to. -/
def fileName (path : String) : Option String :=
  (fileNameList path).map String.ofList

/-- The directory that holds the file of a path: what stands before the last
component, or `.` where nothing does. -/
def directory (path : String) : String :=
  let parts := (Text.cut (· == '/') path.toList).reverse
  let before := (parts.dropWhile fun c => c = [] || c = ['.']).drop 1
  match before.reverse with
  | [] => "."
  | [[]] => "/"
  | first :: rest => String.ofList (first ++ rest.flatMap ('/' :: ·))

/-- What follows the last dot of a name, if something stands before that dot. -/
def extensionList (name : List Char) : Option (List Char) :=
  match name.reverse.dropWhile (· != '.') with
  | _ :: _ :: _ => some (name.reverse.takeWhile (· != '.')).reverse
  | _ => none

/-- The extension of the file that a path leads to. -/
def extension (path : String) : Option String :=
  ((fileNameList path).bind extensionList).map String.ofList

/-- A path below a directory; an absolute one stays as it is. -/
def join (directory path : String) : String :=
  match path.toList, directory.toList.reverse with
  | '/' :: _, _ => path
  | _, [] => path
  | _, '/' :: _ => directory ++ path
  | _, _ => directory ++ "/" ++ path

end TreeExplorer.Path
