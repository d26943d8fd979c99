/-
The program at the command line. It looks up what the run may need, runs, and
writes what came of it. The engine that parses is not part of this library;
without one every source is refused.
-/
import TreeExplorer.Program

namespace TreeExplorer.Program

/-- The variables of the environment that matter. -/
def readVariables : IO Variables := do
  let found ← Config.variableNames.mapM fun name => do
    return (← IO.getEnv name).map fun value => (name, value)
  return found.filterMap id

/-- What stands at a place. -/
def readEntry (place : Location) : IO (Option FileEntry) := do
  let path := (← IO.currentDir) / (if place.isEmpty then "/" else FileSystem.absolute place)
  if ← path.isDir then return some .directory
  if ← path.pathExists then return some (.file (← IO.FS.readBinFile path))
  return none

/-- The part of the file system that paths may come to. -/
def readFiles (workingDirectory : Location) (paths : List String) : IO FileSystem := do
  let places := (paths.flatMap (FileSystem.places workingDirectory)).eraseDups
  let entries ← places.mapM fun place => do
    return (← readEntry place).map fun entry => (place, entry)
  return ⟨workingDirectory, entries.filterMap id⟩

/-- How often files are looked for. A file may name another one, which is looked for
the next time. -/
def maxRounds : Nat := 64

/-- A line of the log as it is written. -/
def logLine : Json → String
  | .str line => line
  | v => v.text

end TreeExplorer.Program

open TreeExplorer in
/-- Runs the program on the arguments after its name. -/
def main (words : List String) : IO UInt32 := do
  let arguments := (Usage.programName :: words).map Argument.ofText
  let environment ← Program.readVariables
  let mut files : FileSystem := ⟨Path.components (← IO.currentDir).toString, []⟩
  for _ in [0:Program.maxRounds] do
    let known := files.entries.length
    files ← Program.readFiles files.workingDirectory (Program.paths files environment arguments)
    if files.entries.length == known then break
  let out ← IO.getStdout
  let err ← IO.getStderr
  let outcome := Program.run ⟨({} : EngineRecord).engine, files, environment⟩ .idle
    { arguments, terminal := ← out.isTty, output := {}, diagnostics := {} }
  for line in outcome.log do
    err.putStrLn (Program.logLine line)
  out.write outcome.output.bytes
  out.flush
  err.write outcome.diagnostics.bytes
  return if outcome.success then 0 else 1
