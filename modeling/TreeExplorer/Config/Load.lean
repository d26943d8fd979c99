/-
Loading the configuration from a file, the environment and flags, each of which
is laid over those before it. The first file that can be used counts. Every
failure is collected, and only the value that counts is looked at.
-/
import TreeExplorer.Config.Discovery
import TreeExplorer.Config.File
import TreeExplorer.Config.Flags
import TreeExplorer.Usage.CommandLine

namespace TreeExplorer.Config

/-- What keeps a configuration from being loaded. -/
inductive LoadFault where
  | flags (stop : Usage.Stop) (program : Option String)
  | file (fault : FileFault)
  /-- The path that a flag gives is no text. -/
  | pathNotText
  | merge (fault : Fault)

/-- The text that flags are refused with. -/
def stopText (program : Option String) : Usage.Stop → String
  | .fault f => f.report
  | .help _ =>
    "CLI parser struct generated by `OrthoConfig` for `Config`\n\nUsage: "
      ++ program.getD Usage.programName ++ " [OPTIONS]\n"
  | .version => Usage.versionText

/-- The wording of a failure. -/
def LoadFault.message : LoadFault → String
  | .flags stop program => "Failed to parse command-line arguments: " ++ stopText program stop
  | .file f => f.message
  | .pathNotText => "Failed to gather configuration: path contains invalid UTF-8 characters"
  | .merge f => "Failed to merge CLI with configuration: " ++ f.message

/-- Numbered lines for failures, from a number on. -/
def numbered : Nat → List LoadFault → String
  | _, [] => ""
  | n, f :: rest => "\n" ++ Text.decimal n ++ ": " ++ f.message ++ numbered (n + 1) rest

/-- The wording of all failures. -/
def faultsMessage : List LoadFault → String
  | [f] => f.message
  | fs => "multiple configuration errors:" ++ numbered 1 fs

/-! ## Files -/

/-- The first file that can be used, or the failures of those that could not. -/
def firstFile (fs : FileSystem) : List String → Except (List FileFault) Fields
  | [] => .error []
  | path :: rest =>
    match readFile fs path with
    | .ok (some fields) => .ok fields
    | .ok none => firstFile fs rest
    | .error f =>
      match firstFile fs rest with
      | .ok fields => .ok fields
      | .error faults => .error (f :: faults)

/-- The file that a flag names. It has to be there. -/
def requiredFile (fs : FileSystem) (path : String) : Except FileFault Fields :=
  match readFile fs path with
  | .ok (some fields) => .ok fields
  | .ok none => .error (.problem path .missing)
  | .error f => .error f

/-- The fields from files, and the failures to report. -/
def fileFields (fs : FileSystem) (environment : Variables) (named : Option String) :
    Fields × List FileFault :=
  let others := (candidates environment (FileSystem.absolute fs.workingDirectory)).filter
    fun path => some path != named
  match named.map (requiredFile fs) with
  | some (.ok fields) => (fields, [])
  | some (.error f) =>
    match firstFile fs others with
    | .ok fields => (fields, [f])
    | .error faults => ([], f :: faults)
  | none =>
    match firstFile fs others with
    | .ok fields => (fields, [])
    | .error faults => ([], faults)

/-! ## Layers -/

/-- The variables that a configuration is loaded from. -/
def variableNames : List String :=
  ["HOME", "XDG_CONFIG_HOME", "XDG_CONFIG_DIRS", "APPDATA", "LOCALAPPDATA", "SYLVAN_CONFIG_PATH"]
    ++ fieldNames.flatMap fun n => [("SYLVAN_" ++ n).toUpper, "sylvan_" ++ n]

/-- The flags that say what holds without them. -/
def defaultFlags : Flags :=
  { logFilter := some defaultFilter, logFormat := some default }

/-- The fields that hold where nothing is configured. -/
def defaultFields : Fields :=
  defaultFlags.fields

/-- The fields that flags lay over all others. Flags that say just what holds
without them lay nothing over. -/
def flagFields (flags : Flags) : Fields :=
  if flags = defaultFlags then [] else flags.fields

/-- Loads a configuration. -/
def load (fs : FileSystem) (environment : Variables) (arguments : List Argument) :
    Except (List LoadFault) Config :=
  let (flags, flagFaults) : Flags × List LoadFault :=
    match readFlags arguments with
    | .ok flags => (flags, [])
    | .error stop => ({}, [.flags stop (Usage.calledName arguments)])
  let (fromFile, fileFaults) := fileFields fs environment (flags.configPath.map Argument.shown)
  let (fromFlags, pathFaults) : Fields × List LoadFault :=
    if flags.configPath.any (·.text?.isNone) then ([], [.pathNotText]) else (flagFields flags, [])
  let layers := [fromFlags, Environment.fields environment, fromFile, defaultFields]
  let merged := ofFields (layers.foldr Json.layFields [])
  match flagFaults ++ fileFaults.map .file ++ pathFaults, merged with
  | [], .ok c => .ok c
  | faults, .ok _ => .error faults
  | faults, .error f => .error (faults ++ [.merge f])

end TreeExplorer.Config
