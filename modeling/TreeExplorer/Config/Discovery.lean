/-
Where a configuration file is looked for: the file that a variable names, the
directories for configurations of this user and of all users, the home directory
and the working directory.
-/
import TreeExplorer.Config.Environment
import TreeExplorer.Path

namespace TreeExplorer.Config

/-- The places for a configuration file below a directory for configurations. -/
def below (base : String) : List String :=
  [Path.join (Path.join base "sylvan") "sylvan.toml", Path.join base ".sylvan.toml"]

/-- The directories for configurations that all users share. -/
def sharedBases (environment : Variables) : List String :=
  let named := (Text.cut (· == ':') ((environment.lookup "XDG_CONFIG_DIRS").getD "").toList).filter
    (!·.isEmpty)
  if named.isEmpty then ["/etc/xdg"] else named.map String.ofList

/-- The directories for configurations, the first one first. -/
def bases (environment : Variables) : List String :=
  (environment.lookup "XDG_CONFIG_HOME").toList ++ sharedBases environment
    ++ (environment.lookup "APPDATA").toList ++ (environment.lookup "LOCALAPPDATA").toList
    ++ (environment.lookup "HOME").toList.map (Path.join · ".config")

/-- Where a configuration file is looked for, the first place first, each once. -/
def candidates (environment : Variables) (workingDirectory : String) : List String :=
  let named := (environment.lookup "SYLVAN_CONFIG_PATH").toList.filter (!·.isEmpty)
  let home := (environment.lookup "HOME").toList
  (named ++ (bases environment).flatMap below ++ home.map (Path.join · ".sylvan.toml")
    ++ [Path.join workingDirectory ".sylvan.toml"]).eraseDups

end TreeExplorer.Config
