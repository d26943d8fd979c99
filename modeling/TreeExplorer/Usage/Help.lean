/-
The texts of help. A text names the program as it was called.
-/

namespace TreeExplorer.Usage

/-- What help is about. -/
inductive Topic where
  | program
  | walk
  | query
  deriving DecidableEq, Repr

/-- The name of the program where its call does not tell. -/
def programName : String := "sylvan"

/-- The text of the version. -/
def versionText : String := "sylvan 0.1.0\n"

/-- What every help of the program ends with: the flags for configuration. -/
def configurationHelp : List String :=
  ["Configuration flags (must precede the command):",
    "  --config-path <PATH>       Read configuration from PATH",
    "  --log-filter <FILTER>      Tracing filter, for example `debug`",
    "  --log-format <FORMAT>      Log format: json or compact",
    "  --match-limit <N>          Cap on in-progress query matches",
    "  --max-start-depth <N>      Deepest node a query match may start at"]

/-- The options and commands of the program, in full. -/
def programFull : List String :=
  ["Commands:",
    "  walk   Walks a file's syntax tree and prints one record per node",
    "  query  Runs a Tree-sitter query over a file and prints one record per match",
    "",
    "Options:",
    "      --output <OUTPUT>",
    "          Controls how records are rendered",
    "",
    "          Possible values:",
    "          - auto:  Selects `human` for terminal output and `json` for redirected output",
    "          - human: Always render human-readable output",
    "          - json:  Always emit JSON lines",
    "          ",
    "          [default: auto]",
    "",
    "  -h, --help",
    "          Print help (see a summary with '-h')",
    "",
    "  -V, --version",
    "          Print version"]

/-- The options and commands of the program, in short. -/
def programSummary : List String :=
  ["Commands:",
    "  walk   Walks a file's syntax tree and prints one record per node",
    "  query  Runs a Tree-sitter query over a file and prints one record per match",
    "",
    "Options:",
    "      --output <OUTPUT>  Controls how records are rendered [default: auto] [possible values: auto, human, json]",
    "  -h, --help             Print help (see more with '--help')",
    "  -V, --version          Print version"]

/-- The arguments and options of the walk command, in full. -/
def walkFull : List String :=
  ["Arguments:",
    "  <FILE>",
    "          Source file to parse",
    "",
    "Options:",
    "      --language <LANGUAGE>",
    "          Language to parse with; detected from the extension when omitted",
    "",
    "      --output <OUTPUT>",
    "          Controls how records are rendered",
    "",
    "          Possible values:",
    "          - auto:  Selects `human` for terminal output and `json` for redirected output",
    "          - human: Always render human-readable output",
    "          - json:  Always emit JSON lines",
    "          ",
    "          [default: auto]",
    "",
    "      --mode <MODE>",
    "          Traversal order: `dfs` (pre-order) or `bfs` (level order)",
    "          ",
    "          [default: dfs]",
    "",
    "      --named",
    "          Visits named nodes only",
    "",
    "      --limit <N>",
    "          Stops after this many nodes",
    "",
    "  -h, --help",
    "          Print help (see a summary with '-h')"]

/-- The arguments and options of the walk command, in short. -/
def walkSummary : List String :=
  ["Arguments:",
    "  <FILE>  Source file to parse",
    "",
    "Options:",
    "      --language <LANGUAGE>  Language to parse with; detected from the extension when omitted",
    "      --output <OUTPUT>      Controls how records are rendered [default: auto] [possible values: auto, human, json]",
    "      --mode <MODE>          Traversal order: `dfs` (pre-order) or `bfs` (level order) [default: dfs]",
    "      --named                Visits named nodes only",
    "      --limit <N>            Stops after this many nodes",
    "  -h, --help                 Print help (see more with '--help')"]

/-- The arguments and options of the query command, in full. -/
def queryFull : List String :=
  ["Arguments:",
    "  <FILE>",
    "          Source file to parse",
    "",
    "Options:",
    "      --language <LANGUAGE>",
    "          Language to parse with; detected from the extension when omitted",
    "",
    "      --output <OUTPUT>",
    "          Controls how records are rendered",
    "",
    "          Possible values:",
    "          - auto:  Selects `human` for terminal output and `json` for redirected output",
    "          - human: Always render human-readable output",
    "          - json:  Always emit JSON lines",
    "          ",
    "          [default: auto]",
    "",
    "      --query <QUERY>",
    "          Query source text",
    "",
    "      --query-file <PATH>",
    "          File containing the query source",
    "",
    "      --limit <N>",
    "          Stops after this many matches",
    "",
    "  -h, --help",
    "          Print help (see a summary with '-h')"]

/-- The arguments and options of the query command, in short. -/
def querySummary : List String :=
  ["Arguments:",
    "  <FILE>  Source file to parse",
    "",
    "Options:",
    "      --language <LANGUAGE>  Language to parse with; detected from the extension when omitted",
    "      --output <OUTPUT>      Controls how records are rendered [default: auto] [possible values: auto, human, json]",
    "      --query <QUERY>        Query source text",
    "      --query-file <PATH>    File containing the query source",
    "      --limit <N>            Stops after this many matches",
    "  -h, --help                 Print help (see more with '--help')"]

/-- What the program or a command is for. -/
def Topic.about : Topic → String
  | .program => "Walks Tree-sitter syntax trees and streams query matches"
  | .walk => "Walks a file's syntax tree and prints one record per node"
  | .query => "Runs a Tree-sitter query over a file and prints one record per match"

/-- The name of the program in front of a command; nothing where the call does not
tell it. -/
def caller : Option String → String
  | some name => name ++ " "
  | none => ""

/-- The line that shows how to call the program or a command. -/
def Topic.usage (name : Option String) : Topic → String
  | .program => "Usage: " ++ name.getD programName ++ " [OPTIONS] <COMMAND>"
  | .walk => "Usage: " ++ caller name ++ "walk [OPTIONS] <FILE>"
  | .query =>
    "Usage: " ++ caller name ++ "query [OPTIONS] <--query <QUERY>|--query-file <PATH>> <FILE>"

/-- The options that help lists. -/
def Topic.options (full : Bool) : Topic → List String
  | .program => (if full then programFull else programSummary) ++ [""] ++ configurationHelp
  | .walk => if full then walkFull else walkSummary
  | .query => if full then queryFull else querySummary

/-- The text of help, for a program called by this name. -/
def Topic.help (t : Topic) (name : Option String) (full : Bool) : String :=
  String.join (([t.about, "", t.usage name, ""] ++ t.options full).map (· ++ "\n"))

end TreeExplorer.Usage
