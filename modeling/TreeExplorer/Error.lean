/-
What can go wrong while trees are parsed, walked and queried, and the one place
where each cause gets its wording.
-/
import TreeExplorer.Language
import TreeExplorer.Text.Numeral

namespace TreeExplorer

/-- A failure of exploring a tree. -/
inductive Error where
  /-- The engine has no working parser for the language. -/
  | parserInit (language : Language) (reason : String)
  /-- The engine produced no tree. -/
  | noTree (language : Language) (reason : String)
  /-- The engine rejected the text of a query; line and column count from one. -/
  | queryRejected (language : Language) (line column : Nat) (reason : String)
  /-- A query was to run over a tree of another language. -/
  | languageMismatch (query tree : Language)
  /-- A name belongs to no order of walking. -/
  | unsupportedMode (text : String)
  /-- A match captures under an index that the query does not define. -/
  | unknownCapture (index count : Nat)
  /-- The engine failed while it looked for the next match. -/
  | cursorFailed (reason : String)
  deriving DecidableEq, Repr

/-- The wording of a failure. -/
def Error.message : Error → String
  | .parserInit l reason => "failed to initialise parser for " ++ l.name ++ ": " ++ reason
  | .noTree l reason => "failed to parse " ++ l.name ++ ": " ++ reason
  | .queryRejected l line column reason =>
    "invalid query for " ++ l.name ++ " at " ++ Text.decimal line ++ ":" ++ Text.decimal column
      ++ ": " ++ reason
  | .languageMismatch q t =>
    "query compiled for " ++ q.name ++ " cannot run over a " ++ t.name ++ " tree"
  | .unsupportedMode text => "unsupported traversal mode: '" ++ text ++ "'"
  | .unknownCapture i n =>
    "capture index " ++ Text.decimal i ++ " is outside the query's " ++ Text.decimal n ++ " captures"
  | .cursorFailed reason => "match cursor failed: " ++ reason

end TreeExplorer
