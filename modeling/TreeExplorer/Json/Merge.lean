/-
Laying one JSON value over another. Objects are joined field by field, all the
way down; of any other two values the upper one stays.
-/
import TreeExplorer.Json.Basic

namespace TreeExplorer.Json

/-- Gives a field a value, in place of the one that it has. -/
def put (name : String) (value : Json) : List (String × Json) → List (String × Json)
  | [] => [(name, value)]
  | (k, v) :: rest => if k = name then (k, value) :: rest else (k, v) :: put name value rest

mutual

/-- Lays a value over another. -/
def lay : Json → Json → Json
  | .obj upper, .obj lower => .obj (layFields upper lower)
  | upper, _ => upper

/-- Lays fields over others. -/
def layFields : List (String × Json) → List (String × Json) → List (String × Json)
  | [], lower => lower
  | (k, v) :: rest, lower =>
    let value :=
      match field? lower k with
      | some old => lay v old
      | none => v
    layFields rest (put k value lower)

end

end TreeExplorer.Json
