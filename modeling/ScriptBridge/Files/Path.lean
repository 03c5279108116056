import ScriptBridge.Text.Cut

/-!
# Paths

A path is a text in which slashes divide names. One that starts with a slash is absolute; any other
is relative to some directory. Paths are joined as texts, so the steps `.` and `..` stay in them.

- `Path.names`: the names on a path.
- `Path.join`: a path seen from a directory.
-/

namespace ScriptBridge.Path

def isAbsolute (path : String) : Bool := path.toList.head? = some '/'

/-- The names on a path; a slash at its end counts as an empty last name. -/
def names (path : String) : List String :=
  let ps := (Text.pieces '/' path.toList).map String.ofList
  ps.dropLast.filter (· ≠ "") ++ ps.getLast?.toList

/-- A path seen from a directory. An empty path gives the directory with a slash at its end. -/
def join (directory path : String) : String :=
  if isAbsolute path then path
  else if directory = "" ∨ directory.toList.getLast? = some '/' then directory ++ path
  else directory ++ "/" ++ path

/-- The path of a place, from the root. -/
def ofNames (names : List String) : String := "/" ++ "/".intercalate names

end ScriptBridge.Path
