import ScriptBridge.Builtin.Args
import ScriptBridge.RValue.Format
import ScriptBridge.Text.Case

/-!
# Built-in functions on texts
-/

namespace ScriptBridge.Builtin

/-- The number of characters of a text; a missing text counts two, as it is shown. -/
def characterCount (s : Option String) : Int32 :=
  Int32.ofNat ((s.map (·.length)).getD 2)

/-- The function `nchar`. -/
def characterCounts (x : RValue) : Except Fault RValue := do
  return .integer ((← x.asCharacter).map fun s => some (characterCount s))

/-- The functions `toupper` and `tolower`. -/
def mapTexts (f : String → String) (x : RValue) : Except Fault RValue := do
  return .character ((← x.asCharacter).map (·.map f))

/-- Columns of texts joined row by row. An empty column is left out, and a shorter one starts again
at its end. -/
def pasteRows (sep : String) (columns : List (List String)) : List String :=
  let columns := (columns.filter (· ≠ [])).map List.toArray
  (List.range ((columns.map (·.size)).foldl max 0)).map fun i =>
    sep.intercalate (columns.map fun c => RValue.cyclic c "" i)

/-- The functions `paste` and `paste0`, with a separator that may be given. -/
def paste (sep : Option Object → Exec String) (args : Args) : Exec RValue := do
  let (sepArg, args) := args.named "sep"
  let sep ← sep sepArg
  let (collapseArg, args) := args.named "collapse"
  let collapse ← collapseArg.mapM fun x => textOr "" (some x)
  let parts ← values args.unnamed
  let rows := pasteRows sep (← parts.mapM fun x => Exec.ofExcept x.texts)
  match collapse with
  | some c => return .string (c.intercalate rows)
  | none => return .strings rows

/-- The function `sprintf`. -/
def format (function : String) (args : Args) : Exec RValue := do
  let (templates, args) := args.take "fmt"
  let templates ← required function "fmt" templates
  let rest ← values args.unnamed
  Exec.ofExcept (RValue.sprintf (← Exec.ofExcept templates.texts) rest)

/-- The function `file.path`: the texts of all arguments joined by slashes. -/
def joinPath (args : Args) : Exec RValue := do
  return .string ("/".intercalate (← allTexts (← values args.unnamed)))

end ScriptBridge.Builtin
