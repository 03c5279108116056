import ScriptBridge.Text.Blank

/-!
# Configuration

What an engine is told once. Each setting has a default, which a variable of the environment
replaces; a variable with an invalid value is passed over.
-/

namespace ScriptBridge

structure Config where
  /-- The engine runs in a worker of its own; otherwise diagnostics are also echoed. -/
  forked : Bool := false
  /-- Where R is installed, if the backend shall not find out. -/
  home : Option String := none
  /-- The arguments that R is started with. -/
  arguments : List String := ["--vanilla", "--no-echo"]
  /-- The directory that the interpreter returns to after each run. -/
  safeDir : String
  /-- The warning level of each run. -/
  warnLevel : Int32 := 1

namespace Config

/-- A truth value of the environment. -/
def readBool? (raw : String) : Option Bool :=
  let word := String.ofList ((Text.trim raw.toList).map Char.toLower)
  if word ∈ ["1", "true", "yes", "on"] then some true
  else if word ∈ ["0", "false", "no", "off", ""] then some false
  else none

/-- The settings of an environment; `userHome` is the default for the directory to return to. -/
def ofEnvironment (userHome : String) (lookup : String → Option String) : Config where
  forked := ((lookup "PARSCRIPT_FORKED").bind readBool?).getD false
  home := (lookup "R_HOME").filter (· ≠ "")
  arguments := ["--vanilla", "--no-echo"] ++
    (((lookup "PARSCRIPT_R_ARGS").map fun s => Text.words s.toList).getD [])
  safeDir := ((lookup "PARSCRIPT_SAFE_DIR").filter (· ≠ "")).getD userHome
  warnLevel := 1

def withForked (c : Config) (forked : Bool) : Config := { c with forked }

def withSafeDir (c : Config) (safeDir : String) : Config := { c with safeDir }

end Config

end ScriptBridge
