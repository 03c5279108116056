import ScriptBridge.Builtin.Args

/-!
# Built-in functions on the session

Options, variables, the working directory, the environment and what is on disk.
-/

namespace ScriptBridge.Builtin

/-! ## Options -/

/-- The options that one argument of `options` sets or asks for, each with its value so far. An
argument with a name sets the option of that name. -/
def option (arg : Option String × Object) : Exec (List (String × RValue)) := do
  let current (m : Machine) (key : String) : RValue :=
    ((m.options.get? key).map Object.readBack).getD .null
  match arg with
  | (some key, x) =>
    let m ← get
    set { m with options := m.options.insert key x }
    return [(key, current m key)]
  | (none, x) =>
    let keys ← Exec.ofExcept (← Exec.data x).texts
    let m ← get
    return keys.map fun key => (key, current m key)

def options (args : Args) : Exec RValue := do
  return .namedList (← args.mapM option).flatten

def getOption (args : Args) : Exec Object := do
  let (x, args) := args.take "x"
  let key ← textOr "" x
  let default := (args.take "default").1.getD Object.null
  return ((← get).options.get? key).getD default

/-! ## Variables -/

/-- The function `exists`. -/
def nameExists (args : Args) : Exec RValue := do
  let name ← textOr "" (args.take "x").1
  return .ofBool ((← get).lookup? name).isSome

/-- The function `ls`: the global names but those that start with a point. -/
def globalNames : Exec RValue := do
  return .strings (((← get).globals.map (·.1)).filter fun k => k.toList.head? ≠ some '.')

/-- The function `geterrmessage`. -/
def errorMessage : Exec RValue := do return .string (← get).lastError

/-! ## Directories and files -/

/-- A directory as scripts see it. -/
def shownDirectory (path : String) : RValue :=
  .string (path.map fun c => if c = '\\' then '/' else c)

/-- The function `getwd`. -/
def workingDirectory : Exec RValue := do return shownDirectory (← get).directory

/-- The function `setwd`; it yields the directory so far. -/
def changeDirectory (args : Args) : Exec RValue := do
  let path ← textOr "" (args.take "dir").1
  let m ← get
  if m.files.isDirectory (m.pathOf path) then
    set { m with directory := m.pathOf path }
    return shownDirectory m.directory
  else Exec.fail .cannotChangeDirectory

/-- The functions `file.exists` and `dir.exists`: for each path whether a test holds. -/
def testFiles (test : Files → String → Bool) (args : Args) : Exec RValue := do
  let paths ← allTexts (← values args.unnamed)
  let m ← get
  return .logical (paths.map fun path => some (test m.files (m.pathOf path)))

/-! ## Environment -/

/-- The function `Sys.getenv`. -/
def environmentValue (args : Args) : Exec RValue := do
  let (x, args) := args.take "x"
  let key ← textOr "" x
  let unset ← textOr "" (args.take "unset").1
  return .string (((← get).environmentValue? key).getD unset)

end ScriptBridge.Builtin
