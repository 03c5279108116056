import ScriptBridge.Machine

/-!
# Arguments of built-in functions

A built-in function takes its arguments one after the other, by name or in order. An argument that
it does not take is passed over.

- `Args.named`, `Args.positional`, `Args.take`: an argument, and the arguments that are left.
- `Args.unnamed`: the arguments without a name.
- `required`, `flag`, `textOr`: what an argument must be.
-/

namespace ScriptBridge.Builtin

/-- The arguments of a call, with their names. -/
abbrev Args : Type := List (Option String × Object)

namespace Args

def named (name : String) (args : Args) : Option Object × Args :=
  ((args.find? (·.1 = some name)).map (·.2), args.eraseP (·.1 = some name))

def positional (args : Args) : Option Object × Args :=
  ((args.find? (·.1 = none)).map (·.2), args.eraseP (·.1 = none))

/-- The first argument of a name, or else the first one without a name. -/
def take (name : String) (args : Args) : Option Object × Args :=
  match args.named name with
  | (some x, rest) => (some x, rest)
  | (none, _) => args.positional

def unnamed (args : Args) : List Object := (args.filter (·.1 = none)).map (·.2)

end Args

/-- The value of an argument that a function cannot do without. -/
def required (function what : String) (x : Option Object) : Exec RValue :=
  match x with
  | some x => Exec.data x
  | none => Exec.fail (.missingArgumentOf what function)

/-- The value of an argument, if it is given. -/
def optional (x : Option Object) : Exec (Option RValue) := x.mapM Exec.data

def flag (default : Bool) (x : Option Object) : Exec Bool := do
  match ← optional x with
  | some x => Exec.ofExcept x.condition
  | none => return default

def textOr (default : String) (x : Option Object) : Exec String := do
  match ← optional x with
  | some x => return (← Exec.ofExcept x.texts).headD ""
  | none => return default

def values (xs : List Object) : Exec (List RValue) := xs.mapM Exec.data

/-- The texts of values, one after the other. -/
def allTexts (xs : List RValue) : Exec (List String) := do
  return (← xs.mapM fun x => Exec.ofExcept x.texts).flatten

end ScriptBridge.Builtin
