import ScriptBridge.Dict
import ScriptBridge.Fault
import ScriptBridge.Files
import ScriptBridge.RValue.Coerce
import ScriptBridge.Console.Signal
import ScriptBridge.Syntax.Expr

/-!
# The state of the interpreter

An interpreter holds global variables, the frames of the calls under way with the innermost first,
options, the working directory, the files and what it has printed. A name is looked up in the
innermost frame and then among the globals; frames further out are never looked at.

- `Machine`: the state.
- `Exec`: a step on the state that yields a value, or ends in an error or a `return`.
- `Exec.warn`: a warning, treated as the option `warn` asks for.
-/

namespace ScriptBridge

/-- What a name stands for. -/
inductive Object where
  | data (x : RValue)
  | closure (params : List (String × Option Expr)) (body : Expr)
  deriving Inhabited

namespace Object

def null : Object := data .null

/-- An object as the host gets it; a closure has no counterpart. -/
def readBack : Object → RValue
  | data x => x
  | closure _ _ => .unsupported "closure"

end Object

structure Condition where
  fault : Fault
  /-- The function in which it was raised, none at top level. -/
  call : Option String
  deriving DecidableEq

/-- The error as it is printed. -/
def Condition.text (c : Condition) : String :=
  match c.call with
  | some f => s!"Error in {f}() : {c.fault.message}\n"
  | none => s!"Error: {c.fault.message}\n"

/-- How an evaluation ends without a value. -/
inductive Exit where
  | error (c : Condition)
  /-- A call of `return`, on its way to the end of the innermost call. -/
  | returned (x : Object)

/-- The error with which an evaluation ends at top level, where there is nothing to return from. -/
def Exit.condition : Exit → Condition
  | .error c => c
  | .returned _ => ⟨.returnOutside, none⟩

structure Frame where
  /-- The name under which the function was called. -/
  function : String
  vars : Dict Object := []
  deriving Inhabited

structure Machine where
  globals : Dict Object := []
  /-- The calls under way, the innermost first. -/
  frames : List Frame := []
  options : Dict Object := [("warn", .data (.ofFloat 0))]
  /-- The working directory, as it was last set. -/
  directory : String
  /-- The text of the last error that was printed. -/
  lastError : String := ""
  /-- Warnings that wait for the end of the expression. -/
  warnings : List String := []
  /-- Whether the error handler is running. -/
  handling : Bool := false
  files : Files := {}
  /-- The variables of the process's environment. -/
  environment : Dict String := []
  /-- What was printed, in order. -/
  console : List Chunk := []
  deriving Inhabited

namespace Machine

/-- The number of calls that may be under way at once. -/
def maxFrames : Nat := 48

/-- A new interpreter; it starts in the directory from which relative paths start. -/
def create (files : Files) (environment : Dict String) : Machine where
  directory := Path.ofNames files.start
  files := files
  environment := environment

def function? (m : Machine) : Option String := m.frames.head?.map (·.function)

/-- What a name stands for. -/
def lookup? (m : Machine) (name : String) : Option Object :=
  match m.frames.head?.bind fun f => f.vars.get? name with
  | some x => some x
  | none => m.globals.get? name

/-- The state with a variable set: in the innermost frame, or among the globals if there is none or
`global` asks for it. -/
def setVar (m : Machine) (name : String) (x : Object) (global : Bool) : Machine :=
  match m.frames, global with
  | f :: rest, false => { m with frames := { f with vars := f.vars.insert name x } :: rest }
  | _, _ => { m with globals := m.globals.insert name x }

/-- Whether there is a variable in the innermost frame, or among the globals if there is none. -/
def hasVar (m : Machine) (name : String) : Bool :=
  match m.frames with
  | f :: _ => f.vars.contains name
  | [] => m.globals.contains name

/-- The state without a variable of the innermost frame, or of the globals if there is none. -/
def eraseVar (m : Machine) (name : String) : Machine :=
  match m.frames with
  | f :: rest => { m with frames := { f with vars := f.vars.erase name } :: rest }
  | [] => { m with globals := m.globals.erase name }

def print (m : Machine) (channel : Channel) (text : String) : Machine :=
  { m with console := m.console ++ [⟨channel, text⟩] }

/-- The level of warnings, zero unless the option `warn` is a number. -/
def warnLevel (m : Machine) : Int32 :=
  match m.options.get? "warn" with
  | some (.data x) =>
    match RValue.asInteger x with
    | .ok (some n :: _) => n
    | _ => 0
  | _ => 0

def warningsText : List String → String
  | [w] => s!"Warning message:\n{w} \n"
  | ws => "Warning messages:\n" ++
    String.join (ws.zipIdx.map fun (w, i) => s!"{i + 1}: {w}\n")

def flushWarnings (m : Machine) : Machine :=
  if m.warnings = [] then m
  else { m.print .error (warningsText m.warnings) with warnings := [] }

/-- The value of a variable of the environment. Each variable is kept as one text `name=value` and
found by the text up to an equals sign, so the name asked for may reach into the value. -/
def environmentValue? (m : Machine) (name : String) : Option String :=
  m.environment.findSome? fun (key, value) =>
    (Text.stripStart? (name ++ "=").toList (key ++ "=" ++ value).toList).map String.ofList

/-- A path as seen from the working directory. -/
def pathOf (m : Machine) (path : String) : String := Path.join m.directory path

end Machine

/-- A step of an evaluation. What it did to the state stays, however it ends. -/
abbrev Exec : Type → Type := ExceptT Exit (StateM Machine)

namespace Exec

/-- Raises an error in the innermost function. -/
def fail {α : Type} (f : Fault) : Exec α := do throw (.error ⟨f, (← get).function?⟩)

/-- The value of an operation, or its fault raised. -/
def ofExcept {α : Type} : Except Fault α → Exec α
  | .ok x => pure x
  | .error f => fail f

def print (channel : Channel) (text : String) : Exec Unit := modify (·.print channel text)

/-- Warns: not at all at a level below zero, at the end of the expression at level zero, at once at
level one, and by an error above. -/
def warn (text : String) : Exec Unit := do
  let m ← get
  let level := m.warnLevel
  if level < 0 then return ()
  else if level = 0 then
    let text := match m.function? with
      | some f => s!"In {f}() : {text}"
      | none => text
    set { m with warnings := m.warnings ++ [text] }
  else if level = 1 then
    match m.function? with
    | some f => print .error s!"Warning in {f}() : {text}\n"
    | none => print .error s!"Warning: {text}\n"
  else fail (.convertedWarning text)

/-- The value of an object; a closure has none. -/
def data : Object → Exec RValue
  | .data x => pure x
  | .closure _ _ => fail (.notSubsettable "closure")

end Exec

end ScriptBridge
