import ScriptBridge.Error
import ScriptBridge.Machine.Eval
import ScriptBridge.Syntax.Parser

/-!
# The interpreter

A program is read as a whole and then evaluated expression by expression. An error ends it: the
error is printed, the handler that the option `error` names is called, and the program fails with
the text that was printed.

- `Machine.evalText`: runs a program and yields the value of its last expression.
- `Machine.assign`, `Machine.readGlobal?`, `Machine.remove`: the host's access to global variables.
-/

namespace ScriptBridge.Machine

/-! ## Errors -/

/-- Calls the error handler, unless it is the handler that failed. An error of the handler is
printed and has no further effect. -/
def callErrorHandler : StateM Machine Unit := do
  let m ← get
  match m.handling, m.options.get? "error" with
  | false, some (.closure params body) =>
    set { m with handling := true }
    match ← Call.perform maxFrames ⟨"", params, body, []⟩ with
    | .error (.error c) => modify (·.print .error s!"Error during wrapup: {c.fault.message}\n")
    | _ => pure ()
    modify fun m => { m with frames := [], handling := false }
  | _, _ => return ()

/-- Prints an error and calls the error handler; yields the printed text without the end of its
line. -/
def reportError (c : Condition) : StateM Machine String := do
  modify fun m => { m.print .error c.text with frames := [], lastError := c.text }
  callErrorHandler
  return String.ofList (Text.trimEnd c.text.toList)

/-! ## Programs -/

/-- Evaluates one expression of a program; the warnings that wait are printed at its end. -/
def evalExpr (e : Expr) : StateM Machine (Except String Object) := do
  modify fun m => { m with frames := [] }
  match ← e.eval with
  | .ok x =>
    modify flushWarnings
    return .ok x
  | .error exit =>
    let text ← reportError exit.condition
    modify flushWarnings
    return .error text

/-- Evaluates the expressions of a program up to the first that fails, and yields the value of the
last one, `last` for none. -/
def evalProgram (last : Object) : List Expr → StateM Machine (Except String Object)
  | [] => return .ok last
  | e :: rest => do
    match ← evalExpr e with
    | .ok x => evalProgram x rest
    | .error text => return .error text

/-- Runs a program. Nothing of it is evaluated if it cannot be read. -/
def evalText (source : String) : StateM Machine (Except BackendError RValue) := do
  match Expr.readProgram source with
  | .error e => return .error (.parse e.message)
  | .ok program =>
    match ← evalProgram Object.null program with
    | .ok x => return .ok x.readBack
    | .error text => return .error (.evaluation text)

/-! ## Global variables -/

def assign (m : Machine) (name : String) (x : RValue) : Machine :=
  { m with globals := m.globals.insert name (.data x) }

def readGlobal? (m : Machine) (name : String) : Option RValue :=
  (m.globals.get? name).map Object.readBack

def remove (m : Machine) (name : String) : Machine := { m with globals := m.globals.erase name }

end ScriptBridge.Machine
