import ScriptBridge.Bindings
import ScriptBridge.Conversion
import ScriptBridge.Config
import ScriptBridge.Console.Router
import ScriptBridge.Backend

/-!
# The engine

The engine runs a script for a task. It puts the task's bindings into global variables, has the
script evaluated, takes the result, the selection and the job variables back, and decides the
outcome: a stop signal fails the run; an error fails it unless the script has left a result of its
own. What goes wrong around the script is reported on the error writer and changes nothing else.

- `Engine.Session`: a backend's state with its router and the host's objects.
- `Engine.run`: one run.
- `Engine.evalScript`, `Engine.evalOctets`: a run in a context that may lack something.
-/

namespace ScriptBridge

/-- What one execution needs from the host. -/
structure Context where
  bindings : Option Bindings
  out : Nat
  err : Nat

/-- An engine on a backend. -/
structure Engine (σ : Type) where
  backend : Backend σ
  config : Config

namespace Engine

/-- An interpreter in use. -/
structure Session (σ : Type) where
  state : σ
  router : Router := {}
  host : Host := {}

/-- An interpreter before its first use. Unless the engine has a worker of its own, diagnostics are
echoed to a writer. -/
def Session.start {σ : Type} (config : Config) (state : σ) : Session σ :=
  if config.forked then { state }
  else
    let (echo, host) := ({} : Host).addWriter {}
    { state, router := { echo := some echo }, host }

abbrev Step (σ : Type) : Type → Type := StateM (Session σ)

/-! ## Names -/

/-- The global variables of the data spaces, each with the name of its binding. The local space
comes first. -/
def spaceNames : List (String × String) :=
  [(Bindings.localSpaceName, "localspace"), (Bindings.userSpaceName, "userspace"),
    (Bindings.globalSpaceName, "globalspace"), (Bindings.inputSpaceName, "inputspace"),
    (Bindings.outputSpaceName, "outputspace")]

/-- The global variables that no run takes over from the one before. -/
def runNames : List String :=
  ["result", "selected", "args", "results", "variables", "set_progress"] ++ spaceNames.map (·.2)

/-! ## Programs of the engine -/

def warnProgram (level : Int32) : String := s!"options(warn = {level.toInt})"

/-- Has the text of each error printed with the stop tag before it. -/
def stopProgram : String :=
  "options(error = function() cat(sprintf('" ++ stopTag ++
    "%s', geterrmessage()), sep = '', file = stderr()))"

/-- Defines the function by which a script reports its progress. -/
def progressProgram : String :=
  "set_progress = function(x) \x7b message('" ++ progressTag ++
    "=', as.integer(x), appendLF = FALSE) \x7d"

/-- A text as a constant of the script language. -/
def literal (s : String) : String :=
  let quote (c : Char) : List Char := if c = '\\' ∨ c = '\'' then ['\\', c] else [c]
  "'" ++ String.ofList (s.toList.flatMap quote) ++ "'"

def moveProgram (path : String) : String := "setwd(" ++ literal path ++ ")"

/-! ## Calls -/

variable {σ : Type}

/-- A call of the backend; what it prints goes through the router. -/
def call {α : Type} (f : σ → Reply α × σ) : Step σ (Except BackendError α) := fun s =>
  let (reply, state) := f s.state
  let (router, host) := s.router.writeAll reply.console s.host
  (reply.answer, { state, router, host })

/-- Writes what went wrong to the error writer. -/
def report (err : Nat) (what problem : String) : Step σ Unit :=
  modify fun s => { s with host := s.host.write err (what ++ ": " ++ problem ++ "\n") }

/-- A call whose value nobody needs; its error is reported. -/
def attempt {α : Type} (err : Nat) (what : String) (f : σ → Reply α × σ) : Step σ Unit := do
  match ← call f with
  | .ok _ => return ()
  | .error e => report err what e.report

def exec (e : Engine σ) (err : Nat) (what program : String) : Step σ Unit :=
  attempt err what (e.backend.eval program)

def assign (e : Engine σ) (err : Nat) (name : String) (x : RValue) : Step σ Unit :=
  attempt err s!"unable to set '{name}'" (e.backend.assign name x)

/-! ## Bindings into the script -/

/-- Clears what an earlier run may have left. -/
def clear (e : Engine σ) (err : Nat) : Step σ Unit :=
  runNames.forM fun name => attempt err s!"unable to clear '{name}'" (e.backend.remove name)

/-- The result of an earlier task as a script value, null if there is none. -/
def taskResult (err : Nat) (r : TaskResult) : Step σ (String × RValue) := do
  match r.outcome.map Value.toRValue with
  | .ok (.ok x) => return (r.taskName, x)
  | .ok (.error e) =>
    report err s!"unable to convert the result of '{r.taskName}'" e.report
    return (r.taskName, .null)
  | .error _ => return (r.taskName, .null)

/-- The path of a data space: the local path that its URI names, or the URI if there is none. -/
def spacePath (files : Files) (space : Space) : String :=
  match (Space.path? space.uri).bind files.canonical? with
  | some path => Space.scriptPath path
  | none => space.uri

/-- Sets the variable of a data space. The script is moved to a local space that can be written
to. -/
def bindSpace (e : Engine σ) (err : Nat) (bindings : Bindings) (names : String × String) :
    Step σ Unit := do
  match bindings.space? names.1 with
  | none => return ()
  | some space =>
    let path := spacePath (e.backend.files (← get).state) space
    e.assign err names.2 (.string path)
    let files := e.backend.files (← get).state
    if names.1 = Bindings.localSpaceName ∧ files.isWritableDirectory path then
      e.exec err "unable to move to the local space" (moveProgram path)

def bindVariables (e : Engine σ) (err : Nat) (map : Nat) : Step σ Unit := do
  match (Value.map ((← get).host.entries map)).toRValue with
  | .ok x => e.assign err "variables" x
  | .error problem => report err "unable to convert 'variables'" problem.report

/-- Puts the bindings into global variables. -/
def bind (e : Engine σ) (err : Nat) (bindings : Bindings) : Step σ Unit := do
  e.clear err
  e.exec err "unable to set the warning level" (warnProgram e.config.warnLevel)
  e.exec err "unable to install the stop handler" stopProgram
  match bindings.arguments? with
  | some args => e.assign err "args" (.strings args)
  | none => pure ()
  match bindings.results? with
  | some results =>
    let entries ← results.mapM (taskResult err)
    e.assign err "results" (.namedList entries)
  | none => pure ()
  if bindings.progress?.isSome then
    e.exec err "unable to define set_progress" progressProgram
  spaceNames.forM (e.bindSpace err bindings)
  match bindings.variables? with
  | some map => e.bindVariables err map
  | none => pure ()

/-! ## The script -/

/-- Evaluates the script. An error that the interpreter has printed itself is not reported. -/
def evaluate (e : Engine σ) (err : Nat) (script : String) :
    Step σ (Except BackendError RValue) := do
  let evaluated ← call (e.backend.eval script)
  match evaluated with
  | .ok _ | .error (.evaluation _) => return evaluated
  | .error problem =>
    report err "unable to evaluate the script" problem.report
    return evaluated

/-! ## Back into the bindings -/

def notNull? (v : Value) : Option Value := if v.isNull then none else some v

def readResult (e : Engine σ) (err : Nat) : Step σ (Option Value) := do
  match ← call (e.backend.get "result") with
  | .ok (some x) =>
    match x.toValue with
    | .ok v => return notNull? v
    | .error problem =>
      report err "unable to convert 'result'" problem.report
      return none
  | .ok none => return none
  | .error problem =>
    report err "unable to read 'result'" problem.report
    return none

/-- The selection that the script has left; one that cannot be read counts as none. -/
def readSelected (e : Engine σ) : Step σ (Option Value) := do
  match ← call (e.backend.get "selected") with
  | .ok (some x) => return x.toValue.toOption.bind notNull?
  | _ => return none

/-- Lays the job variables that the script has left over those of the host. -/
def mergeVariables (e : Engine σ) (err map : Nat) : Step σ Unit := do
  match ← call (e.backend.get "variables") with
  | .ok (some x) =>
    match x.toMap with
    | .ok entries => modify fun s => { s with host := s.host.mergeVariables map entries }
    | .error problem => report err "unable to read back 'variables'" problem.report
  | .ok none => return ()
  | .error problem => report err "unable to read back 'variables'" problem.report

/-- The value of the script, if it has one that the host can take. -/
def scriptValue? (evaluated : Except BackendError RValue) : Option Value :=
  evaluated.toOption.bind fun x => x.toValue.toOption.bind notNull?

/-- Puts result and selection into the bindings and merges the job variables. Yields whether the
script has left a result of its own. -/
def reconcile (e : Engine σ) (err : Nat) (bindings : Bindings)
    (evaluated : Except BackendError RValue) : Step σ (Bool × Bindings) := do
  let explicit ← e.readResult err
  let result := (explicit.or (scriptValue? evaluated)).getD (.bool true)
  let bindings := bindings.put Bindings.resultName (.value result)
  let bindings := match ← e.readSelected with
    | some v => bindings.put Bindings.selectedName (.value v)
    | none => bindings
  match bindings.variables? with
  | some map => e.mergeVariables err map
  | none => pure ()
  return (explicit.isSome, bindings)

/-! ## Runs -/

/-- The outcome of a run: the stop message, else the error of a script without a result of its own,
else the result. -/
def outcome (stop : Option String) (evaluated : Except BackendError RValue) (explicit : Bool)
    (bindings : Bindings) : Except ScriptError Value :=
  match stop, evaluated, explicit with
  | some text, _, _ => .error (.stopped text)
  | none, .error (.evaluation text), false => .error (.evaluation text)
  | none, .error problem, false => .error (.evaluation problem.message)
  | none, _, _ => .ok ((bindings.value? Bindings.resultName).getD (.bool true))

/-- Moves back to the directory in which runs start. -/
def cleanup (e : Engine σ) (err : Nat) : Step σ Unit :=
  e.exec err "unable to reset the working directory"
    (moveProgram (Space.scriptPath e.config.safeDir))

/-- Runs a script with bindings, and writers for output and errors. -/
def run (e : Engine σ) (script : String) (bindings : Bindings) (out err : Nat) :
    Step σ (Except ScriptError Value × Bindings) := do
  let attachment := { out, err, progress := bindings.progress? }
  modify fun s => { s with router := s.router.beginRun attachment }
  e.bind err bindings
  let evaluated ← e.evaluate err script
  let stop := (← get).router.stopMessage
  let (explicit, bindings) ← e.reconcile err bindings evaluated
  e.cleanup err
  modify fun s => { s with router := s.router.endRun }
  return (outcome stop evaluated explicit bindings, bindings)

/-- Runs a script in a context; its bindings are changed, whatever the outcome. -/
def evalScript (e : Engine σ) (script : String) (context : Option Context) :
    Step σ (Except ScriptError Value × Option Context) := do
  match context with
  | none => return (.error .missingContext, none)
  | some c =>
    match c.bindings with
    | none => return (.error .missingBindings, some c)
    | some bindings =>
      let (result, bindings) ← e.run script bindings c.out c.err
      return (result, some { c with bindings := some bindings })

/-- Runs a script that is read first, from octets or from a source that fails with a reason. -/
def evalOctets (e : Engine σ) (source : Except String (List UInt8)) (context : Option Context) :
    Step σ (Except ScriptError Value × Option Context) := do
  match source with
  | .error reason => return (.error (.unreadable reason), context)
  | .ok octets =>
    match Utf8.read? octets with
    | some script => e.evalScript script context
    | none => return (.error (.unreadable FileError.notText.message), context)

end Engine

end ScriptBridge
