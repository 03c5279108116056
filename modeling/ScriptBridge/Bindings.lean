import ScriptBridge.Host
import ScriptBridge.Space

/-!
# Bindings

The named objects that a host hands to one execution, in the order in which they were first
inserted: values, arguments, results of earlier tasks, job variables, a progress sink and data
spaces. The engine leaves the script's result among them.
-/

namespace ScriptBridge

/-- The result of an earlier task: a value, or the reason why there is none. -/
structure TaskResult where
  taskName : String
  outcome : Except String Value

inductive Binding where
  | value (v : Value)
  | arguments (args : List String)
  | results (results : List TaskResult)
  /-- A map of job variables, by its index. -/
  | variableMap (map : Nat)
  /-- A progress sink, by its index. -/
  | progress (sink : Nat)
  | space (s : Space)

/-- Named objects in insertion order. -/
structure Bindings where
  entries : List (String × Binding) := []
  deriving Inhabited

namespace Bindings

/-! ## Well-known names -/

def argumentsName : String := "args"
def resultsName : String := "results"
def variablesName : String := "variables"
def progressName : String := "progress"
def resultName : String := "result"
/-- The selection that a script makes for its successors. -/
def selectedName : String := "selected"
def localSpaceName : String := "localspace"
def userSpaceName : String := "user"
def globalSpaceName : String := "global"
def inputSpaceName : String := "input"
def outputSpaceName : String := "output"

/-! ## Operations -/

/-- Entries with `b` under `name`, and the binding that it replaces; a replaced binding keeps its
place, a new one goes last. -/
def insertEntry (name : String) (b : Binding) :
    List (String × Binding) → Option Binding × List (String × Binding)
  | [] => (none, [(name, b)])
  | (k, old) :: rest =>
    if k = name then (some old, (k, b) :: rest)
    else
      let (replaced, rest) := insertEntry name b rest
      (replaced, (k, old) :: rest)

def removeEntry (name : String) :
    List (String × Binding) → Option Binding × List (String × Binding)
  | [] => (none, [])
  | (k, b) :: rest =>
    if k = name then (some b, rest)
    else
      let (removed, rest) := removeEntry name rest
      (removed, (k, b) :: rest)

/-- The bindings with `b` under `name`, and the binding that it replaces. -/
def insert (bs : Bindings) (name : String) (b : Binding) : Option Binding × Bindings :=
  let (replaced, entries) := insertEntry name b bs.entries
  (replaced, ⟨entries⟩)

def put (bs : Bindings) (name : String) (b : Binding) : Bindings := (bs.insert name b).2

def remove (bs : Bindings) (name : String) : Option Binding × Bindings :=
  let (removed, entries) := removeEntry name bs.entries
  (removed, ⟨entries⟩)

def get? (bs : Bindings) (name : String) : Option Binding :=
  (bs.entries.find? (fun e => e.1 = name)).map (·.2)

def contains (bs : Bindings) (name : String) : Bool := (bs.get? name).isSome

def size (bs : Bindings) : Nat := bs.entries.length

def isEmpty (bs : Bindings) : Bool := bs.entries.isEmpty

/-! ## Well-known bindings -/

def withArguments (bs : Bindings) (args : List String) : Bindings :=
  bs.put argumentsName (.arguments args)

def withResults (bs : Bindings) (results : List TaskResult) : Bindings :=
  bs.put resultsName (.results results)

def withVariables (bs : Bindings) (map : Nat) : Bindings := bs.put variablesName (.variableMap map)

def withProgress (bs : Bindings) (sink : Nat) : Bindings := bs.put progressName (.progress sink)

def withSpace (bs : Bindings) (name : String) (s : Space) : Bindings := bs.put name (.space s)

def arguments? (bs : Bindings) : Option (List String) :=
  match bs.get? argumentsName with
  | some (.arguments args) => some args
  | _ => none

def results? (bs : Bindings) : Option (List TaskResult) :=
  match bs.get? resultsName with
  | some (.results results) => some results
  | _ => none

def variables? (bs : Bindings) : Option Nat :=
  match bs.get? variablesName with
  | some (.variableMap map) => some map
  | _ => none

def progress? (bs : Bindings) : Option Nat :=
  match bs.get? progressName with
  | some (.progress sink) => some sink
  | _ => none

def space? (bs : Bindings) (name : String) : Option Space :=
  match bs.get? name with
  | some (.space s) => some s
  | _ => none

def value? (bs : Bindings) (name : String) : Option Value :=
  match bs.get? name with
  | some (.value v) => some v
  | _ => none

end Bindings

end ScriptBridge
