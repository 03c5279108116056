/-!
# Errors

One type for each place where something can go wrong, by cause, with the wording in `message`.

- `ConversionError`: a value without a counterpart on the other side.
- `BackendError`: what a backend answers to a call that fails.
- `InitError`: an interpreter that cannot be had.
- `ScriptError`: what the host gets for a script that did not succeed.
-/

namespace ScriptBridge

/-- A value that cannot be carried over. -/
inductive ConversionError where
  /-- Integers of scripts have 32 bits, and the least of them stands for `NA`. -/
  | integerOutOfRange (n : Int64)
  /-- A script value of a type without a counterpart. -/
  | unsupported (typeName : String)
  /-- A map with an empty key; an empty name would read back as a position. -/
  | emptyKey
  /-- A value of another type where a named list is needed. -/
  | notAMap (typeName : String)
  /-- An entry that cannot be carried over. -/
  | entry (key : String) (cause : ConversionError)
  deriving DecidableEq, Inhabited

namespace ConversionError

/-- The error as text, the cause of an entry's error included. -/
def message : ConversionError → String
  | integerOutOfRange n => s!"integer {n.toInt} does not fit in an R integer"
  | unsupported t => s!"unsupported R type '{t}'"
  | emptyKey => "map keys must not be empty"
  | notAMap t => s!"expected a named list, found R type '{t}'"
  | entry key cause => s!"entry '{key}': {cause.message}"

/-- What lies under an error, the nearest cause first. -/
def causes : ConversionError → List ConversionError
  | entry _ cause => cause :: cause.causes
  | _ => []

/-- The error and its causes, one a line. -/
def report (e : ConversionError) : String :=
  e.message ++ String.join (e.causes.map fun c => "\n  caused by: " ++ c.message)

end ConversionError

/-- What a backend answers to a call that fails. -/
inductive BackendError where
  | parse (text : String)
  | evaluation (text : String)
  /-- The backend refused the call itself. -/
  | native (text : String)
  | conversion (e : ConversionError)
  deriving DecidableEq, Inhabited

namespace BackendError

def message : BackendError → String
  | parse text => "parse error: " ++ text
  | evaluation text => "evaluation error: " ++ text
  | native text => "native runtime error: " ++ text
  | conversion e => e.message

def report : BackendError → String
  | conversion e => e.report
  | e => e.message

end BackendError

/-- An interpreter that cannot be had. -/
inductive InitError where
  /-- No backend is built in. -/
  | notAvailable (reason : String)
  /-- The installation cannot be found. -/
  | homeNotFound
  /-- The backend was found and refused to start. -/
  | startup (reason : String)
  deriving DecidableEq, Inhabited

def InitError.message : InitError → String
  | notAvailable reason => "no R runtime available: " ++ reason
  | homeNotFound => "unable to locate the R installation (set R_HOME)"
  | startup reason => "unable to start the R runtime: " ++ reason

/-- What the host gets for a script that did not succeed. -/
inductive ScriptError where
  /-- No context was given. -/
  | missingContext
  /-- The context has no bindings. -/
  | missingBindings
  /-- The script stopped itself; the text is the one it printed. -/
  | stopped (text : String)
  /-- The script failed without leaving a result. -/
  | evaluation (text : String)
  /-- The script could not be read. -/
  | unreadable (reason : String)
  /-- There is no interpreter. -/
  | init (e : InitError)
  deriving DecidableEq, Inhabited

def ScriptError.message : ScriptError → String
  | missingContext => "No script context specified"
  | missingBindings => "No bindings specified in the script context"
  | stopped text => text
  | evaluation text => text
  | unreadable reason => "Unable to read script: " ++ reason
  | init e => e.message

end ScriptBridge
