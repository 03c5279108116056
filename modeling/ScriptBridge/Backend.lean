import ScriptBridge.Machine.Program

/-!
# Backends

A backend is an interpreter as the engine sees it: it runs programs and reads and writes global
variables. Each call yields an answer, what was printed meanwhile, and the next state. The
interpreter of this library is one backend; another is a backend some of whose calls are answered
for it.

- `Backend`: the calls on a state.
- `Machine.backend`: the interpreter as a backend.
- `Backend.intercept`: a backend with calls that it does not get to see.
-/

namespace ScriptBridge

/-- What a backend answers to a call, and what it printed meanwhile. -/
structure Reply (α : Type) where
  answer : Except BackendError α
  console : List Chunk := []

/-- The calls of an interpreter on a state. -/
structure Backend (σ : Type) where
  /-- Runs a program and yields the value of its last expression. -/
  eval : String → σ → Reply RValue × σ
  /-- Sets a global variable. -/
  assign : String → RValue → σ → Reply Unit × σ
  /-- Reads a global variable, if there is one. -/
  get : String → σ → Reply (Option RValue) × σ
  /-- Removes a global variable, if there is one. -/
  remove : String → σ → Reply Unit × σ
  /-- The files as they are in a state. -/
  files : σ → Files

/-- The interpreter as a backend; what it prints is handed on with each answer. -/
def Machine.backend : Backend Machine where
  eval source m :=
    let (answer, m) := m.evalText source
    (⟨answer, m.console⟩, { m with console := [] })
  assign name x m := (⟨.ok (), []⟩, m.assign name x)
  get name m := (⟨.ok (m.readGlobal? name), []⟩, m)
  remove name m := (⟨.ok (), []⟩, m.remove name)
  files m := m.files

/-! ## Interception -/

/-- The calls by kind. -/
inductive CallKind where
  | eval
  | assign
  | get
  | remove
  deriving DecidableEq

/-- A rule by which calls are answered without the backend. -/
structure Interception where
  kind : CallKind
  /-- The start of a program, or the name of a variable. -/
  pattern : String
  /-- The value of programs and variables; a call without a value just succeeds. -/
  answer : Except BackendError RValue

/-- Whether a rule is for a call. -/
def Interception.isFor (kind : CallKind) (subject : String) (i : Interception) : Bool :=
  decide (i.kind = kind) &&
    if kind = .eval then i.pattern.toList.isPrefixOf subject.toList else i.pattern = subject

namespace Backend

variable {σ : Type}

/-- The answer that the first rule for a call gives. -/
def answer? (rules : List Interception) (kind : CallKind) (subject : String) :
    Option (Except BackendError RValue) :=
  (rules.find? (Interception.isFor kind subject)).map (·.answer)

/-- A call that rules may answer, on a state that stays as it is then. -/
def answered {α : Type} (given : Option (Except BackendError RValue)) (value : RValue → α)
    (call : σ → Reply α × σ) (s : σ) : Reply α × σ :=
  match given with
  | some answer => (⟨answer.map value, []⟩, s)
  | none => call s

/-- A backend that gets to see only the calls for which there is no rule. -/
def intercept (r : Backend σ) (rules : List Interception) : Backend σ where
  eval source := answered (answer? rules .eval source) id (r.eval source)
  assign name x := answered (answer? rules .assign name) (fun _ => ()) (r.assign name x)
  get name := answered (answer? rules .get name) some (r.get name)
  remove name := answered (answer? rules .remove name) (fun _ => ()) (r.remove name)
  files := r.files

end Backend

end ScriptBridge
