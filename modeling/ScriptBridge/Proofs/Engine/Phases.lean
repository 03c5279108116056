import ScriptBridge.Engine
import ScriptBridge.Proofs.Bindings
import ScriptBridge.Proofs.Steps

/-!
# The phases of a run

A run binds, evaluates the script, reads back and cleans up. `bind_eq` takes binding apart into one
step for each kind of binding. `Run` is a run with all it starts from; the session it is in after
each phase, and what it learns there, have names (`bound`, `answer`, `stop?`, `resultAnswer`, …).
`Run.eval_eq` puts `Engine.evalScript` together from them, so that a property of a run is one of its
phases.

What a backend answers is arbitrary here, and so is what it prints.
-/

namespace ScriptBridge.Engine

open Steps

variable {σ : Type}

/-! ### Binding, one kind of binding after the other -/

variable (e : Engine σ) (err : Nat) (bs : Bindings)

def bindArguments : Step σ Unit :=
  match bs.arguments? with
  | some args => e.assign err "args" (.strings args)
  | none => pure ()

def bindResults : Step σ Unit :=
  match bs.results? with
  | some results => do
    let entries ← results.mapM (taskResult err)
    e.assign err "results" (.namedList entries)
  | none => pure ()

def bindProgress : Step σ Unit :=
  if bs.progress?.isSome then e.exec err "unable to define set_progress" progressProgram
  else pure ()

def bindMap : Step σ Unit :=
  match bs.variables? with
  | some map => e.bindVariables err map
  | none => pure ()

theorem bind_eq : e.bind err bs = (do
    e.clear err
    e.exec err "unable to set the warning level" (warnProgram e.config.warnLevel)
    e.exec err "unable to install the stop handler" stopProgram
    e.bindArguments err bs
    e.bindResults err bs
    e.bindProgress err bs
    spaceNames.forM (e.bindSpace err bs)
    e.bindMap err bs) := by
  unfold bind bindArguments bindResults bindProgress bindMap
  cases bs.arguments? <;> cases bs.results? <;> cases bs.progress? <;> rfl

/-! ### Evaluation and readback, on any session -/

variable (script : String) (s : Session σ)

/-- The value other than null that an answer to `get` converts to. -/
def valueOf? (answer : Except BackendError (Option RValue)) : Option Value :=
  answer.toOption.join.bind fun x => x.toValue.toOption.bind notNull?

theorem notNull?_eq_some {v w : Value} : notNull? v = some w ↔ v = w ∧ w ≠ .null := by
  cases v <;> simp +contextual [notNull?, Value.isNull, eq_comm]

theorem evaluate_fst : (e.evaluate err script s).1 = (call (e.backend.eval script) s).1 := by
  simp only [evaluate, bind_apply]
  rcases (call (e.backend.eval script) s).1 with (_ | _) | _ <;> rfl

theorem evaluate_router :
    (e.evaluate err script s).2.router = (call (e.backend.eval script) s).2.router := by
  simp only [evaluate, bind_apply]
  rcases (call (e.backend.eval script) s).1 with (_ | _) | _ <;> rfl

theorem evaluate_state :
    (e.evaluate err script s).2.state = (call (e.backend.eval script) s).2.state := by
  simp only [evaluate, bind_apply]
  rcases (call (e.backend.eval script) s).1 with (_ | _) | _ <;> rfl

theorem readResult_fst :
    (e.readResult err s).1 = valueOf? (call (e.backend.get "result") s).1 := by
  simp only [readResult, bind_apply]
  rcases (call (e.backend.get "result") s).1 with _ | _ | x
  · rfl
  · rfl
  · simp only [valueOf?, Except.toOption, Option.join_some, Option.bind_some]
    cases x.toValue <;> rfl

theorem readSelected_fst :
    (e.readSelected s).1 = valueOf? (call (e.backend.get "selected") s).1 := by
  simp only [readSelected, bind_apply]
  rcases (call (e.backend.get "selected") s).1 with _ | _ | x <;> rfl

/-! ### Runs -/

/-- A run of an engine, with all it starts from. -/
structure Run (σ : Type) where
  engine : Engine σ
  script : String
  bindings : Bindings
  out : Nat
  err : Nat
  start : Session σ

namespace Run

variable (r : Run σ)

/-- What the run yields, and the session after it. -/
def eval : (Except ScriptError Value × Option Context) × Session σ :=
  r.engine.evalScript r.script (some ⟨some r.bindings, r.out, r.err⟩) r.start

def outcome : Except ScriptError Value := r.eval.1.1

/-- The session with the run attached. -/
def begun : Session σ :=
  { r.start with router := r.start.router.beginRun ⟨r.out, r.err, r.bindings.progress?⟩ }

/-- The session in which the script is evaluated. -/
def bound : Session σ := (r.engine.bind r.err r.bindings r.begun).2

/-- The call that evaluates the script. -/
def scriptCall : Except BackendError RValue × Session σ :=
  call (r.engine.backend.eval r.script) r.bound

/-- What the backend answers to the script. -/
def answer : Except BackendError RValue := r.scriptCall.1

/-- The stop message just after the script. -/
def stop? : Option String := r.scriptCall.2.router.stopMessage

/-- The session in which the result is read. -/
def evaluated : Session σ := (r.engine.evaluate r.err r.script r.bound).2

/-- What the backend answers when the result is read. -/
def resultAnswer : Except BackendError (Option RValue) :=
  (call (r.engine.backend.get "result") r.evaluated).1

/-- The session in which the selection is read. -/
def resultRead : Session σ := (r.engine.readResult r.err r.evaluated).2

def selectedAnswer : Except BackendError (Option RValue) :=
  (call (r.engine.backend.get "selected") r.resultRead).1

/-- The session in which the job variables are read. -/
def selectedRead : Session σ := (r.engine.readSelected r.resultRead).2

def variablesAnswer : Except BackendError (Option RValue) :=
  (call (r.engine.backend.get "variables") r.selectedRead).1

/-- The session in which the run cleans up. -/
def reconciled : Session σ :=
  match r.bindings.variables? with
  | some map => (r.engine.mergeVariables r.err map r.selectedRead).2
  | none => r.selectedRead

/-- The script has left `v` as its result. -/
def Left (v : Value) : Prop :=
  ∃ x, r.resultAnswer = .ok (some x) ∧ x.toValue = .ok v ∧ v ≠ .null

/-- The value of the script is `v`. -/
def Yields (v : Value) : Prop := ∃ x, r.answer = .ok x ∧ x.toValue = .ok v ∧ v ≠ .null

def result : Value := ((valueOf? r.resultAnswer).or (scriptValue? r.answer)).getD (.bool true)

def withResult : Bindings := r.bindings.put Bindings.resultName (.value r.result)

def finalBindings : Bindings :=
  match valueOf? r.selectedAnswer with
  | some v => r.withResult.put Bindings.selectedName (.value v)
  | none => r.withResult

variable {r}

theorem valueOf?_resultAnswer {v : Value} : valueOf? r.resultAnswer = some v ↔ r.Left v := by
  rcases h : r.resultAnswer with _ | _ | x <;>
    simp [Left, h, valueOf?, Except.toOption]
  cases x.toValue <;> simp [notNull?_eq_some]

theorem scriptValue?_answer {v : Value} : scriptValue? r.answer = some v ↔ r.Yields v := by
  rcases h : r.answer with _ | x <;> simp [Yields, h, scriptValue?, Except.toOption]
  cases x.toValue <;> simp [notNull?_eq_some]

theorem variables?_finalBindings : r.finalBindings.variables? = r.bindings.variables? := by
  have h : r.withResult.variables? = r.bindings.variables? :=
    Bindings.variables?_put_of_ne (by decide)
  unfold finalBindings
  split
  · rw [Bindings.variables?_put_of_ne (by decide), h]
  · exact h

theorem reconcile_eq : r.engine.reconcile r.err r.bindings r.answer r.evaluated =
    (((valueOf? r.resultAnswer).isSome, r.finalBindings), r.reconciled) := by
  have h := r.variables?_finalBindings
  simp only [finalBindings, withResult, result, resultAnswer, selectedAnswer, resultRead,
    reconciled, selectedRead] at h ⊢
  simp only [reconcile, bind_apply, readResult_fst, readSelected_fst]
  generalize valueOf? (call (r.engine.backend.get "selected") _).1 = selection? at h ⊢
  cases selection? <;> simp only at h ⊢ <;> rw [h] <;> cases r.bindings.variables? <;> rfl

theorem eval_eq : r.eval =
    ((Engine.outcome r.stop? r.answer (valueOf? r.resultAnswer).isSome r.finalBindings,
      some ⟨some r.finalBindings, r.out, r.err⟩),
      { (r.engine.cleanup r.err r.reconciled).2 with
        router := (r.engine.cleanup r.err r.reconciled).2.router.endRun }) := by
  have h := r.reconcile_eq
  simp only [answer, scriptCall, evaluated, bound, begun] at h
  simp only [eval, evalScript, run, bind_apply, modify_apply, get_apply, pure_apply, evaluate_fst,
    evaluate_router, h, stop?, answer, scriptCall, bound, begun]

theorem eval_context : r.eval.1.2 = some ⟨some r.finalBindings, r.out, r.err⟩ := by
  rw [eval_eq]

end Run

end ScriptBridge.Engine
