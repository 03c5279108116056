import ScriptBridge.Machine.Program
import ScriptBridge.Proofs.Except
import ScriptBridge.Proofs.Machine.Keeps
import ScriptBridge.Proofs.Steps

/-!
# How programs end

An expression of a program ends with a value (`evalExpr_of_ok`) or with an error that is printed and
handled (`evalExpr_of_error`). `FailsAt program m c m'` says that a program started in `m` fails:
the condition `c` reaches top level in the state `m'`. A program yields an error exactly if it fails
in this sense (`exists_failsAt`), and then with the printed text (`evalText_of_failsAt`).

No error handler is running between the expressions of a program (`handling_evalText`), hence in
no state that is `Reached` from the outside.
-/

namespace ScriptBridge.Machine

open Steps (bind_apply pure_apply get_apply set_apply modify_apply)

/-- The program, started in `m`, ends in an error: the condition `c` reaches top level in the state
`m'`. -/
inductive FailsAt : List Expr → Machine → Condition → Machine → Prop
  | here {e : Expr} {rest : List Expr} {m m' : Machine} {exit : Exit}
      (h : e.eval { m with frames := [] } = (.error exit, m')) :
      FailsAt (e :: rest) m exit.condition m'
  | later {e : Expr} {rest : List Expr} {m m₁ m' : Machine} {x : Object} {c : Condition}
      (h : e.eval { m with frames := [] } = (.ok x, m₁))
      (tail : FailsAt rest m₁.flushWarnings c m') : FailsAt (e :: rest) m c m'

/-- The state of an interpreter after any uses by its host. What is printed is taken away, and files
and environment may change, between the uses. -/
inductive Reached : Machine → Prop
  | create (files : Files) (environment : Dict String) : Reached (create files environment)
  | evalText {m : Machine} (source : String) (h : Reached m) : Reached (evalText source m).2
  | assign {m : Machine} (name : String) (x : RValue) (h : Reached m) : Reached (m.assign name x)
  | remove {m : Machine} (name : String) (h : Reached m) : Reached (m.remove name)
  | outside {m : Machine} (console : List Chunk) (files : Files) (environment : Dict String)
      (h : Reached m) : Reached { m with console, files, environment }

variable {m m' m₁ : Machine} {e : Expr} {x : Object} {exit : Exit} {source : String}
  {program rest : List Expr} {c : Condition} {last : Object}

/-! ### Warnings that wait -/

@[simp] theorem flushWarnings_globals : m.flushWarnings.globals = m.globals := by
  unfold flushWarnings
  split <;> rfl

@[simp] theorem flushWarnings_options : m.flushWarnings.options = m.options := by
  unfold flushWarnings
  split <;> rfl

@[simp] theorem flushWarnings_files : m.flushWarnings.files = m.files := by
  unfold flushWarnings
  split <;> rfl

@[simp] theorem flushWarnings_handling : m.flushWarnings.handling = m.handling := by
  unfold flushWarnings
  split <;> rfl

/-! ### Single expressions -/

theorem evalExpr_of_ok (h : e.eval { m with frames := [] } = (.ok x, m')) :
    evalExpr e m = (.ok x, m'.flushWarnings) := by
  simp only [evalExpr, bind_apply, modify_apply, h]
  rfl

theorem evalExpr_of_error (h : e.eval { m with frames := [] } = (.error exit, m')) :
    evalExpr e m = (.error (reportError exit.condition m').1,
      (reportError exit.condition m').2.flushWarnings) := by
  simp only [evalExpr, bind_apply, modify_apply, h]
  rfl

/-! ### Programs -/

theorem evalProgram_cons_of_ok (h : e.eval { m with frames := [] } = (.ok x, m')) :
    evalProgram last (e :: rest) m = evalProgram x rest m'.flushWarnings := by
  simp only [evalProgram, bind_apply, evalExpr_of_ok h]

theorem evalProgram_cons_of_error (h : e.eval { m with frames := [] } = (.error exit, m')) :
    evalProgram last (e :: rest) m = (.error (reportError exit.condition m').1,
      (reportError exit.condition m').2.flushWarnings) := by
  simp only [evalProgram, bind_apply, evalExpr_of_error h]
  rfl

theorem evalProgram_of_failsAt (h : FailsAt program m c m') :
    evalProgram last program m =
      (.error (reportError c m').1, (reportError c m').2.flushWarnings) := by
  induction h generalizing last with
  | here h => exact evalProgram_cons_of_error h
  | later h _ ih => rw [evalProgram_cons_of_ok h, ih]

theorem exists_failsAt {text : String} (h : (evalProgram last program m).1 = .error text) :
    ∃ c m', FailsAt program m c m' := by
  induction program generalizing m last with
  | nil => cases h
  | cons e rest ih =>
    rcases he : e.eval { m with frames := [] } with ⟨exit | x, m₁⟩
    · exact ⟨_, m₁, .here he⟩
    · rw [evalProgram_cons_of_ok he] at h
      obtain ⟨c, m', htail⟩ := ih h
      exact ⟨c, m', .later he htail⟩

/-! ### Texts -/

theorem evalText_of_read (h : Expr.readProgram source = .ok program) :
    evalText source m =
      (((evalProgram Object.null program m).1.mapError BackendError.evaluation).map Object.readBack,
        (evalProgram Object.null program m).2) := by
  simp only [evalText, h, bind_apply]
  cases (evalProgram Object.null program m).1 <;> rfl

theorem evalText_of_failsAt (hread : Expr.readProgram source = .ok program)
    (h : FailsAt program m c m') : evalText source m =
      (.error (.evaluation (reportError c m').1), (reportError c m').2.flushWarnings) := by
  rw [evalText_of_read hread, evalProgram_of_failsAt h]
  rfl

theorem evalText_of_ok (hread : Expr.readProgram source = .ok [e])
    (h : e.eval { m with frames := [] } = (.ok x, m')) :
    evalText source m = (.ok x.readBack, m'.flushWarnings) := by
  rw [evalText_of_read hread, evalProgram_cons_of_ok h]
  rfl

/-! ### The error handler -/

/-- Either the error handler is not called, or the state is the one that its call has left, with
what is printed if the call fails, and without frames and the mark of a running handler. -/
theorem callErrorHandler_cases (m : Machine) :
    (callErrorHandler m).2 = m ∨
      ∃ params body, m.handling = false ∧ m.options.get? "error" = some (.closure params body) ∧
        let called := (Call.perform maxFrames ⟨"", params, body, []⟩ { m with handling := true }).2
        (callErrorHandler m).2 = { called with frames := [], handling := false } ∨
          ∃ text, (callErrorHandler m).2 =
            { called.print .error text with frames := [], handling := false } := by
  cases hhandling : m.handling with
  | true =>
    left
    simp only [callErrorHandler, bind_apply, get_apply, hhandling]
    rfl
  | false =>
    rcases hoption : m.options.get? "error" with _ | x | ⟨params, body⟩
    · left
      simp only [callErrorHandler, bind_apply, get_apply, hhandling, hoption]
      rfl
    · left
      simp only [callErrorHandler, bind_apply, get_apply, hhandling, hoption]
      rfl
    · right
      refine ⟨params, body, rfl, rfl, ?_⟩
      simp only [callErrorHandler, bind_apply, get_apply, set_apply, hhandling, hoption]
      rcases Call.perform maxFrames ⟨"", params, body, []⟩ { m with handling := true } with
        ⟨(c | v) | x, m'⟩
      · exact .inr ⟨_, rfl⟩
      · exact .inl rfl
      · exact .inl rfl

/-! ### No handler runs between expressions -/

theorem handling_callErrorHandler (h : m.handling = false) :
    (callErrorHandler m).2.handling = false := by
  obtain hm | ⟨params, body, -, -, hcalled | ⟨text, hcalled⟩⟩ := callErrorHandler_cases m
  · rw [hm]
    exact h
  · rw [hcalled]
  · rw [hcalled]

theorem handling_reportError (h : m.handling = false) :
    (reportError c m).2.handling = false :=
  @handling_callErrorHandler { m.print .error c.text with frames := [], lastError := c.text } h

theorem handling_evalProgram (h : m.handling = false) :
    (evalProgram last program m).2.handling = false := by
  induction program generalizing m last with
  | nil => exact h
  | cons e rest ih =>
    have heval := e.keeps_eval (stable_handling false) { m with frames := [] } h
    rcases he : e.eval { m with frames := [] } with ⟨exit | x, m₁⟩
    · rw [he] at heval
      rw [evalProgram_cons_of_error he, flushWarnings_handling]
      exact handling_reportError heval
    · rw [he] at heval
      rw [evalProgram_cons_of_ok he]
      exact ih (flushWarnings_handling.trans heval)

theorem FailsAt.handling (h : FailsAt program m c m') (hm : m.handling = false) :
    m'.handling = false := by
  induction h with
  | @here e _ m m' _ he =>
    have heval := e.keeps_eval (stable_handling false) { m with frames := [] } hm
    rwa [he] at heval
  | @later e _ m m₁ _ _ _ he _ ih =>
    have heval := e.keeps_eval (stable_handling false) { m with frames := [] } hm
    rw [he] at heval
    exact ih (flushWarnings_handling.trans heval)

theorem handling_evalText (h : m.handling = false) : (evalText source m).2.handling = false := by
  cases hread : Expr.readProgram source with
  | error problem =>
    rw [evalText, hread]
    exact h
  | ok program =>
    rw [evalText_of_read hread]
    exact handling_evalProgram h

theorem Reached.handling (h : Reached m) : m.handling = false := by
  induction h with
  | create => rfl
  | evalText source _ ih => exact handling_evalText ih
  | assign _ _ _ ih => exact ih
  | remove _ _ ih => exact ih
  | outside _ _ _ _ ih => exact ih

end ScriptBridge.Machine
