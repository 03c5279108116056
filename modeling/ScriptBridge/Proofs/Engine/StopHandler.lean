import ScriptBridge.Console.Signal
import ScriptBridge.Machine.Program
import ScriptBridge.Proofs.Engine.Programs
import ScriptBridge.Proofs.Machine.Exec
import ScriptBridge.Proofs.RValue.Format
import ScriptBridge.Proofs.Steps

/-!
# The stop handler at work

While no closure hides the built-in functions that the stop handler calls, it prints the stop tag
and the text of the last error, in one piece and whatever that text is, and leaves everything else
as it is (`callErrorHandler_stopHandler`). So the report of an error is the text of the error, and
the same text behind the stop tag (`reportError_stopHandler`).
-/

namespace ScriptBridge

open Exec

variable {m m₁ m₂ : Machine} {call : Caller} {c : Condition}

/-! ### Calls of built-in functions -/

/-- No closure among the globals hides the built-in function of a name. -/
def Machine.Unhidden (m : Machine) (n : String) : Prop :=
  ∀ params body, m.globals.get? n ≠ some (.closure params body)

namespace Expr

theorem evalWith_builtin {n : String} {args : List (Option String × Expr)}
    (h : ∀ params body, m.lookup? n ≠ some (.closure params body)) (hrm : n ≠ "rm") :
    (Expr.call (.name n) args).evalWith call m = (evalArgs call args >>= Builtin.call n) m := by
  rw [evalWith]
  simp only [name?, if_neg hrm]
  rw [bind_of_ok get_apply]
  rcases hobject : m.lookup? n with _ | x | ⟨params, body⟩
  · rfl
  · rfl
  · exact absurd hobject (h params body)

theorem evalArgs_nil : evalArgs call [] m = (.ok [], m) := rfl

theorem evalArgs_cons_of_ok {n : Option String} {e : Expr} {rest : List (Option String × Expr)}
    {x : Object} {xs : Builtin.Args} (he : e.evalWith call m = (.ok x, m₁))
    (hrest : evalArgs call rest m₁ = (.ok xs, m₂)) :
    evalArgs call ((n, e) :: rest) m = (.ok ((n, x) :: xs), m₂) := by
  rw [evalArgs, bind_of_ok he, bind_of_ok hrest]
  rfl

end Expr

/-! ### Calls of closures -/

namespace Call

variable {params : List (String × Option Expr)} {body : Expr} {room : Nat} {x : Object}

theorem bindDefaults_eq (h : ∀ p ∈ params, p.2 = none) :
    bindDefaults call params m = (.ok (), m) := by
  induction params with
  | nil => rfl
  | cons p params ih =>
    obtain ⟨name, default⟩ := p
    obtain rfl : default = none := h _ List.mem_cons_self
    exact ih fun p hp => h p (List.mem_cons_of_mem _ hp)

/-- A call of a closure without defaults, with room for a frame: its body is evaluated in a frame
with the arguments, and the frame is gone afterwards. -/
theorem perform_of_ok {name : String} {args : Builtin.Args} {vars : Dict Object}
    (hparams : ∀ p ∈ params, p.2 = none) (hargs : bindArgs (params.map (·.1)) args = .ok vars)
    (hbody : body.evalWith (perform room) { m with frames := ⟨name, vars⟩ :: m.frames } =
      (.ok x, m₁)) :
    perform (room + 1) ⟨name, params, body, args⟩ m =
      (.ok x, { m₁ with frames := m₁.frames.tail }) := by
  have hbound : (ofExcept (bindArgs (params.map (·.1)) args) : Exec (Dict Object)) m =
      (.ok vars, m) := by
    rw [hargs]
    rfl
  rw [perform, bind_of_ok hbound]
  change inFrame ⟨name, vars⟩ (bindDefaults (perform room) params >>= fun _ =>
    body.evalWith (perform room)) m = _
  rw [inFrame, bind_of_ok (bindDefaults_eq hparams), hbody]

end Call

/-! ### The body of the handler -/

namespace Engine

def stopNames : List String := ["cat", "sprintf", "geterrmessage", "stderr"]

theorem sprintf_stopTag (s : String) :
    RValue.sprintf ["<PARError> %s"] [.string s] = .ok (.string (stopTag ++ s)) := by
  have hfill : Format.fill "<PARError> %s" [.string s] = .ok (stopTag ++ s) :=
    Format.fillWith_text stopTag.toList (by decide) (by decide) s
  have hone : RValue.sprintf ["<PARError> %s"] [.string s] =
      (Format.fill "<PARError> %s" [.string s] >>= fun t => .ok [t]).map RValue.strings := rfl
  rw [hone, hfill]
  rfl

theorem evalWith_stopBody
    (h : ∀ n ∈ stopNames, ∀ params body, m.lookup? n ≠ some (.closure params body)) :
    stopBody.evalWith call m = (.ok Object.null, m.print .error (stopTag ++ m.lastError)) := by
  have hmessage : (Expr.call (.name "geterrmessage") []).evalWith call m =
      (.ok (.data (.string m.lastError)), m) := by
    rw [Expr.evalWith_builtin (h _ (by decide)) (by decide), bind_of_ok Expr.evalArgs_nil]
    rfl
  have htext : (Expr.call (.name "sprintf") [(none, .const (.string "<PARError> %s")),
      (none, .call (.name "geterrmessage") [])]).evalWith call m =
      (.ok (.data (.string (stopTag ++ m.lastError))), m) := by
    rw [Expr.evalWith_builtin (h _ (by decide)) (by decide), bind_of_ok <|
      Expr.evalArgs_cons_of_ok rfl (Expr.evalArgs_cons_of_ok hmessage Expr.evalArgs_nil)]
    change Builtin.yields (ofExcept (RValue.sprintf ["<PARError> %s"] [.string m.lastError])) m = _
    rw [sprintf_stopTag]
    rfl
  have hstderr : (Expr.call (.name "stderr") []).evalWith call m =
      (.ok (.data (.ofInt32 Builtin.errorConnection)), m) := by
    rw [Expr.evalWith_builtin (h _ (by decide)) (by decide), bind_of_ok Expr.evalArgs_nil]
    rfl
  rw [stopBody, Expr.evalWith_builtin (h _ (by decide)) (by decide), bind_of_ok <|
    Expr.evalArgs_cons_of_ok htext <| Expr.evalArgs_cons_of_ok rfl <|
      Expr.evalArgs_cons_of_ok hstderr Expr.evalArgs_nil]
  rfl

/-! ### The call of the handler -/

theorem perform_stopHandler (room : Nat) (h : ∀ n ∈ stopNames, m.Unhidden n) :
    Call.perform (room + 1) ⟨"", [], stopBody, []⟩ m =
      (.ok Object.null, m.print .error (stopTag ++ m.lastError)) := by
  have hbody : stopBody.evalWith (Call.perform room) { m with frames := ⟨"", []⟩ :: m.frames } =
      (.ok Object.null,
        { m with frames := ⟨"", []⟩ :: m.frames }.print .error (stopTag ++ m.lastError)) :=
    evalWith_stopBody h
  rw [Call.perform_of_ok (by simp) rfl hbody]
  rfl

theorem callErrorHandler_of_ok {params : List (String × Option Expr)} {body : Expr} {x : Object}
    (herror : m.options.get? "error" = some (.closure params body))
    (hhandling : m.handling = false)
    (hcall : Call.perform Machine.maxFrames ⟨"", params, body, []⟩ { m with handling := true } =
      (.ok x, m₁)) :
    Machine.callErrorHandler m = ((), { m₁ with frames := [], handling := false }) := by
  simp only [Machine.callErrorHandler, Steps.bind_apply, Steps.get_apply, Steps.set_apply,
    hhandling, herror, hcall]
  rfl

/-- The handler prints the stop tag and the text of the last error. -/
theorem callErrorHandler_stopHandler (herror : m.options.get? "error" = some stopHandler)
    (hhandling : m.handling = false) (hframes : m.frames = [])
    (h : ∀ n ∈ stopNames, m.Unhidden n) :
    Machine.callErrorHandler m = ((), m.print .error (stopTag ++ m.lastError)) := by
  let inner : Machine := { m with handling := true }
  have hperform : Call.perform Machine.maxFrames ⟨"", [], stopBody, []⟩ inner =
      (.ok Object.null, inner.print .error (stopTag ++ m.lastError)) :=
    perform_stopHandler 47 h
  rw [callErrorHandler_of_ok herror hhandling hperform]
  simp only [inner, Machine.print, ← hframes, ← hhandling]

theorem callErrorHandler_handling (hhandling : m.handling = true) :
    Machine.callErrorHandler m = ((), m) := by
  simp only [Machine.callErrorHandler, Steps.bind_apply, Steps.get_apply, Steps.pure_apply,
    hhandling]

/-! ### The report of an error -/

/-- What is printed when an error reaches top level: its text, and the text behind the stop tag. -/
def stopChunks (c : Condition) : List Chunk := [⟨.error, c.text⟩, ⟨.error, stopTag ++ c.text⟩]

theorem reportError_stopHandler (herror : m.options.get? "error" = some stopHandler)
    (hhandling : m.handling = false) (h : ∀ n ∈ stopNames, m.Unhidden n) :
    (Machine.reportError c m).2 = { m with
      frames := [], lastError := c.text, console := m.console ++ stopChunks c } := by
  let printed : Machine := { m.print .error c.text with frames := [], lastError := c.text }
  have hhandler : Machine.callErrorHandler printed =
      ((), printed.print .error (stopTag ++ printed.lastError)) :=
    callErrorHandler_stopHandler herror hhandling rfl h
  change (Machine.callErrorHandler printed).2 = _
  rw [hhandler]
  simp [printed, Machine.print, stopChunks]

theorem reportError_handling (hhandling : m.handling = true) : (Machine.reportError c m).2 =
    { m.print .error c.text with frames := [], lastError := c.text } := by
  have hhandler : Machine.callErrorHandler
      { m.print .error c.text with frames := [], lastError := c.text } = _ :=
    callErrorHandler_handling hhandling
  exact congrArg Prod.snd hhandler

end Engine

end ScriptBridge
