import ScriptBridge.Proofs.Dict
import ScriptBridge.Proofs.Machine.Program

/-!
# The dictionaries of the interpreter

Globals and options stay dictionaries, their keys increasing, whatever programs do (`Ordered`,
`Reached.ordered`). More generally, a property that evaluations keep, and that says nothing of the
last error and of the handler, is kept by programs (`Lasting.evalText`).
-/

namespace ScriptBridge.Machine

variable {P : Machine → Prop} {m : Machine}

/-! ### What programs keep -/

/-- The property is stable, and the report of an error keeps it. -/
structure Lasting (P : Machine → Prop) : Prop extends Stable P where
  lastError : ∀ m text, P m → P { m with lastError := text }
  handling : ∀ m b, P m → P { m with handling := b }

namespace Lasting

variable (h : Lasting P)

include h

theorem print (channel : Channel) (text : String) (hm : P m) : P (m.print channel text) :=
  h.console m _ hm

theorem flushWarnings (hm : P m) : P m.flushWarnings := by
  unfold Machine.flushWarnings
  split
  · exact hm
  · exact h.warnings _ _ (h.print _ _ hm)

theorem callErrorHandler (hm : P m) : P (Machine.callErrorHandler m).2 := by
  have hdone (m' : Machine) (hm' : P m') : P { m' with frames := [], handling := false } := by
    have hframes : P { m' with frames := [] } := h.frames m' [] hm'
    exact h.handling _ false hframes
  obtain hsame | ⟨params, body, -, -, hafter⟩ := callErrorHandler_cases m
  · rw [hsame]
    exact hm
  · have hcalled := Call.keeps_perform h.toStable maxFrames ⟨"", params, body, []⟩ _
      (h.handling m true hm)
    obtain hafter | ⟨text, hafter⟩ := hafter
    · rw [hafter]
      exact hdone _ hcalled
    · rw [hafter]
      exact hdone _ (h.print .error text hcalled)

theorem reportError (c : Condition) (hm : P m) : P (Machine.reportError c m).2 := by
  have hprinted : P { m.print .error c.text with frames := [] } :=
    h.frames _ _ (h.print .error c.text hm)
  have hreported : P { m.print .error c.text with frames := [], lastError := c.text } :=
    h.lastError _ c.text hprinted
  exact h.callErrorHandler hreported

theorem evalProgram (last : Object) (program : List Expr) (hm : P m) :
    P (Machine.evalProgram last program m).2 := by
  induction program generalizing m last with
  | nil => exact hm
  | cons e rest ih =>
    have heval := e.keeps_eval h.toStable _ (h.frames m [] hm)
    rcases he : e.eval { m with frames := [] } with ⟨exit | x, m'⟩
    · rw [he] at heval
      rw [evalProgram_cons_of_error he]
      exact h.flushWarnings (h.reportError _ heval)
    · rw [he] at heval
      rw [evalProgram_cons_of_ok he]
      exact ih _ (h.flushWarnings heval)

/-- A program keeps what lasts, whether it can be read or not and however it ends. -/
theorem evalText (source : String) (hm : P m) : P (Machine.evalText source m).2 := by
  cases hread : Expr.readProgram source with
  | error problem =>
    rw [Machine.evalText, hread]
    exact hm
  | ok program =>
    rw [evalText_of_read hread]
    exact h.evalProgram _ _ hm

end Lasting

/-! ### Globals and options -/

/-- Globals and options are dictionaries. -/
structure Ordered (m : Machine) : Prop where
  globals : Dict.Sorted m.globals
  options : Dict.Sorted m.options

theorem lasting_ordered : Lasting Ordered where
  console _ _ h := ⟨h.globals, h.options⟩
  warnings _ _ h := ⟨h.globals, h.options⟩
  files _ _ _ _ _ _ h := ⟨h.globals, h.options⟩
  options _ key x h := ⟨h.globals, h.options.insert key x⟩
  directory _ _ h := ⟨h.globals, h.options⟩
  frames _ _ h := ⟨h.globals, h.options⟩
  insert _ name x h := ⟨h.globals.insert name x, h.options⟩
  erase _ name h := ⟨h.globals.erase name, h.options⟩
  lastError _ _ h := ⟨h.globals, h.options⟩
  handling _ _ h := ⟨h.globals, h.options⟩

theorem Reached.ordered (h : Reached m) : Ordered m := by
  induction h with
  | create => exact ⟨List.Pairwise.nil, List.pairwise_singleton _ _⟩
  | evalText source _ ih => exact lasting_ordered.evalText source ih
  | assign name x _ ih => exact lasting_ordered.insert _ name _ ih
  | remove name _ ih => exact lasting_ordered.erase _ name ih
  | outside _ _ _ _ ih => exact ⟨ih.globals, ih.options⟩

end ScriptBridge.Machine
