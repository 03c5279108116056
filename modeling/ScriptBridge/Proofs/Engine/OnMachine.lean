import ScriptBridge.Proofs.Engine.Binding
import ScriptBridge.Proofs.Machine.Program

/-!
# The engine on the interpreter of this library

What a call does to the state of `Machine.backend`, in terms of the interpreter's own operations
(`leads_exec`, `leads_assign`, `leads_remove`), and that reading a variable does nothing to it.
-/

namespace ScriptBridge.Engine

open Steps

variable {e : Engine Machine} {err : Nat} {A B : Machine → Prop}

/-- The state of the interpreter has a property. -/
def InState (A : Machine → Prop) (s : Session Machine) : Prop := A s.state

theorem keeps_report_inState (what problem : String) :
    Keeps (InState A) (report err what problem) :=
  fun _ hs => hs

theorem call_get_answer (h : e.backend = Machine.backend) (name : String) (s : Session Machine) :
    (call (e.backend.get name) s).1 = .ok (s.state.readGlobal? name) := by
  rw [h]
  rfl

theorem keeps_get_inState (h : e.backend = Machine.backend) (name : String) :
    Keeps (InState A) (call (e.backend.get name)) := by
  rw [h]
  exact fun _ hs => hs

theorem leads_exec (h : e.backend = Machine.backend) {program : String} (what : String)
    (hprogram : ∀ m, A m → B { (Machine.evalText program m).2 with console := [] }) :
    Leads (InState A) (e.exec err what program) (InState B) := by
  refine leads_attempt (fun s hs => ?_) keeps_report_inState
  rw [h]
  exact hprogram s.state hs

theorem leads_assign (h : e.backend = Machine.backend) {name : String} {x : RValue}
    (hassign : ∀ m, A m → B (m.assign name x)) :
    Leads (InState A) (e.assign err name x) (InState B) := by
  refine leads_attempt (fun s hs => ?_) keeps_report_inState
  rw [h]
  exact hassign s.state hs

theorem leads_remove (h : e.backend = Machine.backend) {name : String} (what : String)
    (hremove : ∀ m, A m → B (m.remove name)) :
    Leads (InState A) (attempt err what (e.backend.remove name)) (InState B) := by
  refine leads_attempt (fun s hs => ?_) keeps_report_inState
  rw [h]
  exact hremove s.state hs

theorem keeps_bind_handling (h : e.backend = Machine.backend) (bs : Bindings) :
    Keeps (InState fun m => m.handling = false) (e.bind err bs) := by
  have hexec (what program : String) :
      Keeps (InState fun m => m.handling = false) (e.exec err what program) :=
    leads_exec h what fun m hm => Machine.handling_evalText hm
  have hassign (name : String) (x : RValue) :
      Keeps (InState fun m => m.handling = false) (e.assign err name x) :=
    leads_assign h fun m hm => hm
  exact leads_bindings (keeps_forM fun name _ => leads_remove h _ fun m hm => hm)
    (fun _ => hexec _ _) (fun _ => hexec _ _) keeps_report_inState (fun name _ => hassign name)
    (fun _ => hexec _ _) (fun _ _ => hexec _ _)
    (fun _ _ => leads_bindVariables (hassign _) keeps_report_inState) (fun _ _ hs => hs)

/-! ### The script -/

namespace Run

variable {r : Run Machine}

theorem bound_console (hbackend : r.engine.backend = Machine.backend) :
    r.bound.state.console = [] := by
  have hexec {A : Machine → Prop} (what program : String) :
      Leads (InState A) (r.engine.exec r.err what program) (InState fun m => m.console = []) :=
    leads_exec hbackend what fun _ _ => rfl
  have hassign (name : String) (x : RValue) :
      Keeps (InState fun m => m.console = []) (r.engine.assign r.err name x) :=
    leads_assign hbackend fun _ hm => hm
  have hbind : Leads (InState fun _ => True) (r.engine.bind r.err r.bindings)
      (InState fun m => m.console = []) :=
    leads_bindings (Q := InState fun _ => True) (fun _ _ => trivial) (fun _ => hexec _ _)
      (fun _ => hexec _ _) keeps_report_inState (fun name _ => hassign name) (fun _ => hexec _ _)
      (fun _ _ => hexec _ _) (fun _ _ => leads_bindVariables (hassign _) keeps_report_inState)
      fun _ _ hs => hs
  have hbound : InState (fun m => m.console = []) r.bound := hbind r.begun trivial
  exact hbound

def scriptState (r : Run Machine) : Machine := (Machine.evalText r.script r.bound.state).2

theorem scriptCall_snd (hbackend : r.engine.backend = Machine.backend) : r.scriptCall.2 =
    { state := { r.scriptState with console := [] },
      router := (r.bound.router.writeAll r.scriptState.console r.bound.host).1,
      host := (r.bound.router.writeAll r.scriptState.console r.bound.host).2 } := by
  rw [scriptCall, hbackend]
  rfl

end Run

/-! ### Reading back -/

/-- Reading the result leaves the interpreter as the script has left it. -/
theorem Run.resultRead_state {r : Run Machine} (h : r.engine.backend = Machine.backend) :
    r.resultRead.state = r.scriptCall.2.state := by
  have hevaluated : InState (fun m => m = r.scriptCall.2.state) r.evaluated :=
    evaluate_state r.engine r.err r.script r.bound
  have hresult : InState (fun m => m = r.scriptCall.2.state) r.resultRead :=
    keeps_readResult (keeps_get_inState h _) keeps_report_inState _ hevaluated
  exact hresult

/-- Reading result and selection leaves the interpreter as the script has left it. -/
theorem Run.selectedRead_state {r : Run Machine} (h : r.engine.backend = Machine.backend) :
    r.selectedRead.state = r.scriptCall.2.state := by
  have hselected : InState (fun m => m = r.scriptCall.2.state) r.selectedRead :=
    keeps_readSelected (keeps_get_inState h _) _ (resultRead_state h)
  exact hselected

end ScriptBridge.Engine
