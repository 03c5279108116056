import ScriptBridge.Proofs.Console.Router
import ScriptBridge.Proofs.Engine.Phases

/-!
# Following a session through a run

What the engine does with a session are calls of the backend and reports. A property of sessions is
`Steady` if both keep it whatever the backend does; it then survives every phase of a run
(`Steady.bind`, `Steady.evaluate`, …).

Of a property that depends on what the backend does, `leads_bindings` takes care: it follows the
binding phase, which clears, sets the level of warnings, installs the stop handler, and then sets
one variable after the other, the job variables last. What is true after the stop handler is
installed has only to survive every single call after it. `leads_bindings_of_spaces` looks at the
data spaces as a whole, for what depends on where they are.
-/

namespace ScriptBridge.Engine

open Steps

variable {σ : Type} {e : Engine σ} {err : Nat} {bs : Bindings} {P Q R T U : Session σ → Prop}

/-! ### Single calls -/

theorem leads_attempt {α : Type} {what : String} {f : σ → Reply α × σ} (h : Leads P (call f) Q)
    (hreport : ∀ what problem, Keeps Q (report err what problem)) :
    Leads P (attempt err what f) Q := by
  refine leads_bind h fun a => ?_
  cases a with
  | ok => exact keeps_pure
  | error p => exact hreport _ _

/-! ### Binding -/

theorem keeps_taskResult (hreport : ∀ what problem, Keeps P (report err what problem))
    (r : TaskResult) : Keeps P (taskResult (σ := σ) err r) := by
  unfold taskResult
  rcases r.outcome.map Value.toRValue with _ | (_ | _)
  · exact keeps_pure
  · exact leads_bind (hreport _ _) fun _ => keeps_pure
  · exact keeps_pure

theorem keeps_bindSpace {names : String × String} (hassign : ∀ x, Keeps P (e.assign err names.2 x))
    (hmove : ∀ what path, Keeps P (e.exec err what (moveProgram path))) :
    Keeps P (e.bindSpace err bs names) := by
  unfold bindSpace
  cases bs.space? names.1 with
  | none => exact keeps_pure
  | some space =>
    refine leads_bind keeps_get fun _ => leads_bind (hassign _) fun _ =>
      leads_bind keeps_get fun _ => ?_
    extract_lets files
    split
    · exact hmove _ _
    · exact keeps_pure

theorem leads_bindVariables {map : Nat} (hassign : ∀ x, Leads P (e.assign err "variables" x) Q)
    (hreport : ∀ what problem, Leads P (report err what problem) Q) :
    Leads P (e.bindVariables err map) Q := by
  refine leads_bind keeps_get fun s => ?_
  cases (Value.map (s.host.entries map)).toRValue with
  | ok x => exact hassign x
  | error problem => exact hreport _ _

theorem keeps_bindArguments (hassign : ∀ x, Keeps P (e.assign err "args" x)) :
    Keeps P (e.bindArguments err bs) := by
  unfold bindArguments
  cases bs.arguments? with
  | some args => exact hassign _
  | none => exact keeps_pure

theorem keeps_bindResults (hreport : ∀ what problem, Keeps P (report err what problem))
    (hassign : ∀ x, Keeps P (e.assign err "results" x)) : Keeps P (e.bindResults err bs) := by
  unfold bindResults
  cases bs.results? with
  | some results =>
    exact leads_bind (keeps_mapM fun r _ => keeps_taskResult hreport r) fun _ => hassign _
  | none => exact keeps_pure

theorem keeps_bindProgress (hprogress : ∀ what, Keeps P (e.exec err what progressProgram)) :
    Keeps P (e.bindProgress err bs) := by
  unfold bindProgress
  split
  · exact hprogress _
  · exact keeps_pure

theorem leads_bindMap
    (hvariables : ∀ map, bs.variables? = some map → Leads P (e.bindVariables err map) Q)
    (hnone : bs.variables? = none → ∀ s, P s → Q s) : Leads P (e.bindMap err bs) Q := by
  unfold bindMap
  cases hv : bs.variables? with
  | some map => exact hvariables map hv
  | none => exact hnone hv

theorem leads_bindings_of_spaces (hclear : Leads P (e.clear err) Q)
    (hwarn : ∀ what, Leads Q (e.exec err what (warnProgram e.config.warnLevel)) R)
    (hstop : ∀ what, Leads R (e.exec err what stopProgram) T)
    (hreport : ∀ what problem, Keeps T (report err what problem))
    (hassign : ∀ name ∈ ["args", "results"], ∀ x, Keeps T (e.assign err name x))
    (hprogress : ∀ what, Keeps T (e.exec err what progressProgram))
    (hspace : ∀ names ∈ spaceNames, Keeps T (e.bindSpace err bs names))
    (hvariables : ∀ map, bs.variables? = some map → Leads T (e.bindVariables err map) U)
    (hnone : bs.variables? = none → ∀ s, T s → U s) :
    Leads P (e.bind err bs) U := by
  rw [bind_eq]
  refine leads_bind hclear fun _ => leads_bind (hwarn _) fun _ => leads_bind (hstop _) fun _ => ?_
  refine leads_bind (keeps_bindArguments (hassign "args" (by simp))) fun _ => ?_
  refine leads_bind (keeps_bindResults hreport (hassign "results" (by simp))) fun _ => ?_
  refine leads_bind (keeps_bindProgress hprogress) fun _ => ?_
  exact leads_bind (keeps_forM hspace) fun _ => leads_bindMap hvariables hnone

theorem leads_bindings (hclear : Leads P (e.clear err) Q)
    (hwarn : ∀ what, Leads Q (e.exec err what (warnProgram e.config.warnLevel)) R)
    (hstop : ∀ what, Leads R (e.exec err what stopProgram) T)
    (hreport : ∀ what problem, Keeps T (report err what problem))
    (hassign : ∀ name ∈ "args" :: "results" :: spaceNames.map (·.2), ∀ x,
      Keeps T (e.assign err name x))
    (hprogress : ∀ what, Keeps T (e.exec err what progressProgram))
    (hmove : ∀ what path, Keeps T (e.exec err what (moveProgram path)))
    (hvariables : ∀ map, bs.variables? = some map → Leads T (e.bindVariables err map) U)
    (hnone : bs.variables? = none → ∀ s, T s → U s) :
    Leads P (e.bind err bs) U := by
  refine leads_bindings_of_spaces hclear hwarn hstop hreport (fun name hname => hassign name ?_)
    hprogress (fun names hmem => keeps_bindSpace (hassign names.2 ?_) hmove) hvariables hnone
  · exact List.mem_append_left (spaceNames.map (·.2)) hname
  · exact List.mem_append_right ["args", "results"] (List.mem_map_of_mem hmem)

/-! ### Reading back -/

theorem keeps_readResult (hget : Keeps P (call (e.backend.get "result")))
    (hreport : ∀ what problem, Keeps P (report err what problem)) :
    Keeps P (e.readResult err) := by
  refine leads_bind hget fun answer => ?_
  rcases answer with problem | _ | x
  · exact leads_bind (hreport _ _) fun _ => keeps_pure
  · exact keeps_pure
  · dsimp only
    cases x.toValue with
    | ok v => exact keeps_pure
    | error problem => exact leads_bind (hreport _ _) fun _ => keeps_pure

theorem keeps_readSelected (hget : Keeps P (call (e.backend.get "selected"))) :
    Keeps P e.readSelected := by
  refine leads_bind hget fun answer => ?_
  rcases answer with _ | _ | x
  all_goals exact keeps_pure

/-! ### What every call and every report keeps -/

/-- The property is kept by calls and reports whatever the backend does. -/
structure Steady (P : Session σ → Prop) : Prop where
  call : ∀ {α : Type} (f : σ → Reply α × σ), Keeps P (call f)
  report : ∀ err what problem, Keeps P (report err what problem)

namespace Steady

variable (h : Steady P)

include h

theorem attempt {α : Type} (what : String) (f : σ → Reply α × σ) :
    Keeps P (Engine.attempt err what f) :=
  leads_attempt (h.call f) (h.report err)

/-- A steady property holds up to the job variables, which come last. -/
theorem bind_then
    (hvariables : ∀ map, bs.variables? = some map → Leads P (e.bindVariables err map) U)
    (hnone : bs.variables? = none → ∀ s, P s → U s) : Leads P (e.bind err bs) U :=
  leads_bindings (keeps_forM fun _ _ => h.attempt _ _) (fun _ => h.attempt _ _)
    (fun _ => h.attempt _ _) (h.report err) (fun _ _ _ => h.attempt _ _) (fun _ => h.attempt _ _)
    (fun _ _ => h.attempt _ _) hvariables hnone

theorem bind (bs : Bindings) : Keeps P (e.bind err bs) :=
  h.bind_then (fun _ _ => leads_bindVariables (fun _ => h.attempt _ _) (h.report err))
    fun _ _ hs => hs

theorem evaluate (script : String) : Keeps P (e.evaluate err script) := by
  refine leads_bind (h.call _) fun answer => ?_
  rcases answer with (_ | _ | _ | _) | _
  case error.evaluation | ok => exact keeps_pure
  all_goals exact leads_bind (h.report _ _ _) fun _ => keeps_pure

end Steady

theorem steady_maps (maps : List (Dict Value)) :
    Steady fun s : Session σ => s.host.maps = maps where
  call _ _ hs := (Router.writeAll_maps _ _ _).trans hs
  report _ _ _ _ hs := hs

/-- The router serves a run and echoes to a writer. -/
structure Serves (run : Option Attachment) (echo : Option Nat) (s : Session σ) : Prop where
  run : s.router.run = run
  echo : s.router.echo = echo

theorem steady_serves (run : Option Attachment) (echo : Option Nat) :
    Steady (@Serves σ run echo) where
  call _ _ hs :=
    ⟨(Router.writeAll_run _ _ _).trans hs.run, (Router.writeAll_echo _ _ _).trans hs.echo⟩
  report _ _ _ _ hs := ⟨hs.run, hs.echo⟩

namespace Run

variable {r : Run σ}

theorem steady_bound (h : Steady P) (hs : P r.begun) : P r.bound := h.bind _ _ hs

theorem steady_selectedRead (h : Steady P) (hs : P r.begun) : P r.selectedRead := by
  have hevaluated : P r.evaluated := h.evaluate _ _ (steady_bound h hs)
  have hresult : P r.resultRead := keeps_readResult (h.call _) (h.report r.err) _ hevaluated
  exact keeps_readSelected (h.call _) _ hresult

theorem bound_serves :
    Serves (some ⟨r.out, r.err, r.bindings.progress?⟩) r.start.router.echo r.bound :=
  steady_bound (steady_serves _ _) ⟨rfl, rfl⟩

end Run

end ScriptBridge.Engine
