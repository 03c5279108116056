import ScriptBridge.Proofs.Engine.Phases

/-!
# What a run sees of the host

Of the host a run sees its two writers, its progress sink and its map of job variables, and of the
router only what is of this run. `Alike` relates two sessions that look the same to a run. A run
started from both yields the same, and they are alike afterwards (`relates_run`), if binding brings
the states of the backend together; what the backend does with a state is arbitrary.
-/

namespace ScriptBridge

/-- The hosts look the same to a run that is attached as `a` and has a map of job variables. -/
structure Host.Alike (a : Attachment) (map : Option Nat) (h h' : Host) : Prop where
  out : h.writers[a.out]? = h'.writers[a.out]?
  err : h.writers[a.err]? = h'.writers[a.err]?
  sink : ∀ i, a.progress = some i → h.sinks[i]? = h'.sinks[i]?
  maps : ∀ i, map = some i → h.maps[i]? = h'.maps[i]?

/-- The routers look the same to a run that is attached as `a`; the writers that they echo to may
differ, but for those of the run. -/
structure Router.Alike (a : Attachment) (r r' : Router) : Prop where
  run : r.run = some a
  run' : r'.run = some a
  stopMessage : r.stopMessage = r'.stopMessage
  echo : ∀ w ∈ [a.out, a.err], r.echo = some w ↔ r'.echo = some w

/-! ### Hosts -/

namespace Host

variable {a : Attachment} {map : Option Nat} {h h' : Host} {text : String}

theorem getElem?_forward (w : Option Nat) (j : Nat) :
    (Router.forward w text h).writers[j]? =
      h.writers[j]?.map fun x => if w = some j then x.write text else x := by
  cases w with
  | none => simp [Router.forward]
  | some i =>
    simp only [Router.forward, Host.write, List.getElem?_modify, Option.some.injEq]
    rfl

theorem Alike.forward {w w' : Option Nat} (halike : Alike a map h h')
    (hw : ∀ j ∈ [a.out, a.err], w = some j ↔ w' = some j) :
    Alike a map (Router.forward w text h) (Router.forward w' text h') := by
  have hsinks (w : Option Nat) (h : Host) : (Router.forward w text h).sinks = h.sinks := by
    cases w <;> rfl
  have hmaps (w : Option Nat) (h : Host) : (Router.forward w text h).maps = h.maps := by
    cases w <;> rfl
  refine ⟨?_, ?_, fun i hi => ?_, fun i hi => ?_⟩
  · simp only [getElem?_forward, halike.out, hw a.out (by simp)]
  · simp only [getElem?_forward, halike.err, hw a.err (by simp)]
  · rw [hsinks, hsinks, halike.sink i hi]
  · rw [hmaps, hmaps, halike.maps i hi]

theorem Alike.setSink (halike : Alike a map h h') {i : Nat} (hi : a.progress = some i)
    (n : Int32) : Alike a map (h.setSink i n) (h'.setSink i n) where
  out := halike.out
  err := halike.err
  sink j hj := by
    obtain rfl : i = j := Option.some.inj (hi.symm.trans hj)
    simp only [Host.setSink, List.getElem?_set_self', halike.sink i hi]
  maps := halike.maps

theorem Alike.mergeVariables (halike : Alike a map h h') (i : Nat) (entries : Dict Value) :
    Alike a map (h.mergeVariables i entries) (h'.mergeVariables i entries) where
  out := halike.out
  err := halike.err
  sink := halike.sink
  maps j hj := by
    simp only [Host.mergeVariables, List.getElem?_modify, halike.maps j hj]

theorem Alike.entries (halike : Alike a map h h') {i : Nat} (hi : map = some i) :
    h.entries i = h'.entries i := by
  simp only [Host.entries, List.getD_eq_getElem?_getD, halike.maps i hi]

end Host

/-! ### Routers -/

namespace Router

variable {a : Attachment} {map : Option Nat} {r r' : Router} {h h' : Host}

theorem Alike.write (hrouter : Alike a r r') (hhost : Host.Alike a map h h') (c : Chunk) :
    Alike a (r.write c h).1 (r'.write c h').1 ∧
      Host.Alike a map (r.write c h).2 (r'.write c h').2 := by
  have hrun : r.run = r'.run := hrouter.run.trans hrouter.run'.symm
  unfold Router.write
  split
  · rw [hrun]
    exact ⟨hrouter, hhost.forward fun _ _ => Iff.rfl⟩
  · unfold writeError
    cases Signal.ofText c.text with
    | stop message => exact ⟨⟨hrouter.run, hrouter.run', rfl, hrouter.echo⟩, hhost⟩
    | progress n =>
      simp only [hrouter.run, hrouter.run', Option.bind_some]
      cases hprogress : a.progress with
      | none => exact ⟨hrouter, hhost⟩
      | some i => exact ⟨hrouter, hhost.setSink hprogress n⟩
    | diagnostic =>
      rw [hrun]
      exact ⟨hrouter, (hhost.forward hrouter.echo).forward fun _ _ => Iff.rfl⟩

theorem Alike.writeAll (hrouter : Alike a r r') (hhost : Host.Alike a map h h')
    (cs : List Chunk) :
    Alike a (r.writeAll cs h).1 (r'.writeAll cs h').1 ∧
      Host.Alike a map (r.writeAll cs h).2 (r'.writeAll cs h').2 := by
  induction cs generalizing r r' h h' with
  | nil => exact ⟨hrouter, hhost⟩
  | cons c cs ih =>
    obtain ⟨hrouter', hhost'⟩ := hrouter.write hhost c
    exact ih hrouter' hhost'

end Router

namespace Engine

open Steps

variable {σ : Type} {e : Engine σ} {a : Attachment} {map : Option Nat} {A B C : σ → σ → Prop}
  {bs : Bindings} {R : Session σ → Session σ → Prop}

/-- The sessions look the same to a run, and `A` relates the states of the backend. -/
structure Alike (a : Attachment) (map : Option Nat) (A : σ → σ → Prop) (s s' : Session σ) :
    Prop where
  state : A s.state s'.state
  router : s.router.Alike a s'.router
  host : s.host.Alike a map s'.host

/-- The sessions look the same to a run that has not started yet or has ended. -/
structure AlikeAtRest (a : Attachment) (map : Option Nat) (A : σ → σ → Prop)
    (s s' : Session σ) : Prop where
  state : A s.state s'.state
  echo : ∀ w ∈ [a.out, a.err], s.router.echo = some w ↔ s'.router.echo = some w
  host : s.host.Alike a map s'.host

/-! ### Single calls -/

theorem relates_call {α : Type} {f : σ → Reply α × σ}
    (hf : ∀ m m', A m m' → (f m).1 = (f m').1 ∧ B (f m).2 (f m').2) :
    Relates (Alike a map A) (call f) (Alike a map B) := by
  intro s s' hs
  obtain ⟨hreply, hstate⟩ := hf _ _ hs.state
  obtain ⟨hrouter, hhost⟩ := hs.router.writeAll hs.host (f s.state).1.console
  rw [hreply] at hrouter hhost
  refine ⟨congrArg Reply.answer hreply, hstate, ?_, ?_⟩
  · simpa only [call, hreply] using hrouter
  · simpa only [call, hreply] using hhost

theorem respects_report (what problem : String) :
    Respects (Alike a map A) (report a.err what problem) :=
  relates_modify fun _ _ hs =>
    ⟨hs.state, hs.router, hs.host.forward (w := some a.err) fun _ _ => Iff.rfl⟩

/-- A call whose value nobody needs is seen by what it prints and by its error. -/
theorem relates_attempt {α : Type} {what : String} {f : σ → Reply α × σ}
    (hf : ∀ m m', A m m' → (f m).1.console = (f m').1.console ∧
      (f m).1.answer.map (fun _ => ()) = (f m').1.answer.map (fun _ => ()) ∧
      B (f m).2 (f m').2) :
    Relates (Alike a map A) (attempt a.err what f) (Alike a map B) := by
  -- The values may differ, so the call stands for one that yields none of them.
  let seen (m : σ) : Reply Unit × σ :=
    (⟨(f m).1.answer.map fun _ => (), (f m).1.console⟩, (f m).2)
  have hdrop : attempt a.err what f = attempt a.err what seen := by
    funext s
    simp only [attempt, bind_apply, call, seen]
    cases (f s.state).1.answer <;> rfl
  have hseen : Relates (Alike a map A) (call seen) (Alike a map B) := by
    refine relates_call fun m m' hm => ?_
    obtain ⟨hconsole, hanswer, hstate⟩ := hf m m' hm
    simp only [seen, hconsole, hanswer]
    exact ⟨trivial, hstate⟩
  rw [hdrop]
  refine relates_bind hseen fun answer => ?_
  cases answer with
  | ok x => exact respects_pure
  | error p => exact respects_report _ _

/-! ### In the same state of the backend -/

theorem respects_call {α : Type} (f : σ → Reply α × σ) :
    Respects (Alike a map Eq) (call f) :=
  relates_call fun m m' hm => by rw [hm]; exact ⟨rfl, rfl⟩

theorem respects_attempt {α : Type} (what : String) (f : σ → Reply α × σ) :
    Respects (Alike a map Eq) (attempt a.err what f) := by
  refine relates_bind (respects_call f) fun answer => ?_
  cases answer with
  | ok x => exact respects_pure
  | error p => exact respects_report _ _

theorem respects_taskResult (r : TaskResult) :
    Respects (Alike a map (Eq (α := σ))) (taskResult a.err r) := by
  unfold taskResult
  rcases r.outcome.map Value.toRValue with _ | (_ | _)
  · exact respects_pure
  · exact relates_bind (respects_report _ _) fun _ => respects_pure
  · exact respects_pure

theorem respects_bindSpace (names : String × String) :
    Respects (Alike a map Eq) (e.bindSpace a.err bs names) := by
  unfold bindSpace
  cases bs.space? names.1 with
  | none => exact respects_pure
  | some space =>
    refine relates_get_bind (fun _ _ hs => by rw [hs.state]) fun s => ?_
    refine relates_bind (respects_attempt _ _) fun _ => ?_
    refine relates_get_bind (fun _ _ hs => by rw [hs.state]) fun s' => ?_
    extract_lets files
    split
    · exact respects_attempt _ _
    · exact respects_pure

theorem respects_bindVariables {i : Nat} :
    Respects (Alike a (some i) Eq) (e.bindVariables a.err i) := by
  refine relates_get_bind (fun _ _ hs => by rw [hs.host.entries rfl]) fun s => ?_
  cases (Value.map (s.host.entries i)).toRValue with
  | ok x => exact respects_attempt _ _
  | error problem => exact respects_report _ _

theorem respects_bindArguments : Respects (Alike a map Eq) (e.bindArguments a.err bs) := by
  unfold bindArguments
  cases bs.arguments? with
  | some args => exact respects_attempt _ _
  | none => exact respects_pure

theorem respects_bindResults : Respects (Alike a map Eq) (e.bindResults a.err bs) := by
  unfold bindResults
  cases bs.results? with
  | some results =>
    exact relates_bind (respects_mapM fun r _ => respects_taskResult r) fun _ =>
      respects_attempt _ _
  | none => exact respects_pure

theorem respects_bindProgress : Respects (Alike a map Eq) (e.bindProgress a.err bs) := by
  unfold bindProgress
  split
  · exact respects_attempt _ _
  · exact respects_pure

theorem respects_bindMap : Respects (Alike a bs.variables? Eq) (e.bindMap a.err bs) := by
  unfold bindMap
  cases bs.variables? with
  | some i => exact respects_bindVariables
  | none => exact respects_pure

/-- A run sees nothing of what is different before it if clearing and the first two programs bring
the states of the backend together. -/
theorem relates_bindings (hclear : Relates R (e.clear a.err) (Alike a bs.variables? B))
    (hwarn : ∀ what, Relates (Alike a bs.variables? B)
      (e.exec a.err what (warnProgram e.config.warnLevel)) (Alike a bs.variables? C))
    (hstop : ∀ what, Relates (Alike a bs.variables? C) (e.exec a.err what stopProgram)
      (Alike a bs.variables? Eq)) :
    Relates R (e.bind a.err bs) (Alike a bs.variables? Eq) := by
  rw [bind_eq]
  refine relates_bind hclear fun _ => relates_bind (hwarn _) fun _ =>
    relates_bind (hstop _) fun _ => ?_
  refine relates_bind respects_bindArguments fun _ => relates_bind respects_bindResults fun _ => ?_
  refine relates_bind respects_bindProgress fun _ => ?_
  exact relates_bind (respects_forM fun names _ => respects_bindSpace names) fun _ =>
    respects_bindMap

theorem respects_evaluate (script : String) :
    Respects (Alike a map Eq) (e.evaluate a.err script) := by
  refine relates_bind (respects_call _) fun answer => ?_
  rcases answer with (_ | _ | _ | _) | _
  case error.evaluation | ok => exact respects_pure
  all_goals exact relates_bind (respects_report _ _) fun _ => respects_pure

theorem respects_readResult : Respects (Alike a map Eq) (e.readResult a.err) := by
  refine relates_bind (respects_call _) fun answer => ?_
  rcases answer with problem | _ | x
  · exact relates_bind (respects_report _ _) fun _ => respects_pure
  · exact respects_pure
  · dsimp only
    cases x.toValue with
    | ok v => exact respects_pure
    | error problem => exact relates_bind (respects_report _ _) fun _ => respects_pure

theorem respects_readSelected : Respects (Alike a map Eq) e.readSelected := by
  refine relates_bind (respects_call _) fun answer => ?_
  rcases answer with _ | _ | x
  all_goals exact respects_pure

theorem respects_mergeVariables (i : Nat) :
    Respects (Alike a map Eq) (e.mergeVariables a.err i) := by
  refine relates_bind (respects_call _) fun answer => ?_
  rcases answer with problem | _ | x
  · exact respects_report _ _
  · exact respects_pure
  · dsimp only
    cases x.toMap with
    | ok entries =>
      exact relates_modify fun _ _ hs =>
        ⟨hs.state, hs.router, hs.host.mergeVariables i entries⟩
    | error problem => exact respects_report _ _

theorem respects_reconcile (evaluated : Except BackendError RValue) :
    Respects (Alike a map Eq) (e.reconcile a.err bs evaluated) := by
  refine relates_bind respects_readResult fun explicit => ?_
  refine relates_bind respects_readSelected fun selected => ?_
  extract_lets bindings finish
  cases bindings.variables? with
  | some i => exact relates_bind (respects_mergeVariables i) fun _ => respects_pure
  | none => exact respects_pure

/-! ### Runs -/

theorem relates_beginRun :
    Relates (AlikeAtRest a map A)
      (modify fun s : Session σ => { s with router := s.router.beginRun a }) (Alike a map A) :=
  relates_modify fun _ _ hs => ⟨hs.state, ⟨rfl, rfl, rfl, hs.echo⟩, hs.host⟩

theorem relates_endRun :
    Relates (Alike a map A)
      (modify fun s : Session σ => { s with router := s.router.endRun }) (AlikeAtRest a map A) :=
  relates_modify fun _ _ hs => ⟨hs.state, hs.router.echo, hs.host⟩

/-- If binding brings the states of the backend together, a run yields the same from sessions that
look the same to it, and they look the same afterwards. -/
theorem relates_run (script : String) (hprogress : bs.progress? = a.progress)
    (hbind : Relates (Alike a map A) (e.bind a.err bs) (Alike a map Eq)) :
    Relates (AlikeAtRest a map A) (e.run script bs a.out a.err) (AlikeAtRest a map Eq) := by
  unfold run
  rw [hprogress]
  refine relates_bind relates_beginRun fun _ => relates_bind hbind fun _ => ?_
  refine relates_bind (respects_evaluate script) fun evaluated => ?_
  refine relates_get_bind (fun _ _ hs => by rw [hs.router.stopMessage]) fun s => ?_
  refine relates_bind (respects_reconcile evaluated) fun reconciled => ?_
  refine relates_bind (respects_attempt _ _) fun _ => ?_
  exact relates_bind relates_endRun fun _ => respects_pure

namespace Run

def attachment (r : Run σ) : Attachment := ⟨r.out, r.err, r.bindings.progress?⟩

/-- The same run, started from another session. -/
def restart (r : Run σ) (s : Session σ) : Run σ := { r with start := s }

theorem eval_restart {r : Run σ} {s : Session σ}
    (hbind : Relates (Alike r.attachment r.bindings.variables? A) (r.engine.bind r.err r.bindings)
      (Alike r.attachment r.bindings.variables? Eq))
    (hs : AlikeAtRest r.attachment r.bindings.variables? A r.start s) :
    r.eval.1 = (r.restart s).eval.1 ∧
      AlikeAtRest r.attachment r.bindings.variables? Eq r.eval.2 (r.restart s).eval.2 := by
  have hrun := relates_run r.script (a := r.attachment) rfl hbind
  have heval : Relates (AlikeAtRest r.attachment r.bindings.variables? A)
      (r.engine.evalScript r.script (some ⟨some r.bindings, r.out, r.err⟩))
      (AlikeAtRest r.attachment r.bindings.variables? Eq) :=
    relates_bind hrun fun _ => respects_pure
  exact heval r.start s hs

end Run

end Engine

end ScriptBridge
