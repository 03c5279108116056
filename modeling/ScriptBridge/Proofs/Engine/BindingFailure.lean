import ScriptBridge.Proofs.Engine.Stop

/-!
# Failures of binding

What fails while the engine binds is reported and the run goes on. But an error in the interpreter
also calls the error handler, and the stop handler of an earlier run may still be installed then:
the stop message that it leaves is not taken back before the script runs.

`Run.decided_by_binding`: a script that succeeds and prints no stop signal ends its run with the
stop message of binding, if there is one. There is none if no closure hides a built-in function that
the engine's programs call and the local space is at an absolute path. Without this a run of a
script that does nothing wrong can end stopped (`Run.stopped_by_binding`).
-/

namespace ScriptBridge

def Chunk.IsStop (c : Chunk) : Prop :=
  c.channel = .error ∧ ∃ message, Signal.ofText c.text = .stop message

theorem Router.write_stopMessage {c : Chunk} (hc : ¬c.IsStop) (r : Router) (h : Host) :
    (r.write c h).1.stopMessage = r.stopMessage := by
  obtain ⟨_ | _, text⟩ := c
  · rfl
  · simp only [Router.write, Router.writeError]
    cases hs : Signal.ofText text with
    | stop message => exact absurd ⟨rfl, message, hs⟩ hc
    | progress n => cases r.run.bind (·.progress) <;> rfl
    | diagnostic => rfl

theorem Router.writeAll_stopMessage {cs : List Chunk} (hcs : ∀ c ∈ cs, ¬c.IsStop) (r : Router)
    (h : Host) : (r.writeAll cs h).1.stopMessage = r.stopMessage := by
  induction cs generalizing r h with
  | nil => rfl
  | cons c cs ih =>
    obtain ⟨hc, hrest⟩ := List.forall_mem_cons.mp hcs
    rw [Router.writeAll_cons, ih hrest, Router.write_stopMessage hc]

namespace Engine

open Steps

/-! ### Binding that prints no stop signal -/

variable {e : Engine Machine} {err : Nat} {files : Files} {bs : Bindings} {A : Machine → Prop}

/-- The files are these, and there is neither text to be passed on nor a stop message. -/
structure Calm (files : Files) (s : Session Machine) : Prop where
  files : s.state.files = files
  console : s.state.console = []
  stopMessage : s.router.stopMessage = none

theorem keeps_report_calm (what problem : String) : Keeps (Calm files) (report err what problem) :=
  fun _ hs => ⟨hs.files, hs.console, hs.stopMessage⟩

/-- A program stays calm if all that it prints are warnings, and if it leaves the files alone. -/
theorem calm_exec (hbackend : e.backend = Machine.backend) {program : String} (what : String)
    (hprogram : ∀ m, A m → m.files = files → ∃ m' : Machine,
      (Machine.evalText program m).2 = m'.flushWarnings ∧ m'.files = m.files ∧
        m'.console = m.console) :
    Leads (fun s => InState A s ∧ Calm files s) (e.exec err what program) (Calm files) := by
  refine leads_attempt (fun s hs => ?_) keeps_report_calm
  obtain ⟨hstate, hcalm⟩ := hs
  obtain ⟨m', heval, hfiles, hconsole⟩ := hprogram s.state hstate hcalm.files
  have hprinted : (Machine.evalText program s.state).2.console = warningChunks m' := by
    rw [heval, flushWarnings_console, hconsole, hcalm.console, List.nil_append]
  have hkept : (Machine.evalText program s.state).2.files = files := by
    rw [heval, Machine.flushWarnings_files, hfiles, hcalm.files]
  rw [hbackend]
  refine ⟨hkept, rfl, ?_⟩
  change (s.router.writeAll (Machine.evalText program s.state).2.console s.host).1.stopMessage =
    none
  rw [hprinted, writeAll_warningChunks, hcalm.stopMessage]

theorem calm_attempt {α : Type} {what : String} {f : Machine → Reply α × Machine}
    (hf : ∀ m, (f m).1.console = [] ∧ (f m).2.files = m.files ∧ (f m).2.console = m.console) :
    Keeps (Calm files) (attempt err what f) := by
  refine leads_attempt (fun s hs => ?_) keeps_report_calm
  obtain ⟨hsilent, hfiles, hconsole⟩ := hf s.state
  refine ⟨hfiles.trans hs.files, hconsole.trans hs.console, ?_⟩
  change (s.router.writeAll (f s.state).1.console s.host).1.stopMessage = none
  rw [hsilent, Router.writeAll_nil, hs.stopMessage]

theorem calm_assign (hbackend : e.backend = Machine.backend) (name : String) (x : RValue) :
    Keeps (Calm files) (e.assign err name x) := by
  rw [assign, hbackend]
  exact calm_attempt fun m => ⟨rfl, rfl, rfl⟩

theorem calm_clear (hbackend : e.backend = Machine.backend) :
    Keeps (Calm files) (e.clear err) := by
  rw [clear, hbackend]
  exact keeps_forM fun name _ => calm_attempt fun m => ⟨rfl, rfl, rfl⟩

theorem isDirectory_of_isWritableDirectory {path : String}
    (h : files.isWritableDirectory path = true) : files.isDirectory path = true := by
  unfold Files.isWritableDirectory at h
  unfold Files.isDirectory
  rcases hlook : files.look? path with _ | (writable | octets | target)
  all_goals simp [hlook] at h ⊢

theorem calm_moveProgram (hbackend : e.backend = Machine.backend) {path : String} (what : String)
    (hpath : Path.isAbsolute path = true) (hdir : files.isWritableDirectory path = true) :
    Leads (fun s => InState Guarded s ∧ Calm files s) (e.exec err what (moveProgram path))
      (Calm files) := by
  refine calm_exec hbackend what fun m hm hfiles => ?_
  have hjoin : m.pathOf path = path := by rw [Machine.pathOf, Path.join, if_pos hpath]
  have hmove : m.files.isDirectory (m.pathOf path) = true := by
    rw [hfiles, hjoin]
    exact isDirectory_of_isWritableDirectory hdir
  obtain ⟨y, hy⟩ := evalText_moveProgram (hm.pristine _ (by decide)) hmove
  exact ⟨_, congrArg Prod.snd hy, rfl, rfl⟩

/-- The local space, if there is one, is found at an absolute path. -/
def LocalSpaceAbsolute (files : Files) (bs : Bindings) : Prop :=
  ∀ space, bs.space? Bindings.localSpaceName = some space →
    Path.isAbsolute (spacePath files space) = true

theorem keeps_assign_guarded (hbackend : e.backend = Machine.backend) {name : String}
    (hname : name ≠ "variables") (x : RValue) :
    Keeps (fun s => InState Guarded s ∧ Calm files s) (e.assign err name x) :=
  (leads_assign hbackend fun _ hm => hm.insert hname fun _ _ _ => Object.noConfusion).and
    (calm_assign hbackend name x)

theorem keeps_bindSpace_calm (hbackend : e.backend = Machine.backend)
    (habsolute : LocalSpaceAbsolute files bs) {names : String × String}
    (hnames : names ∈ spaceNames) :
    Keeps (fun s => InState Guarded s ∧ Calm files s) (e.bindSpace err bs names) := by
  have hname : names.2 ≠ "variables" := by
    have hall : ∀ names ∈ spaceNames, names.2 ≠ "variables" := by decide
    exact hall names hnames
  unfold bindSpace
  cases hspace : bs.space? names.1 with
  | none => exact keeps_pure
  | some space =>
    have hfiles (s : Session Machine) (hs : InState Guarded s ∧ Calm files s) :
        e.backend.files s.state = files := by
      rw [hbackend]
      exact hs.2.files
    refine leads_get_step fun s hs => ?_
    rw [hfiles s hs]
    refine leads_bind (keeps_assign_guarded hbackend hname _) fun _ => ?_
    refine leads_get_step fun s' hs' => ?_
    rw [hfiles s' hs']
    dsimp only
    by_cases hmove : names.1 = Bindings.localSpaceName ∧
        files.isWritableDirectory (spacePath files space) = true
    · rw [if_pos hmove]
      have hpath := habsolute space (hmove.1 ▸ hspace)
      intro t ht
      refine ⟨?_, calm_moveProgram hbackend _ hpath hmove.2 t ht⟩
      exact leads_exec hbackend _ (fun m hm => (guarded_moveProgram _ hm).handOver) t ht.1
    · rw [if_neg hmove]
      exact keeps_pure

/-- Where no closure hides a built-in function of the engine's programs and the local space is at an
absolute path, binding leaves no stop message. -/
theorem leads_bind_calm (hbackend : e.backend = Machine.backend)
    (habsolute : LocalSpaceAbsolute files bs) :
    Leads (fun s => InState Pristine s ∧ Calm files s) (e.bind err bs) (Calm files) := by
  have hreport (what problem : String) :
      Keeps (fun s => InState Guarded s ∧ Calm files s) (report err what problem) :=
    (keeps_report_inState what problem).and (keeps_report_calm what problem)
  obtain ⟨x, hwarn⟩ := evalText_warnProgram e.config.warnLevel
  -- What a program prints depends on the closures, so both properties go through binding together.
  refine leads_bindings_of_spaces (Q := fun s => InState Cleared s ∧ Calm files s)
    (R := fun s => InState Cleared s ∧ Calm files s)
    (T := fun s => InState Guarded s ∧ Calm files s)
    ((leads_clear hbackend).and (calm_clear hbackend)) (fun what s hs => ⟨?_, ?_⟩)
    (fun what s hs => ⟨?_, ?_⟩) hreport (fun name hname x => keeps_assign_guarded hbackend ?_ x)
    (fun what s hs => ⟨?_, ?_⟩) (fun names => keeps_bindSpace_calm hbackend habsolute)
    (fun map _ => leads_bindVariables (fun x s hs => calm_assign hbackend _ x s hs.2)
      fun what problem s hs => keeps_report_calm what problem s hs.2)
    fun _ s hs => hs.2
  · exact leads_exec hbackend what (fun m hm => (cleared_warnProgram _ hm).handOver) s hs.1
  · refine calm_exec hbackend what (fun m hm _ => ?_) s hs
    obtain ⟨y, hy⟩ := hwarn m (hm.pristine _ (by decide))
    exact ⟨_, congrArg Prod.snd hy, rfl, rfl⟩
  · exact leads_exec hbackend what (fun m hm => (guarded_stopProgram hm).handOver) s hs.1
  · refine calm_exec hbackend what (fun m hm _ => ?_) s hs
    obtain ⟨y, hy⟩ := evalText_stopProgram (hm.pristine _ (by decide))
    exact ⟨_, congrArg Prod.snd hy, rfl, rfl⟩
  · rintro rfl
    revert hname
    decide
  · exact leads_exec hbackend what (fun m hm => (guarded_progressProgram hm).handOver) s hs.1
  · refine calm_exec hbackend what (fun m _ _ => ?_) s hs
    exact ⟨_, congrArg Prod.snd evalText_progressProgram, rfl, rfl⟩

/-! ### Runs -/

namespace Run

variable {σ : Type}

/-- The script succeeds and prints no stop signal. -/
structure Unstopped (r : Run σ) : Prop where
  succeeds : ∃ x, r.answer = .ok x
  silent : ∀ c ∈ (r.engine.backend.eval r.script r.bound.state).1.console, ¬c.IsStop

theorem Unstopped.stop?_eq {r : Run σ} (h : r.Unstopped) :
    r.stop? = r.bound.router.stopMessage :=
  Router.writeAll_stopMessage h.silent r.bound.router r.bound.host

theorem Unstopped.stopped_iff {r : Run σ} (h : r.Unstopped) (text : String) :
    r.outcome = .error (.stopped text) ↔ r.bound.router.stopMessage = some text := by
  rw [outcome_eq, ← h.stop?_eq]
  exact outcome_eq_stopped

theorem Unstopped.ok_iff {r : Run σ} (h : r.Unstopped) :
    (∃ v, r.outcome = .ok v) ↔ r.bound.router.stopMessage = none := by
  rw [outcome_eq, ← h.stop?_eq]
  constructor
  · rintro ⟨v, hv⟩
    exact (outcome_eq_ok.mp hv).1
  · intro hnone
    exact ⟨_, outcome_eq_ok.mpr ⟨hnone, .inl h.succeeds, rfl⟩⟩

theorem bound_stopMessage {r : Run Machine} (hbackend : r.engine.backend = Machine.backend)
    (hpristine : Pristine r.start.state) (hconsole : r.start.state.console = [])
    (habsolute : LocalSpaceAbsolute r.start.state.files r.bindings) :
    r.bound.router.stopMessage = none := by
  have hbegun : InState Pristine r.begun ∧ Calm r.start.state.files r.begun :=
    ⟨hpristine, rfl, hconsole, rfl⟩
  have hbound : Calm r.start.state.files r.bound := leads_bind_calm hbackend habsolute _ hbegun
  exact hbound.stopMessage

/-- How a run ends whose script succeeds and prints no stop signal is decided by binding: it is
stopped by the stop message of binding and succeeds exactly if there is none. There is none if no
closure hides a built-in function of the engine's programs when the run starts and the local space
is at an absolute path. -/
theorem decided_by_binding (r : Run Machine) (hbackend : r.engine.backend = Machine.backend)
    (hunstopped : r.Unstopped) :
    ((∃ v, r.outcome = .ok v) ↔ r.bound.router.stopMessage = none) ∧
    (∀ text, r.outcome = .error (.stopped text) ↔ r.bound.router.stopMessage = some text) ∧
    (Pristine r.start.state → r.start.state.console = [] →
      LocalSpaceAbsolute r.start.state.files r.bindings → ∃ v, r.outcome = .ok v) := by
  refine ⟨hunstopped.ok_iff, hunstopped.stopped_iff, ?_⟩
  intro hpristine hconsole habsolute
  exact hunstopped.ok_iff.mpr (bound_stopMessage hbackend hpristine hconsole habsolute)

/-! ### Scripts that are only a constant -/

theorem not_isStop_warningChunks (m : Machine) : ∀ c ∈ warningChunks m, ¬c.IsStop := by
  intro c hc hstop
  unfold warningChunks at hc
  split at hc
  · cases hc
  · obtain rfl := List.mem_singleton.mp hc
    obtain ⟨-, message, hs⟩ := hstop
    rw [Signal.ofText_warningsText] at hs
    cases hs

theorem eval_const {m : Machine} {source : String} {x : RValue}
    (hread : Expr.readProgram source = .ok [.const x]) (hconsole : m.console = []) :
    (Machine.backend.eval source m).1 = ⟨.ok x, warningChunks m⟩ := by
  let called : Machine := { m with frames := [] }
  have heval : (Expr.const x).eval called = (.ok (.data x), called) := rfl
  have hprinted : called.flushWarnings.console = warningChunks m := by
    rw [flushWarnings_console, show called.console = [] from hconsole, List.nil_append]
    rfl
  simp only [Machine.backend, Machine.evalText_of_ok hread heval, hprinted]
  rfl

theorem unstopped_of_const {r : Run Machine} {x : RValue}
    (hbackend : r.engine.backend = Machine.backend)
    (hread : Expr.readProgram r.script = .ok [.const x]) : r.Unstopped := by
  have hreply : (r.engine.backend.eval r.script r.bound.state).1 =
      ⟨.ok x, warningChunks r.bound.state⟩ := by
    rw [hbackend]
    exact eval_const hread (bound_console hbackend)
  have hconsole : (r.engine.backend.eval r.script r.bound.state).1.console =
      warningChunks r.bound.state := by rw [hreply]
  refine ⟨⟨x, congrArg Reply.answer hreply⟩, ?_⟩
  rw [hconsole]
  exact not_isStop_warningChunks r.bound.state

/-- A run of a script that is only a number. -/
def harmless (bs : Bindings) (s : Session Machine) : Run Machine where
  engine := ⟨Machine.backend, { safeDir := "/", forked := true }⟩
  script := "1"
  bindings := bs
  out := 0
  err := 1
  start := s

theorem unstopped_harmless (bs : Bindings) (s : Session Machine) : (harmless bs s).Unstopped := by
  obtain ⟨x, hread⟩ : ∃ x, Expr.readProgram "1" = .ok [.const x] := ⟨_, rfl⟩
  exact unstopped_of_const rfl hread

def unused : Session Machine where
  state := Machine.create { nodes := [(["work"], .directory true)] } []
  host := { writers := [{}, {}] }

def inWork : Bindings := Bindings.withSpace {} Bindings.localSpaceName ⟨"/work"⟩

theorem localSpaceAbsolute_inWork : LocalSpaceAbsolute unused.state.files inWork := by
  intro space hspace
  obtain rfl : ⟨"/work"⟩ = space := Option.some.inj hspace
  decide +kernel

/-- In a new interpreter the script succeeds, as binding leaves no stop message. -/
theorem decided_by_binding_unused :
    (harmless inWork unused).Unstopped ∧ Pristine unused.state ∧ unused.state.console = [] ∧
    LocalSpaceAbsolute unused.state.files inWork ∧ (∃ v, (harmless inWork unused).outcome = .ok v) ∧
    (harmless inWork unused).bound.router.stopMessage = none := by
  have hunstopped := unstopped_harmless inWork unused
  have hpristine : Pristine unused.state := fun _ _ _ _ hget => (nomatch hget)
  obtain ⟨hiff, -, hends⟩ := decided_by_binding (harmless inWork unused) rfl hunstopped
  have hok := hends hpristine rfl localSpaceAbsolute_inWork
  exact ⟨hunstopped, hpristine, rfl, localSpaceAbsolute_inWork, hok, hiff.mp hok⟩

/-! ### A closure in the place of `options` -/

/-- A run whose script puts a closure that fails in the place of `options`. -/
def shadowing : Run Machine :=
  { harmless {} unused with script := "options = function(warn, error) stop('no')" }

theorem stopMessage_shadowing : (harmless {} shadowing.eval.2).bound.router.stopMessage =
    some "Error in options() : no\n" := by
  decide +kernel

/-- The handler of the first run prints what fails while the second run binds, and that run ends
stopped although its script succeeds and prints nothing. -/
theorem stopped_by_binding :
    Machine.Reached shadowing.start.state ∧ (harmless {} shadowing.eval.2).Unstopped ∧
    (harmless {} shadowing.eval.2).outcome = .error (.stopped "Error in options() : no\n") := by
  have hunstopped := unstopped_harmless {} shadowing.eval.2
  exact ⟨.create _ _, hunstopped, (hunstopped.stopped_iff _).mpr stopMessage_shadowing⟩

end Run

end Engine

end ScriptBridge
