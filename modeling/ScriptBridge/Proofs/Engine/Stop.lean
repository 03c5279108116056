import ScriptBridge.Proofs.Console.Signal
import ScriptBridge.Proofs.Console.Writers
import ScriptBridge.Proofs.Engine.Outcome
import ScriptBridge.Proofs.Engine.Pristine

/-!
# From an error to the end of the run

An error that no part of a script catches is printed, and the stop handler prints it again behind
the stop tag. `Run.stopped_of_failsAt`: what the error writer holds grows by the printed text once,
as a diagnostic, and by the warnings that wait, and the run ends stopped with exactly this text,
whatever is in it and whatever came before.
-/

namespace ScriptBridge.Engine

variable {m : Machine} {c : Condition}

/-! ### Warnings after an error -/

/-- The warnings that wait, as they are printed. -/
def warningChunks (m : Machine) : List Chunk :=
  if m.warnings = [] then [] else [⟨.error, Machine.warningsText m.warnings⟩]

theorem flushWarnings_console (m : Machine) :
    m.flushWarnings.console = m.console ++ warningChunks m := by
  unfold Machine.flushWarnings warningChunks
  split
  · simp
  · rfl

/-! ### The report on its way through the router -/

/-- A diagnostic passed on by a router. -/
def tell (r : Router) (text : String) (h : Host) : Host :=
  Router.forward (r.run.map (·.err)) text (Router.forward r.echo text h)

variable {r : Router} {h : Host}

theorem write_diagnostic {text : String} (hs : Signal.ofText text = .diagnostic) :
    r.write ⟨.error, text⟩ h = (r, tell r text h) :=
  Router.writeError_diagnostic _ _ _ hs

theorem writeAll_stopChunks :
    r.writeAll (stopChunks c) h = ({ r with stopMessage := some c.text }, tell r c.text h) := by
  have hstop (h : Host) : r.write ⟨.error, stopTag ++ c.text⟩ h =
      ({ r with stopMessage := some c.text }, h) :=
    Router.writeError_stop _ _ _ (Signal.ofText_stopTag c.text)
  rw [stopChunks, Router.writeAll_cons, write_diagnostic (Signal.ofText_conditionText c),
    Router.writeAll_cons, hstop, Router.writeAll_nil]

theorem writeAll_warningChunks : r.writeAll (warningChunks m) h =
    (r, (warningChunks m).foldl (fun h chunk => tell r chunk.text h) h) := by
  unfold warningChunks
  split
  · rfl
  · rw [Router.writeAll_cons, write_diagnostic (Signal.ofText_warningsText _)]
    rfl

/-! ### Runs -/

namespace Run

variable {r : Run Machine} {program : List Expr}

theorem bound_handling (hbackend : r.engine.backend = Machine.backend)
    (hreached : Machine.Reached r.start.state) : r.bound.state.handling = false := by
  have hbegun : InState (fun m => m.handling = false) r.begun := hreached.handling
  have hbound : InState (fun m => m.handling = false) r.bound :=
    keeps_bind_handling hbackend _ _ hbegun
  exact hbound

theorem scriptState_console (hread : Expr.readProgram r.script = .ok program)
    (hfails : Machine.FailsAt program r.bound.state c m) (hhandling : m.handling = false)
    (herror : m.options.get? "error" = some stopHandler)
    (hnames : ∀ n ∈ stopNames, m.Unhidden n) :
    r.scriptState.console = m.console ++ (stopChunks c ++ warningChunks m) := by
  rw [scriptState, Machine.evalText_of_failsAt hread hfails, flushWarnings_console,
    reportError_stopHandler herror hhandling hnames, List.append_assoc]
  rfl

/-- A diagnostic as the run passes it on: to the writer that echoes, and to the error writer. -/
def tellHost (r : Run Machine) (text : String) (h : Host) : Host :=
  (Router.forward r.start.router.echo text h).write r.err text

theorem tell_eq_tellHost (router : Router)
    (hrun : router.run = some ⟨r.out, r.err, r.bindings.progress?⟩)
    (hecho : router.echo = r.start.router.echo) (text : String) (h : Host) :
    tell router text h = r.tellHost text h := by
  rw [tell, hrun, hecho]
  rfl

/-- What a writer gets of a diagnostic: a copy as the writer that echoes, and one as the error
writer. -/
def copies (r : Run Machine) (i : Nat) (text : String) : List String :=
  (if r.start.router.echo = some i then [text] else []) ++ if r.err = i then [text] else []

theorem copies_err (hecho : r.start.router.echo ≠ some r.err) (text : String) :
    r.copies r.err text = [text] := by
  rw [copies, if_neg hecho, if_pos rfl, List.nil_append]

variable {h : Host} {i : Nat} {octets : List UInt8}

theorem holds_tellHost (hi : h.Holds i octets) (text : String) :
    (r.tellHost text h).Holds i (octets ++ Utf8.encodeAll (r.copies i text)) := by
  rw [copies, Utf8.encodeAll_append, ← List.append_assoc]
  exact (hi.forward r.start.router.echo).write

theorem holds_tellHosts (hi : h.Holds i octets) (chunks : List Chunk) :
    (chunks.foldl (fun h chunk => r.tellHost chunk.text h) h).Holds i
      (octets ++ Utf8.encodeAll (chunks.flatMap fun chunk => r.copies i chunk.text)) := by
  induction chunks generalizing h octets with
  | nil => simpa using hi
  | cons chunk chunks ih =>
    rw [List.flatMap_cons, Utf8.encodeAll_append, ← List.append_assoc]
    exact ih (holds_tellHost hi chunk.text)

/-- Until a script prints something, writers hold what they held before it. -/
theorem holds_of_console (hbackend : r.engine.backend = Machine.backend)
    (hconsole : m.console = r.bound.state.console) (hi : r.bound.host.Holds i octets) :
    (r.bound.router.writeAll m.console r.bound.host).2.Holds i octets := by
  simpa only [hconsole, bound_console hbackend, Router.writeAll_nil] using hi

/-- A script that fails while the stop handler is in place stops its run. The error is printed once,
which is a diagnostic, and once behind the stop tag; only the first goes to the host. So what a
writer holds grows by its copies of the printed error and of the warnings that wait, and by nothing
else. The run ends with the printed text. -/
theorem stopped_of_failsAt (r : Run Machine) (hbackend : r.engine.backend = Machine.backend)
    (hreached : Machine.Reached r.start.state) (hread : Expr.readProgram r.script = .ok program)
    (hfails : Machine.FailsAt program r.bound.state c m)
    (herror : m.options.get? "error" = some stopHandler)
    (hnames : ∀ n ∈ stopNames, m.Unhidden n) :
    r.scriptState.console =
      m.console ++ ([⟨.error, c.text⟩, ⟨.error, stopTag ++ c.text⟩] ++ warningChunks m) ∧
    Signal.ofText c.text = .diagnostic ∧
    r.scriptCall.2.host = (warningChunks m).foldl (fun h chunk => r.tellHost chunk.text h)
      (r.tellHost c.text (r.bound.router.writeAll m.console r.bound.host).2) ∧
    (∀ i octets, (r.bound.router.writeAll m.console r.bound.host).2.Holds i octets →
      r.scriptCall.2.host.Holds i (octets ++ Utf8.encodeAll (r.copies i c.text ++
        (warningChunks m).flatMap fun chunk => r.copies i chunk.text))) ∧
    r.outcome = .error (.stopped c.text) := by
  have hhandling : m.handling = false := hfails.handling (bound_handling hbackend hreached)
  have hconsole := scriptState_console hread hfails hhandling herror hnames
  have hrouted : r.bound.router.writeAll r.scriptState.console r.bound.host =
      ({ (r.bound.router.writeAll m.console r.bound.host).1 with stopMessage := some c.text },
        (warningChunks m).foldl (fun h chunk => r.tellHost chunk.text h)
          (r.tellHost c.text (r.bound.router.writeAll m.console r.bound.host).2)) := by
    have hrun := (Router.writeAll_run r.bound.router m.console r.bound.host).trans bound_serves.run
    have hecho := (Router.writeAll_echo r.bound.router m.console r.bound.host).trans
      bound_serves.echo
    rw [hconsole, Router.writeAll_append, Router.writeAll_append, writeAll_stopChunks,
      writeAll_warningChunks, tell_eq_tellHost _ hrun hecho]
    -- The warnings go through a router that has seen the stop signal already.
    simp only [tell_eq_tellHost { (r.bound.router.writeAll m.console r.bound.host).1 with
      stopMessage := some c.text } hrun hecho]
  refine ⟨hconsole, Signal.ofText_conditionText c, ?_, fun i octets hi => ?_, ?_⟩
  · rw [scriptCall_snd hbackend, hrouted]
  · rw [scriptCall_snd hbackend, hrouted, Utf8.encodeAll_append, ← List.append_assoc]
    exact holds_tellHosts (holds_tellHost hi c.text) _
  · rw [outcome_eq, outcome_eq_stopped, stop?, scriptCall_snd hbackend, hrouted]

/-! ### A script that stops -/

def stopCall (text : String) : Expr :=
  .call (.function [] (.call (.name "stop") [(none, .const (.string text))])) []

theorem eval_stopCall (h : m.Unhidden "stop") (text : String) :
    (stopCall text).eval { m with frames := [] } =
      (.error (.error ⟨.stopped text, some "FUN"⟩), { m with frames := [] }) := by
  let inner : Machine := { m with frames := [⟨"FUN", []⟩] }
  have hstop : ∀ params body, inner.lookup? "stop" ≠ some (.closure params body) := h
  have hbody : (Expr.call (.name "stop") [(none, .const (.string text))]).evalWith
      (Call.perform 47) inner = (.error (.error ⟨.stopped text, some "FUN"⟩), inner) := by
    have hjoin : String.join [text] = text := by simp
    rw [Expr.evalWith_builtin hstop (by decide),
      Exec.bind_of_ok (Expr.evalArgs_cons_of_ok rfl Expr.evalArgs_nil)]
    change (Except.error (Exit.error ⟨.stopped (String.join [text]), some "FUN"⟩), inner) = _
    rw [hjoin]
  change Call.inFrame ⟨"FUN", []⟩ ((Expr.call (.name "stop")
    [(none, .const (.string text))]).evalWith (Call.perform 47)) { m with frames := [] } = _
  rw [Call.inFrame, hbody]
  rfl

theorem failsAt_stopCall (hstop : m.Unhidden "stop")
    (herror : m.options.get? "error" = some stopHandler) (hnames : ∀ n ∈ stopNames, m.Unhidden n)
    (text : String) :
    ∃ m', Machine.FailsAt [stopCall text] m ⟨.stopped text, some "FUN"⟩ m' ∧
      m'.options.get? "error" = some stopHandler ∧ (∀ n ∈ stopNames, m'.Unhidden n) ∧
      m'.console = m.console ∧ m'.warnings = m.warnings :=
  ⟨{ m with frames := [] }, .here (eval_stopCall hstop text), herror, hnames, rfl, rfl⟩

/-- A run of a script that stops with a message that looks like a template and like a signal. -/
def stopping : Run Machine where
  engine := ⟨Machine.backend, { safeDir := "/", forked := true }⟩
  script := "(function() stop('50% <PARError> done'))()"
  bindings := {}
  out := 0
  err := 1
  start := { state := Machine.create {} [], host := { writers := [{}, {}] } }

theorem readProgram_stopping :
    Expr.readProgram stopping.script = .ok [stopCall "50% <PARError> done"] := by
  have hscan : Token.scan "(function() stop('50% <PARError> done'))()" =
      .ok [.openParen, .kwFunction, .openParen, .closeParen, .name "stop", .openParen,
        .text "50% <PARError> done", .closeParen, .closeParen, .openParen, .closeParen] := rfl
  rw [show stopping.script = "(function() stop('50% <PARError> done'))()" from rfl,
    Expr.readProgram, hscan]
  rfl

theorem unhidden_stop : stopping.bound.state.Unhidden "stop" := by
  have hnone : (stopping.bound.state.globals.get? "stop").isNone = true := by decide +kernel
  intro params body hget
  rw [hget] at hnone
  cases hnone

theorem warnings_stopping : stopping.bound.state.warnings = [] := by decide +kernel

theorem holds_stopping : stopping.bound.host.Holds 1 [] := by
  have hwriters : stopping.bound.host.writers = [{}, {}] := by decide +kernel
  exact ⟨{}, by rw [hwriters]; rfl, rfl, rfl⟩

/-- The error writer holds the message as it was printed, and the run ends with it. -/
theorem stopped_of_failsAt_stopping :
    stopping.engine.backend = Machine.backend ∧ Machine.Reached stopping.start.state ∧
    (∃ m, Machine.FailsAt [stopCall "50% <PARError> done"] stopping.bound.state
        ⟨.stopped "50% <PARError> done", some "FUN"⟩ m ∧
      m.options.get? "error" = some stopHandler ∧ ∀ n ∈ stopNames, m.Unhidden n) ∧
    stopping.scriptCall.2.host.Holds 1
      (Utf8.encode "Error in FUN() : 50% <PARError> done\n") ∧
    stopping.outcome = .error (.stopped "Error in FUN() : 50% <PARError> done\n") := by
  have hbackend : stopping.engine.backend = Machine.backend := rfl
  have hreached : Machine.Reached stopping.start.state := .create {} []
  have hpristine : Pristine stopping.start.state := fun _ _ _ _ hget => (nomatch hget)
  have hbound := bound_stopHandler hbackend hpristine
  obtain ⟨m, hfails, hhandler, hnames, hconsole, hwarnings⟩ :=
    failsAt_stopCall unhidden_stop hbound.2 hbound.1.stopNames "50% <PARError> done"
  obtain ⟨-, -, -, hholds, houtcome⟩ := stopped_of_failsAt stopping hbackend hreached
    readProgram_stopping hfails hhandler hnames
  have htext : Condition.text ⟨.stopped "50% <PARError> done", some "FUN"⟩ =
      "Error in FUN() : 50% <PARError> done\n" := rfl
  refine ⟨hbackend, hreached, ⟨m, hfails, hhandler, hnames⟩, ?_, ?_⟩
  · have hquiet : warningChunks m = [] := if_pos (hwarnings.trans warnings_stopping)
    have hcopies (text : String) : stopping.copies 1 text = [text] :=
      copies_err (r := stopping) nofun text
    have hwritten := hholds 1 [] (holds_of_console hbackend hconsole holds_stopping)
    rwa [htext, hquiet, List.flatMap_nil, List.append_nil, hcopies,
      Utf8.encodeAll_singleton, List.nil_append] at hwritten
  · rw [houtcome, htext]

end Run

end ScriptBridge.Engine
