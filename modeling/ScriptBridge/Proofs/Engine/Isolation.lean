import ScriptBridge.Proofs.Engine.Pristine
import ScriptBridge.Proofs.Engine.TwoRuns
import ScriptBridge.Proofs.Machine.Ordered

/-!
# Runs do not see what earlier runs left

Before the script, a run clears its global variables and sets the options `warn` and `error`. Two
interpreters that differ in nothing else are then in the same state, so a run on one is a run on
the other: `Run.isolated`.
-/

namespace ScriptBridge

namespace Machine

variable {names keys : List String} {n key : String} {m m' : Machine} {x : Object}

/-- The states are the same but for the global variables `names` and the options `keys`. -/
structure AgreeOutside (names keys : List String) (m m' : Machine) : Prop where
  rest : m' = { m with globals := m'.globals, options := m'.options }
  globals : ∀ n ∉ names, m.globals.get? n = m'.globals.get? n
  options : ∀ k ∉ keys, m.options.get? k = m'.options.get? k

namespace AgreeOutside

theorem exists_eq (h : AgreeOutside names keys m m') :
    ∃ globals options, m' = { m with globals, options } := ⟨_, _, h.rest⟩

theorem eq (h : AgreeOutside [] [] m m') (hm : Ordered m) (hm' : Ordered m') : m = m' := by
  have hglobals : m.globals = m'.globals :=
    hm.globals.ext hm'.globals fun n => h.globals n List.not_mem_nil
  have hoptions : m.options = m'.options :=
    hm.options.ext hm'.options fun k => h.options k List.not_mem_nil
  rw [h.rest, ← hglobals, ← hoptions]

theorem unhidden (h : AgreeOutside names keys m m') (hn : n ∉ names) (hm : m.Unhidden n) :
    m'.Unhidden n := by
  intro params body hget
  exact hm params body ((h.globals n hn).trans hget)

theorem console_eq (h : AgreeOutside names keys m m') : m.console = m'.console := by
  obtain ⟨globals, options, rfl⟩ := h.exists_eq
  rfl

theorem remove (h : AgreeOutside (n :: names) keys m m') :
    AgreeOutside names keys (m.remove n) (m'.remove n) := by
  obtain ⟨globals, options, rfl⟩ := h.exists_eq
  refine ⟨rfl, fun k hk => ?_, h.options⟩
  simp only [Machine.remove, Dict.get?_erase]
  by_cases hkn : n = k
  · rw [if_pos hkn, if_pos hkn]
  · rw [if_neg hkn, if_neg hkn]
    refine h.globals k fun hmem => ?_
    rcases List.mem_cons.mp hmem with rfl | hmem
    · exact hkn rfl
    · exact hk hmem

theorem setOption (h : AgreeOutside names (key :: keys) m m') :
    AgreeOutside names keys { m with frames := [], options := m.options.insert key x }
      { m' with frames := [], options := m'.options.insert key x } := by
  obtain ⟨globals, options, rfl⟩ := h.exists_eq
  refine ⟨rfl, h.globals, fun k hk => ?_⟩
  simp only [Dict.get?_insert]
  by_cases hkey : key = k
  · rw [if_pos hkey, if_pos hkey]
  · rw [if_neg hkey, if_neg hkey]
    refine h.options k fun hmem => ?_
    rcases List.mem_cons.mp hmem with rfl | hmem
    · exact hkey rfl
    · exact hk hmem

theorem flushWarnings (h : AgreeOutside names keys m m') :
    AgreeOutside names keys m.flushWarnings m'.flushWarnings := by
  refine ⟨?_, by simpa using h.globals, by simpa using h.options⟩
  obtain ⟨globals, options, rfl⟩ := h.exists_eq
  by_cases hwarnings : m.warnings = []
  · simp only [Machine.flushWarnings, hwarnings, if_true]
  · simp only [Machine.flushWarnings, hwarnings, if_false, Machine.print]

theorem handOver (h : AgreeOutside names keys m m') :
    AgreeOutside names keys { m with console := [] } { m' with console := [] } := by
  obtain ⟨globals, options, rfl⟩ := h.exists_eq
  exact ⟨rfl, h.globals, h.options⟩

end AgreeOutside

end Machine

namespace Engine

open Steps

variable {e : Engine Machine} {a : Attachment} {map : Option Nat} {names keys : List String}
  {key : String} {x : Object} {m m' : Machine}

/-! ### Clearing and the first programs -/

/-- The states differ in no more than the global variables `names` and the options `keys`, which
are not what clearing and the first programs need. -/
structure Differ (names keys : List String) (m m' : Machine) : Prop
    extends Machine.AgreeOutside names keys m m' where
  ordered : Machine.Ordered m
  ordered' : Machine.Ordered m'
  unhidden : m.Unhidden "options"
  unhidden' : m'.Unhidden "options"

theorem Differ.remove {n : String} (h : Differ (n :: names) keys m m') :
    Differ names keys (m.remove n) (m'.remove n) where
  toAgreeOutside := h.toAgreeOutside.remove
  ordered := Machine.lasting_ordered.erase m n h.ordered
  ordered' := Machine.lasting_ordered.erase m' n h.ordered'
  unhidden := unhidden_remove h.unhidden
  unhidden' := unhidden_remove h.unhidden'

theorem relates_remove (hbackend : e.backend = Machine.backend) (what n : String) :
    Relates (Alike a map (Differ (n :: names) keys)) (attempt a.err what (e.backend.remove n))
      (Alike a map (Differ names keys)) := by
  rw [hbackend]
  exact relates_attempt fun m m' hm => ⟨rfl, rfl, hm.remove⟩

theorem relates_clear (hbackend : e.backend = Machine.backend) :
    Relates (Alike a map (Differ runNames keys)) (e.clear a.err)
      (Alike a map (Differ [] keys)) := by
  -- Each removal takes one name off the list of those in which the states may differ.
  have hclear (ns : List String) : Relates (Alike a map (Differ ns keys))
      (ns.forM fun n => attempt a.err s!"unable to clear '{n}'" (e.backend.remove n))
      (Alike a map (Differ [] keys)) := by
    induction ns with
    | nil => exact respects_pure
    | cons n ns ih => exact relates_bind (relates_remove hbackend _ n) fun _ => ih
  exact hclear runNames

/-- A program that sets an option takes it off the options in which the states may differ. -/
theorem relates_setOption (hbackend : e.backend = Machine.backend) {program : String}
    (hprogram : ∀ m : Machine, m.Unhidden "options" → ∃ y, Machine.evalText program m = (.ok y,
      Machine.flushWarnings { m with frames := [], options := m.options.insert key x }))
    (what : String) :
    Relates (Alike a map (Differ names (key :: keys))) (e.exec a.err what program)
      (Alike a map (Differ names keys)) := by
  have hordered {m : Machine} (hm : Machine.Ordered m) : Machine.Ordered
      (Machine.flushWarnings { m with frames := [], options := m.options.insert key x }) :=
    Machine.lasting_ordered.flushWarnings ⟨hm.globals, hm.options.insert key x⟩
  have hunhidden {m : Machine} (hm : m.Unhidden "options") : Machine.Unhidden
      (Machine.flushWarnings { m with frames := [], options := m.options.insert key x })
      "options" := by
    intro params body
    rw [Machine.flushWarnings_globals]
    exact hm params body
  refine relates_attempt fun m m' hm => ?_
  obtain ⟨y, hy⟩ := hprogram m hm.unhidden
  obtain ⟨y', hy'⟩ := hprogram m' hm.unhidden'
  have hset := (hm.toAgreeOutside.setOption (x := x)).flushWarnings
  simp only [hbackend, Machine.backend, hy, hy']
  refine ⟨hset.console_eq, rfl, hset.handOver, ?_, ?_, ?_, ?_⟩
  · exact Machine.Ordered.mk (hordered hm.ordered).globals (hordered hm.ordered).options
  · exact Machine.Ordered.mk (hordered hm.ordered').globals (hordered hm.ordered').options
  · exact hunhidden hm.unhidden
  · exact hunhidden hm.unhidden'

theorem relates_bind_differ (hbackend : e.backend = Machine.backend) {bs : Bindings} :
    Relates (Alike a bs.variables? (Differ runNames ["warn", "error"])) (e.bind a.err bs)
      (Alike a bs.variables? Eq) := by
  obtain ⟨x, hx⟩ := evalText_warnProgram e.config.warnLevel
  refine relates_bindings (relates_clear hbackend) (relates_setOption hbackend hx) ?_
  intro what s s' hs
  obtain ⟨hvalue, hafter⟩ :=
    relates_setOption hbackend (fun m hm => evalText_stopProgram hm) what s s' hs
  -- No name and no option is left to differ in, and sorted lists with the same entries are equal.
  have hstate := hafter.state.eq hafter.state.ordered hafter.state.ordered'
  exact ⟨hvalue, hstate, hafter.router, hafter.host⟩

/-! ### Runs -/

namespace Run

/-- A run does not depend on what earlier runs left in the variables and options of runs. Let `s` be
a session that looks the same to the run as the one it starts from, in a state that differs in no
more than these variables and options. Started from `s` the run ends in the same way, with the same
bindings, in the same state of the interpreter, and with the same in its writers, in its sink and in
its job variables. -/
theorem isolated (r : Run Machine) (s : Session Machine)
    (hbackend : r.engine.backend = Machine.backend) (hordered : Machine.Ordered r.start.state)
    (hordered' : Machine.Ordered s.state) (hoptions : r.start.state.Unhidden "options")
    (halike : AlikeAtRest r.attachment r.bindings.variables?
      (Machine.AgreeOutside runNames ["warn", "error"]) r.start s) :
    (r.restart s).outcome = r.outcome ∧ (r.restart s).eval.1.2 = r.eval.1.2 ∧
    (r.restart s).eval.2.state = r.eval.2.state ∧
    r.eval.2.host.Alike r.attachment r.bindings.variables? (r.restart s).eval.2.host := by
  have hstart : AlikeAtRest r.attachment r.bindings.variables?
      (Differ runNames ["warn", "error"]) r.start s := by
    have hoptions' := halike.state.unhidden (by decide) hoptions
    exact ⟨⟨halike.state, hordered, hordered', hoptions, hoptions'⟩, halike.echo, halike.host⟩
  obtain ⟨hyields, hends⟩ := eval_restart (relates_bind_differ hbackend) hstart
  have houtcome : r.eval.1.1 = (r.restart s).eval.1.1 := by rw [hyields]
  have hcontext : r.eval.1.2 = (r.restart s).eval.1.2 := by rw [hyields]
  exact ⟨houtcome.symm, hcontext.symm, hends.state.symm, hends.host⟩

/-! ### A new interpreter and a used one -/

def onNew : Run Machine where
  engine := ⟨Machine.backend, { safeDir := "/" }⟩
  script := "exists('result')"
  bindings := {}
  out := 1
  err := 2
  start :=
    { state := Machine.create {} [], router := { echo := some 0 }, host.writers := [{}, {}, {}] }

/-- A session in which an earlier run has left a result, a function for progress, an error handler,
a level of warnings, a stop message and an echo. -/
def used : Session Machine where
  state :=
    { Machine.create {} [] with
      globals := [("result", .data (.string "old")), ("set_progress", .closure [] (.name "old"))]
      options := [("error", .closure [] (.name "old")), ("warn", .data (.ofFloat 2))] }
  router := { echo := some 0, stopMessage := some "old" }
  host.writers := [{ octets := Utf8.encode "old" }, {}, {}]

theorem ordered_used : Machine.Ordered used.state where
  globals := .cons (List.forall_mem_singleton.mpr (by decide)) (List.pairwise_singleton _ _)
  options := .cons (List.forall_mem_singleton.mpr (by decide)) (List.pairwise_singleton _ _)

theorem agreeOutside_used :
    Machine.AgreeOutside runNames ["warn", "error"] onNew.start.state used.state := by
  refine ⟨rfl, fun n hn => ?_, fun k hk => ?_⟩
  · have hresult : "result" ≠ n := fun h => hn (h ▸ by decide)
    have hprogress : "set_progress" ≠ n := fun h => hn (h ▸ by decide)
    simp only [onNew, used, Machine.create, Dict.get?_cons, if_neg hresult, if_neg hprogress]
  · have hwarn : "warn" ≠ k := fun h => hk (h ▸ by decide)
    have herror : "error" ≠ k := fun h => hk (h ▸ by decide)
    simp only [onNew, used, Machine.create, Dict.get?_cons, if_neg hwarn, if_neg herror]

theorem alike_used : AlikeAtRest onNew.attachment onNew.bindings.variables?
    (Machine.AgreeOutside runNames ["warn", "error"]) onNew.start used where
  state := agreeOutside_used
  echo _ _ := Iff.rfl
  host := ⟨rfl, rfl, fun _ h => (nomatch h), fun _ h => (nomatch h)⟩

/-- On the used interpreter the run ends as on the new one. -/
theorem isolated_used :
    onNew.engine.backend = Machine.backend ∧ Machine.Ordered onNew.start.state ∧
    Machine.Ordered used.state ∧ onNew.start.state.Unhidden "options" ∧
    AlikeAtRest onNew.attachment onNew.bindings.variables?
      (Machine.AgreeOutside runNames ["warn", "error"]) onNew.start used ∧
    (onNew.restart used).outcome = onNew.outcome ∧
    (onNew.restart used).eval.2.state = onNew.eval.2.state := by
  have hnew : Machine.Ordered onNew.start.state := (Machine.Reached.create {} []).ordered
  have hoptions : onNew.start.state.Unhidden "options" := fun _ _ hget => (nomatch hget)
  obtain ⟨houtcome, -, hstate, -⟩ := isolated onNew used rfl hnew ordered_used hoptions alike_used
  exact ⟨rfl, hnew, ordered_used, hoptions, alike_used, houtcome, hstate⟩

end Run

end Engine

end ScriptBridge
