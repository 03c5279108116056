import ScriptBridge.Proofs.Dict
import ScriptBridge.Proofs.Engine.OnMachine
import ScriptBridge.Proofs.Engine.StopHandler

/-!
# What binding leaves in the interpreter

While no closure hides a built-in function that the engine's own programs call, these programs do
what they are meant to do: none of them fails but by a directory that cannot be moved to, and then
the stop handler prints the error. So binding leaves the stop handler installed and sets no variable
of its own accord (`leads_bind_guarded`).
-/

namespace ScriptBridge.Engine

open Steps

variable {m m' : Machine} {x : Object} {key n : String}

/-- The built-in functions that the engine's own programs call. -/
def programNames : List String := "options" :: "setwd" :: stopNames

/-- No closure hides a built-in function that the engine's own programs call. -/
def Pristine (m : Machine) : Prop := ∀ n ∈ programNames, m.Unhidden n

/-- In addition there are no job variables. -/
structure Cleared (m : Machine) : Prop where
  pristine : Pristine m
  absent : m.globals.get? "variables" = none

/-- In addition the stop handler is installed. -/
structure Guarded (m : Machine) : Prop extends Cleared m where
  handler : m.options.get? "error" = some stopHandler

theorem Pristine.stopNames (h : Pristine m) : ∀ n ∈ Engine.stopNames, m.Unhidden n :=
  fun n hn => h n (List.mem_cons_of_mem _ (List.mem_cons_of_mem _ hn))

theorem Cleared.of_globals (h : Cleared m) (hglobals : m'.globals = m.globals) : Cleared m' where
  pristine n hn params body := by
    rw [hglobals]
    exact h.pristine n hn params body
  absent := by rw [hglobals, h.absent]

theorem Guarded.of_eq (h : Guarded m) (hglobals : m'.globals = m.globals)
    (hoptions : m'.options = m.options) : Guarded m' where
  toCleared := h.toCleared.of_globals hglobals
  handler := by rw [hoptions, h.handler]

theorem Cleared.handOver (h : Cleared m) : Cleared { m with console := [] } := h.of_globals rfl

theorem Guarded.handOver (h : Guarded m) : Guarded { m with console := [] } := h.of_eq rfl rfl

/-! ### Variables set and removed -/

theorem unhidden_insert (h : m.Unhidden n)
    (hx : n = key → ∀ params body, x ≠ .closure params body) :
    Machine.Unhidden { m with globals := m.globals.insert key x } n := by
  intro params body hget
  rw [Dict.get?_insert] at hget
  split at hget
  · next hkey => exact hx hkey.symm params body (Option.some.inj hget)
  · exact h params body hget

theorem Guarded.insert (h : Guarded m) (hvariables : key ≠ "variables")
    (hx : key ∈ programNames → ∀ params body, x ≠ .closure params body) :
    Guarded { m with globals := m.globals.insert key x } where
  pristine n hn := unhidden_insert (h.pristine n hn) fun hkey => hx (hkey ▸ hn)
  absent := by rw [Dict.get?_insert_ne hvariables, h.absent]
  handler := h.handler

theorem unhidden_remove (h : m.Unhidden n) : (m.remove key).Unhidden n := by
  intro params body hget
  rw [Machine.remove, Dict.get?_erase] at hget
  split at hget
  · cases hget
  · exact h params body hget

theorem pristine_remove (h : Pristine m) : Pristine (m.remove key) :=
  fun n hn => unhidden_remove (h n hn)

theorem absent_remove (h : m.globals.get? "variables" = none) :
    (m.remove key).globals.get? "variables" = none := by
  rw [Machine.remove, Dict.get?_erase, h, ite_self]

/-! ### The engine's programs -/

theorem eval_builtin {args : List (Option String × Expr)} (h : m.Unhidden n) (hrm : n ≠ "rm") :
    (Expr.call (.name n) args).eval { m with frames := [] } =
      (Expr.evalArgs (Call.perform Machine.maxFrames) args >>= Builtin.call n)
        { m with frames := [] } :=
  Expr.evalWith_builtin h hrm

theorem evalText_setOption {program : String} {value : Expr}
    (hread : Expr.readProgram program = .ok [.call (.name "options") [(some key, value)]])
    (hvalue : ∀ (call : Caller) (m : Machine), value.evalWith call m = (.ok x, m))
    (h : m.Unhidden "options") :
    ∃ y, Machine.evalText program m = (.ok y,
      Machine.flushWarnings { m with frames := [], options := m.options.insert key x }) := by
  let called : Machine := { m with frames := [] }
  obtain ⟨y, hy⟩ : ∃ y, (Expr.call (.name "options") [(some key, value)]).eval called =
      (.ok y, { called with options := m.options.insert key x }) := by
    rw [eval_builtin h (by decide),
      Exec.bind_of_ok (Expr.evalArgs_cons_of_ok (hvalue _ _) Expr.evalArgs_nil)]
    exact ⟨_, rfl⟩
  exact ⟨y.readBack, Machine.evalText_of_ok hread hy⟩

theorem evalWith_isNumber {e : Expr} (h : IsNumber e) :
    ∃ x, ∀ (call : Caller) (m : Machine), e.evalWith call m = (.ok x, m) := by
  cases h with
  | plain x => exact ⟨_, fun _ _ => rfl⟩
  | negative x => exact ⟨_, fun _ _ => rfl⟩

theorem evalText_warnProgram (level : Int32) : ∃ x, ∀ m : Machine, m.Unhidden "options" →
    ∃ y, Machine.evalText (warnProgram level) m = (.ok y,
      Machine.flushWarnings { m with frames := [], options := m.options.insert "warn" x }) := by
  obtain ⟨e, he, hread⟩ := readProgram_warnProgram level
  obtain ⟨x, hx⟩ := evalWith_isNumber he
  exact ⟨x, fun m => evalText_setOption hread hx⟩

theorem evalText_stopProgram (h : m.Unhidden "options") :
    ∃ y, Machine.evalText stopProgram m = (.ok y, Machine.flushWarnings
      { m with frames := [], options := m.options.insert "error" stopHandler }) :=
  evalText_setOption readProgram_stopProgram (fun _ _ => rfl) h

theorem cleared_warnProgram (level : Int32) (h : Cleared m) :
    Cleared (Machine.evalText (warnProgram level) m).2 := by
  obtain ⟨x, hx⟩ := evalText_warnProgram level
  obtain ⟨y, hy⟩ := hx m (h.pristine _ (by decide))
  rw [hy]
  exact h.of_globals Machine.flushWarnings_globals

theorem guarded_stopProgram (h : Cleared m) : Guarded (Machine.evalText stopProgram m).2 := by
  obtain ⟨y, hy⟩ := evalText_stopProgram (h.pristine _ (by decide))
  rw [hy]
  refine ⟨h.of_globals Machine.flushWarnings_globals, ?_⟩
  rw [Machine.flushWarnings_options, Dict.get?_insert_self]

theorem evalText_progressProgram :
    Machine.evalText progressProgram m = (.ok progressReporter.readBack, Machine.flushWarnings
      { m with frames := [], globals := m.globals.insert "set_progress" progressReporter }) := by
  have heval : (Expr.assign (.name "set_progress") (.function [("x", none)] progressBody)
      false).eval { m with frames := [] } = (.ok progressReporter,
        { m with frames := [], globals := m.globals.insert "set_progress" progressReporter }) := rfl
  exact Machine.evalText_of_ok readProgram_progressProgram heval

theorem guarded_progressProgram (h : Guarded m) :
    Guarded (Machine.evalText progressProgram m).2 := by
  have hset : Guarded { m with globals := m.globals.insert "set_progress" progressReporter } :=
    h.insert (by decide) fun hmem => absurd hmem (by decide)
  rw [evalText_progressProgram]
  exact hset.of_eq Machine.flushWarnings_globals Machine.flushWarnings_options

/-- A report of an error calls the stop handler at most, which sets nothing. -/
theorem reportError_kept {c : Condition} (h : Guarded m) :
    (Machine.reportError c m).2.globals = m.globals ∧
      (Machine.reportError c m).2.options = m.options := by
  cases hhandling : m.handling with
  | false =>
    rw [reportError_stopHandler h.handler hhandling h.pristine.stopNames]
    exact ⟨rfl, rfl⟩
  | true =>
    rw [reportError_handling hhandling]
    exact ⟨rfl, rfl⟩

theorem changeDirectory_apply (path : String) : ∃ y,
    Builtin.call "setwd" [(none, .data (.string path))] m =
      if m.files.isDirectory (m.pathOf path) = true then
        (.ok y, { m with directory := m.pathOf path })
      else (.error (.error ⟨.cannotChangeDirectory, m.function?⟩), m) := by
  refine ⟨.data (Builtin.shownDirectory m.directory), ?_⟩
  have hpath : Builtin.textOr "" (Builtin.Args.take "dir" [(none, .data (.string path))]).1 m =
      (.ok path, m) := rfl
  by_cases hdir : m.files.isDirectory (m.pathOf path) = true
  · have hmoved : Builtin.changeDirectory [(none, .data (.string path))] m =
        (.ok (Builtin.shownDirectory m.directory), { m with directory := m.pathOf path }) := by
      rw [Builtin.changeDirectory, Exec.bind_of_ok hpath, Exec.bind_of_ok Exec.get_apply,
        if_pos hdir]
      rfl
    rw [if_pos hdir]
    exact Exec.bind_of_ok hmoved
  · have hfailed : Builtin.changeDirectory [(none, .data (.string path))] m =
        (.error (.error ⟨.cannotChangeDirectory, m.function?⟩), m) := by
      rw [Builtin.changeDirectory, Exec.bind_of_ok hpath, Exec.bind_of_ok Exec.get_apply,
        if_neg hdir]
      rfl
    rw [if_neg hdir]
    exact Exec.bind_of_error hfailed

theorem eval_setwd (path : String) (h : m.Unhidden "setwd") :
    (Expr.call (.name "setwd") [(none, .const (.string path))]).eval { m with frames := [] } =
      Builtin.call "setwd" [(none, .data (.string path))] { m with frames := [] } := by
  rw [eval_builtin h (by decide),
    Exec.bind_of_ok (Expr.evalArgs_cons_of_ok rfl Expr.evalArgs_nil)]

theorem evalText_moveProgram {path : String} (h : m.Unhidden "setwd")
    (hdir : m.files.isDirectory (m.pathOf path) = true) :
    ∃ y, Machine.evalText (moveProgram path) m = (.ok y,
      Machine.flushWarnings { m with frames := [], directory := m.pathOf path }) := by
  let called : Machine := { m with frames := [] }
  obtain ⟨y, hy⟩ := @changeDirectory_apply called path
  rw [if_pos (show called.files.isDirectory (called.pathOf path) = true from hdir)] at hy
  exact ⟨y.readBack,
    Machine.evalText_of_ok (readProgram_moveProgram path) ((eval_setwd path h).trans hy)⟩

/-- A move sets neither variables nor options, also where there is no directory to move to. -/
theorem moveProgram_kept (path : String) (h : Guarded m) :
    (Machine.evalText (moveProgram path) m).2.globals = m.globals ∧
      (Machine.evalText (moveProgram path) m).2.options = m.options := by
  let called : Machine := { m with frames := [] }
  have hcalled : Guarded called := h.of_eq rfl rfl
  by_cases hdir : m.files.isDirectory (m.pathOf path) = true
  · obtain ⟨y, hy⟩ := evalText_moveProgram (h.pristine _ (by decide)) hdir
    rw [hy]
    exact ⟨Machine.flushWarnings_globals, Machine.flushWarnings_options⟩
  · obtain ⟨y, hy⟩ := @changeDirectory_apply called path
    rw [if_neg (show ¬called.files.isDirectory (called.pathOf path) = true from hdir)] at hy
    have heval := (eval_setwd path (h.pristine _ (by decide))).trans hy
    obtain ⟨hglobals, hoptions⟩ :=
      reportError_kept (c := ⟨.cannotChangeDirectory, called.function?⟩) hcalled
    rw [Machine.evalText_of_failsAt (readProgram_moveProgram path) (.here heval)]
    exact ⟨Machine.flushWarnings_globals.trans hglobals,
      Machine.flushWarnings_options.trans hoptions⟩

theorem guarded_moveProgram (path : String) (h : Guarded m) :
    Guarded (Machine.evalText (moveProgram path) m).2 :=
  h.of_eq (moveProgram_kept path h).1 (moveProgram_kept path h).2

/-! ### Binding -/

variable {e : Engine Machine} {err : Nat} {bs : Bindings}

theorem leads_clear (hbackend : e.backend = Machine.backend) :
    Leads (InState Pristine) (e.clear err) (InState Cleared) := by
  refine leads_forM_of_mem (a := "variables") (by decide) ?_ (fun name _ => ?_) fun name _ => ?_
  · refine leads_remove hbackend _ fun m hm => ⟨pristine_remove hm, ?_⟩
    rw [Machine.remove, Dict.get?_erase, if_pos rfl]
  · exact leads_remove hbackend _ fun m hm => pristine_remove hm
  · exact leads_remove hbackend _ fun m hm => ⟨pristine_remove hm.pristine, absent_remove hm.absent⟩

/-- Binding comes to the job variables with the stop handler installed, and with what is steady. -/
theorem leads_bind_guarded (hbackend : e.backend = Machine.backend)
    {P U : Session Machine → Prop} (hP : Steady P)
    (hvariables : ∀ map, bs.variables? = some map →
      Leads (fun s => InState Guarded s ∧ P s) (e.bindVariables err map) U)
    (hnone : bs.variables? = none → ∀ s, InState Guarded s ∧ P s → U s) :
    Leads (fun s => InState Pristine s ∧ P s) (e.bind err bs) U := by
  have hexec {A B : Machine → Prop} {program : String} (what : String)
      (h : ∀ m, A m → B { (Machine.evalText program m).2 with console := [] }) :
      Leads (fun s => InState A s ∧ P s) (e.exec err what program) fun s => InState B s ∧ P s :=
    (leads_exec hbackend what h).and (hP.attempt _ _)
  refine leads_bindings (Q := fun s => InState Cleared s ∧ P s)
    (R := fun s => InState Cleared s ∧ P s) (T := fun s => InState Guarded s ∧ P s)
    ((leads_clear hbackend).and (keeps_forM fun _ _ => hP.attempt _ _))
    (fun what => hexec what fun m hm => (cleared_warnProgram _ hm).handOver)
    (fun what => hexec what fun m hm => (guarded_stopProgram hm).handOver)
    (fun what problem => (keeps_report_inState what problem).and (hP.report _ _ _))
    (fun name hname x => (leads_assign hbackend fun m hm => ?_).and (hP.attempt _ _))
    (fun what => hexec what fun m hm => (guarded_progressProgram hm).handOver)
    (fun what path => hexec what fun m hm => (guarded_moveProgram path hm).handOver)
    hvariables hnone
  refine hm.insert ?_ fun _ _ _ => Object.noConfusion
  rintro rfl
  revert hname
  decide

theorem Run.bound_stopHandler {r : Run Machine} (hbackend : r.engine.backend = Machine.backend)
    (hpristine : Pristine r.start.state) :
    Pristine r.bound.state ∧ r.bound.state.options.get? "error" = some stopHandler := by
  have hbind : Leads (fun s => InState Pristine s ∧ True) (r.engine.bind r.err r.bindings)
      (InState fun m => Pristine m ∧ m.options.get? "error" = some stopHandler) := by
    refine leads_bind_guarded hbackend ⟨fun _ _ _ => trivial, fun _ _ _ _ _ => trivial⟩
      (fun map _ => leads_bindVariables (fun x s hs => ?_) fun _ _ _ hs => ?_)
      fun _ _ hs => ⟨hs.1.pristine, hs.1.handler⟩
    · refine leads_assign hbackend (A := Guarded) (fun m hm => ⟨fun n hn => ?_, hm.handler⟩) s hs.1
      exact unhidden_insert (hm.pristine n hn) fun _ _ _ => Object.noConfusion
    · exact ⟨hs.1.pristine, hs.1.handler⟩
  have hbound : InState (fun m => Pristine m ∧ m.options.get? "error" = some stopHandler) r.bound :=
    hbind r.begun ⟨hpristine, trivial⟩
  exact hbound

end ScriptBridge.Engine
