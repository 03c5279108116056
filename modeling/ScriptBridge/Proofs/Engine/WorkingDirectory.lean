import ScriptBridge.Proofs.Engine.Pristine
import ScriptBridge.Proofs.Files
import ScriptBridge.Proofs.Machine.Ordered
import ScriptBridge.Proofs.Space

/-!
# The working directory after a run

A run ends with a program of the engine that moves to the directory of its settings. What was a
directory when the run started is one still, whatever the script has written
(`Run.isDirectory_reconciled`), and if no closure is in the place of `setwd`, the program moves
there (`Run.directory_restored`). Its path must have no backslash, since scripts see paths with
slashes only: otherwise, or if a script has left a closure, the interpreter stays where it is
(`Run.directory_not_restored`).
-/

namespace ScriptBridge

theorem Machine.lasting_isDirectory (path : String) :
    Machine.Lasting fun m => m.files.isDirectory path = true where
  console _ _ h := h
  warnings _ _ h := h
  files _ _ _ _ _ hwrite h := (Files.grown_write hwrite).isDirectory h
  options _ _ _ h := h
  directory _ _ h := h
  frames _ _ h := h
  insert _ _ _ h := h
  erase _ _ h := h
  lastError _ _ h := h
  handling _ _ h := h

theorem Machine.pathOf_of_isAbsolute {m : Machine} {path : String}
    (h : Path.isAbsolute path = true) : m.pathOf path = path := by
  rw [Machine.pathOf, Path.join, if_pos h]

@[simp] theorem Machine.flushWarnings_directory {m : Machine} :
    m.flushWarnings.directory = m.directory := by
  unfold Machine.flushWarnings
  split <;> rfl

namespace Engine

open Steps

variable {e : Engine Machine} {err : Nat} {path : String}

def HasDirectory (path : String) : Session Machine → Prop :=
  InState fun m => m.files.isDirectory path = true

theorem keeps_bind_hasDirectory (hbackend : e.backend = Machine.backend) (bs : Bindings) :
    Keeps (HasDirectory path) (e.bind err bs) := by
  have hexec (what program : String) : Keeps (HasDirectory path) (e.exec err what program) :=
    leads_exec hbackend what fun _ hm => (Machine.lasting_isDirectory path).evalText program hm
  have hassign (name : String) (x : RValue) :
      Keeps (HasDirectory path) (e.assign err name x) :=
    leads_assign hbackend fun m hm => hm
  exact leads_bindings (keeps_forM fun name _ => leads_remove hbackend _ fun m hm => hm)
    (fun _ => hexec _ _) (fun _ => hexec _ _) keeps_report_inState (fun name _ => hassign name)
    (fun _ => hexec _ _) (fun _ _ => hexec _ _)
    (fun _ _ => leads_bindVariables (hassign _) keeps_report_inState) fun _ _ hs => hs

/-- A program that moves to an absolute path moves there and nowhere else. -/
theorem directory_moveProgram {m : Machine} (hsetwd : m.Unhidden "setwd")
    (habsolute : Path.isAbsolute path = true) (hdir : m.files.isDirectory path = true) :
    (Machine.evalText (moveProgram path) m).2.directory = path := by
  have hpath : m.pathOf path = path := Machine.pathOf_of_isAbsolute habsolute
  rw [← hpath] at hdir
  obtain ⟨y, hy⟩ := evalText_moveProgram hsetwd hdir
  rw [hy, Machine.flushWarnings_directory]
  exact hpath

theorem mergeVariables_state (hbackend : e.backend = Machine.backend) (map : Nat)
    (s : Session Machine) : (e.mergeVariables err map s).2.state = s.state := by
  have hget : (call (e.backend.get "variables") s).2.state = s.state := by
    rw [hbackend]
    rfl
  simp only [mergeVariables, bind_apply]
  rcases (call (e.backend.get "variables") s).1 with p | _ | x
  · exact hget
  · exact hget
  · dsimp only
    cases x.toMap <;> exact hget

namespace Run

variable {r : Run Machine}

theorem reconciled_state (hbackend : r.engine.backend = Machine.backend) :
    r.reconciled.state = { r.scriptState with console := [] } := by
  have hread : r.selectedRead.state = { r.scriptState with console := [] } := by
    rw [selectedRead_state hbackend, scriptCall_snd hbackend]
  unfold reconciled
  split
  · rw [mergeVariables_state hbackend, hread]
  · exact hread

theorem isDirectory_reconciled (hbackend : r.engine.backend = Machine.backend)
    (h : r.start.state.files.isDirectory path = true) :
    r.reconciled.state.files.isDirectory path = true := by
  have hbound : HasDirectory path r.bound := keeps_bind_hasDirectory hbackend _ r.begun h
  rw [reconciled_state hbackend]
  exact (Machine.lasting_isDirectory path).evalText r.script hbound

theorem eval_directory (hbackend : r.engine.backend = Machine.backend)
    (hsetwd : r.scriptState.Unhidden "setwd")
    (h : r.start.state.files.isDirectory (Space.scriptPath r.engine.config.safeDir) = true)
    (habsolute : Path.isAbsolute (Space.scriptPath r.engine.config.safeDir) = true) :
    r.eval.2.state.directory = Space.scriptPath r.engine.config.safeDir := by
  have hunhidden : r.reconciled.state.Unhidden "setwd" := by
    rw [reconciled_state hbackend]
    exact hsetwd
  have hdir := isDirectory_reconciled hbackend h
  have hcleanup : Leads (InState fun m => m = r.reconciled.state) (r.engine.cleanup r.err)
      (InState fun m => m.directory = Space.scriptPath r.engine.config.safeDir) := by
    refine leads_exec hbackend _ ?_
    rintro m rfl
    dsimp only
    exact directory_moveProgram hunhidden habsolute hdir
  rw [eval_eq]
  exact hcleanup r.reconciled rfl

/-- After a run, however it ends, the interpreter is in the directory of the engine's settings, if
that is a directory at an absolute path without a backslash and the script leaves no closure in the
place of `setwd`. -/
theorem directory_restored (r : Run Machine) (hbackend : r.engine.backend = Machine.backend)
    (habsolute : Path.isAbsolute r.engine.config.safeDir = true)
    (h : r.start.state.files.isDirectory r.engine.config.safeDir = true)
    (hslashes : '\\' ∉ r.engine.config.safeDir.toList)
    (hsetwd : r.scriptState.Unhidden "setwd") :
    r.eval.2.state.directory = r.engine.config.safeDir := by
  have hpath := Space.scriptPath_of_not_mem hslashes
  have hrestored := eval_directory (r := r) hbackend hsetwd
  rw [hpath] at hrestored
  exact hrestored h habsolute

/-- A run in a new interpreter with a directory to work in, and one to return to. -/
def returning (safeDir script : String) : Run Machine where
  engine := ⟨Machine.backend, { safeDir, forked := true }⟩
  script := script
  bindings := {}
  out := 0
  err := 1
  start :=
    { state := Machine.create
        { nodes := [(["a\\b"], .directory true), (["safe"], .directory true),
            (["work"], .directory true)], start := ["work"] } []
      host := { writers := [{}, {}] } }

/-- A run whose script moves away and fails. -/
def leaving : Run Machine := returning "/safe" "setwd('/'); stop('no')"

theorem unhidden_leaving : leaving.scriptState.Unhidden "setwd" := by
  have hnone : (leaving.scriptState.globals.get? "setwd").isNone = true := by decide +kernel
  intro params body hget
  rw [hget] at hnone
  cases hnone

theorem directory_restored_leaving :
    Path.isAbsolute leaving.engine.config.safeDir = true ∧
    leaving.start.state.files.isDirectory leaving.engine.config.safeDir = true ∧
    '\\' ∉ leaving.engine.config.safeDir.toList ∧
    leaving.eval.2.state.directory = leaving.engine.config.safeDir := by
  have habsolute : Path.isAbsolute leaving.engine.config.safeDir = true := rfl
  have hdirectory : leaving.start.state.files.isDirectory leaving.engine.config.safeDir = true := by
    decide +kernel
  have hslashes : '\\' ∉ leaving.engine.config.safeDir.toList := by decide +kernel
  exact ⟨habsolute, hdirectory, hslashes,
    directory_restored leaving rfl habsolute hdirectory hslashes unhidden_leaving⟩

def staying : Run Machine := returning "/safe" "setwd = function(dir) NULL"

def backslashed : Run Machine := returning "/a\\b" "NULL"

/-- A closure that a script leaves in the place of `setwd` keeps the interpreter from moving, and so
does a backslash on the path, although both paths name directories. -/
theorem directory_not_restored :
    Machine.Reached staying.start.state ∧
    (Path.isAbsolute staying.engine.config.safeDir = true ∧
      staying.start.state.files.isDirectory staying.engine.config.safeDir = true ∧
      staying.engine.config.safeDir = "/safe" ∧ staying.eval.2.state.directory = "/work") ∧
    Machine.Reached backslashed.start.state ∧
    Path.isAbsolute backslashed.engine.config.safeDir = true ∧
      backslashed.start.state.files.isDirectory backslashed.engine.config.safeDir = true ∧
      backslashed.engine.config.safeDir = "/a\\b" ∧ backslashed.eval.2.state.directory = "/work" :=
  ⟨.create _ _, ⟨rfl, by decide +kernel, rfl, by decide +kernel⟩,
    .create _ _, rfl, by decide +kernel, rfl, by decide +kernel⟩

end Run

end Engine

end ScriptBridge
