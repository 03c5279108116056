import ScriptBridge.Proofs.Machine.Trial

/-!
# Quiet between the calls of the host

Between two calls of the host no call of a closure is under way, no warning waits and no error
handler runs (`Machine.Quiet`, `Machine.Reached.quiet_and_warned`). The warnings that an expression
of a program raises while warnings wait, in its error handler too, are those that are printed at its
end, all together and in order: the text that is printed has a header and then an entry for each of
them (`Machine.lists_warningsText`).
-/

namespace ScriptBridge.Machine

variable {m : Machine}

/-! ### The text of warnings -/

/-- A text that lists warnings: a header, and behind it an entry for each of them, in their order.
An entry is the warning with a line end behind it and, unless it is the only one, its number before
it. -/
def Lists (text : String) (ws : List String) : Prop :=
  ∃ header entries, text = header ++ String.join entries ∧
    header = (if ws.length = 1 then "Warning message:\n" else "Warning messages:\n") ∧
    entries.length = ws.length ∧
    ∀ i w, ws[i]? = some w →
      entries[i]? = some (if ws.length = 1 then w ++ " \n" else s!"{i + 1}: {w}\n")

theorem lists_warningsText (ws : List String) : Lists (warningsText ws) ws := by
  by_cases hone : ws.length = 1
  · obtain ⟨w, rfl⟩ := List.length_eq_one_iff.mp hone
    refine ⟨"Warning message:\n", [w ++ " \n"], ?_, rfl, rfl, fun i w' hw' => ?_⟩
    · have hentry : String.join [w ++ " \n"] = w ++ " \n" := by simp
      rw [hentry, ← String.append_assoc]
      rfl
    · cases i with
      | zero =>
        cases hw'
        rfl
      | succ i => cases hw'
  · have htext : warningsText ws = "Warning messages:\n" ++
        String.join (ws.zipIdx.map fun e => s!"{e.2 + 1}: {e.1}\n") := by
      unfold warningsText
      split
      · exact absurd rfl hone
      · rfl
    refine ⟨_, _, htext, (if_neg hone).symm, ?_, fun i w hw => ?_⟩
    · rw [List.length_map, List.length_zipIdx]
    · rw [if_neg hone, List.getElem?_map, List.getElem?_zipIdx, hw]
      simp

/-! ### Quiet -/

/-- No calls are under way, no warnings wait, and no error handler runs. -/
structure Quiet (m : Machine) : Prop where
  frames : m.frames = []
  warnings : m.warnings = []
  handling : m.handling = false

/-- An expression of a program comes to a result, with what its error does and before the warnings
that wait are printed. Up to there `raised` are the warnings that were raised while warnings
wait. -/
def Concludes (e : Expr) (m : Machine) (result : Except String Object) (before : Machine)
    (raised : List String) : Prop :=
  ∃ depth, ∀ d ≥ depth, ∃ deepest, Trial.conclude (Expr.attempt d) e ⟨m, [], m.frames.length⟩ =
    some (result, ⟨before, raised, deepest⟩)

@[simp] theorem flushWarnings_warnings : m.flushWarnings.warnings = [] := by
  unfold flushWarnings
  split
  · assumption
  · rfl

theorem handling_conclude (e : Expr) (h : m.handling = false) :
    (conclude e m).2.handling = false := by
  have heval := e.keeps_eval (stable_handling false) { m with frames := [] } h
  rcases he : e.eval { m with frames := [] } with ⟨exit | x, m'⟩
  · rw [he] at heval
    rw [conclude_of_error he]
    exact handling_reportError heval
  · rw [he] at heval
    rw [conclude_of_ok he]
    exact heval

theorem quiet_evalExpr (e : Expr) (h : m.handling = false) : Quiet (evalExpr e m).2 := by
  rw [evalExpr_eq]
  refine ⟨?_, flushWarnings_warnings, ?_⟩
  · rw [flushWarnings_frames, frames_conclude]
  · rw [flushWarnings_handling, handling_conclude e h]

theorem quiet_evalProgram (last : Object) (program : List Expr) (h : Quiet m) :
    Quiet (evalProgram last program m).2 := by
  induction program generalizing last m with
  | nil => exact h
  | cons e rest ih =>
    have hfirst := quiet_evalExpr e h.handling
    rcases he : evalExpr e m with ⟨text | x, m'⟩
    · rw [he] at hfirst
      simp only [evalProgram, Steps.bind_apply, he]
      exact hfirst
    · rw [he] at hfirst
      simp only [evalProgram, Steps.bind_apply, he]
      exact ih x hfirst

theorem quiet_evalText (source : String) (h : Quiet m) : Quiet (evalText source m).2 := by
  cases hread : Expr.readProgram source with
  | error problem =>
    rw [evalText, hread]
    exact h
  | ok program =>
    rw [evalText_of_read hread]
    exact quiet_evalProgram _ _ h

theorem Reached.quiet (h : Reached m) : Quiet m := by
  induction h with
  | create => exact ⟨rfl, rfl, rfl⟩
  | evalText source _ ih => exact quiet_evalText source ih
  | assign _ _ _ ih => exact ⟨ih.frames, ih.warnings, ih.handling⟩
  | remove _ _ ih => exact ⟨ih.frames, ih.warnings, ih.handling⟩
  | outside _ _ _ _ ih => exact ⟨ih.frames, ih.warnings, ih.handling⟩

theorem exists_concludes (e : Expr) (h : Quiet m) :
    ∃ before raised, Concludes e m (evalExpr e m).1 before raised ∧
      (evalExpr e m).2.console =
        before.console ++ if raised = [] then [] else [⟨.error, warningsText raised⟩] := by
  obtain ⟨raised, ⟨depth, hends⟩, hraised⟩ := endsNoting_conclude e m
  rw [h.warnings, List.nil_append] at hraised
  refine ⟨(conclude e m).2, raised, ⟨depth, fun d hd => ?_⟩, ?_⟩
  · obtain ⟨deepest, -, htried⟩ := hends d hd [] m.frames.length (length_frames_le h.frames)
    exact ⟨deepest, htried.trans (by rw [evalExpr_eq, List.nil_append])⟩
  · rw [evalExpr_eq, flushWarnings, hraised]
    split
    · rw [List.append_nil]
    · rfl

/-- Between the calls of the host the interpreter is quiet. Whenever it is, it is so again after an
expression of a program, and the warnings that were raised meanwhile while warnings wait, no matter
how the option `warn` changed, are printed at the end of the expression: once each and in order, in
one chunk. -/
theorem Reached.quiet_and_warned (h : Reached m) :
    Quiet m ∧ ∀ between : Machine, Quiet between → ∀ e : Expr,
      Quiet (evalExpr e between).2 ∧
      ∃ before raised, Concludes e between (evalExpr e between).1 before raised ∧
        (evalExpr e between).2.console =
          before.console ++ (if raised = [] then [] else [⟨.error, warningsText raised⟩]) ∧
        Lists (warningsText raised) raised := by
  refine ⟨h.quiet, fun between hbetween e => ⟨quiet_evalExpr e hbetween.handling, ?_⟩⟩
  obtain ⟨before, raised, hconcludes, hconsole⟩ := exists_concludes e hbetween
  exact ⟨before, raised, hconcludes, hconsole, lists_warningsText raised⟩

theorem Reached.quiet_and_warned_warning :
    let e : Expr := .call (.name "warning") [(none, .const (.string "a"))]
    let m := Machine.create {} []
    Quiet m ∧ Quiet (evalExpr e m).2 ∧
      ∃ before raised, Concludes e m (evalExpr e m).1 before raised ∧
        (evalExpr e m).2.console =
          before.console ++ (if raised = [] then [] else [⟨.error, warningsText raised⟩]) ∧
        Lists (warningsText raised) raised :=
  have h := (Reached.create {} []).quiet_and_warned
  ⟨h.1, h.2 _ h.1 _⟩

/-- A program that warns before, while and after warnings are printed at once, and fails. -/
def warned : String :=
  "\x7b f = function() warning('a'); f(); options(warn = 1L); warning('b'); options(warn = 0L); " ++
    "warning('c'); stop('d') \x7d"

example :
    let m := { create {} [] with options := [("warn", .data (.ofInt32 0))] }
    (Trial.evalText (Expr.attempt 6) warned ⟨m, [], 0⟩).map
        (fun (_, w) => (w.raised, w.machine.console)) =
      some (["In f() : a", "c"], [⟨.error, "Warning: b\n"⟩, ⟨.error, "Error: d\n"⟩,
        ⟨.error, "Warning messages:\n1: In f() : a\n2: c\n"⟩]) := by
  decide +kernel

end ScriptBridge.Machine
