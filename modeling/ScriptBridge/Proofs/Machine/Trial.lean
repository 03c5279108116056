import ScriptBridge.Proofs.Machine.Program
import ScriptBridge.Proofs.Machine.Recursion

/-!
# Trials of limited depth

A trial runs the recursion of the interpreter to a limited depth, and may come to no end within it
(`Expr.attempt`, `Trial.evalText`). The state is watched meanwhile: the warnings that are raised
while warnings wait are noted, and the largest number of frames that were under way.

With depth enough every trial comes to the end that the evaluation comes to (`Trial.Ends`), and has
noted just the warnings that came to wait (`Trial.EndsNoting`).
-/

namespace ScriptBridge

open Exec (Keeps Uses deferred fail uses_warn warnAt warn_eq)

/-- The warnings that wait because of a warning raised now. -/
def Machine.awaited (m : Machine) (text : String) : List String :=
  if m.warnLevel = 0 then [deferred text m.function?] else []

structure Watched where
  machine : Machine
  /-- The warnings that were raised while warnings wait. -/
  raised : List String
  /-- The largest number of frames that were under way. -/
  deepest : Nat

/-- A step on a watched state that may come to no end. -/
abbrev Trial (α : Type) : Type := StateT Watched Option α

namespace Trial

def watch {α : Type} (x : StateM Machine α) : Trial α := fun w =>
  let (a, machine) := x w.machine
  some (a, { w with machine, deepest := max w.deepest machine.frames.length })

def warn (text : String) : Trial (Except Exit Unit) := do
  modify fun w => { w with raised := w.raised ++ w.machine.awaited text }
  watch (Exec.warn text).run

end Trial

open Trial in
/-- An outline tried, given how evaluations of expressions are tried. -/
def Outline.attempt (eval : Expr → Trial (Except Exit Object)) :
    {α : Type} → Outline α → Trial (Except Exit α)
  | _, .step x => watch x.run
  | _, .warn text => Trial.warn text
  | _, .eval e => eval e
  | _, .enter f p => do
    if Machine.maxFrames ≤ (← get).machine.frames.length then
      watch (fail .tooDeep : Exec Object).run
    else
      watch (modify (·.push f))
      let result ← p.attempt eval
      watch (modify Machine.pop)
      return Call.yielded result
  | _, .bind p next => do
    match ← p.attempt eval with
    | .ok a => (next a).attempt eval
    | .error exit => return .error exit

theorem Outline.attempt_bind {α β : Type} (eval : Expr → Trial (Except Exit Object))
    (p : Outline α) (next : α → Outline β) :
    (p >>= next).attempt eval = (do
      match ← p.attempt eval with
      | .ok a => (next a).attempt eval
      | .error exit => return .error exit) := by
  change (Outline.bind p next).attempt eval = _
  rw [attempt]

/-- The evaluation of an expression, tried with a recursion of limited depth. -/
def Expr.attempt : Nat → Expr → Trial (Except Exit Object)
  | 0, _ => fun _ => none
  | depth + 1, e => (Outline.ofExpr e).attempt (attempt depth)

namespace Trial

variable (eval : Expr → Trial (Except Exit Object))

/-! ### Programs -/

def callErrorHandler : Trial Unit := do
  let m ← watch get
  match m.handling, m.options.get? "error" with
  | false, some (.closure params body) =>
    watch (set { m with handling := true })
    match ← (Outline.call ⟨"", params, body, []⟩).attempt eval with
    | .error (.error c) =>
      watch (modify (·.print .error s!"Error during wrapup: {c.fault.message}\n"))
    | _ => pure ()
    watch (modify fun m => { m with frames := [], handling := false })
  | _, _ => return ()

def reportError (c : Condition) : Trial String := do
  watch (modify fun m => { m.print .error c.text with frames := [], lastError := c.text })
  callErrorHandler eval
  return String.ofList (Text.trimEnd c.text.toList)

/-- The evaluation of one expression of a program, tried up to the warnings that wait. -/
def conclude (e : Expr) : Trial (Except String Object) := do
  watch (modify fun m => { m with frames := [] })
  match ← eval e with
  | .ok x => return .ok x
  | .error exit => return .error (← reportError eval exit.condition)

def evalExpr (e : Expr) : Trial (Except String Object) := do
  let result ← conclude eval e
  watch (modify Machine.flushWarnings)
  return result

def evalProgram (last : Object) : List Expr → Trial (Except String Object)
  | [] => return .ok last
  | e :: rest => do
    match ← evalExpr eval e with
    | .ok x => evalProgram x rest
    | .error text => return .error text

def evalText (source : String) : Trial (Except BackendError RValue) := do
  match Expr.readProgram source with
  | .error e => return .error (.parse e.message)
  | .ok program =>
    match ← evalProgram eval Object.null program with
    | .ok x => return .ok x.readBack
    | .error text => return .error (.evaluation text)

/-! ### Trials that come to an end -/

section

variable {α β : Type} {X : Nat → Trial α} {F : Nat → α → Trial β} {x : StateM Machine α}
  {f : α → StateM Machine β} {m : Machine} {noted noted' : List String}

/-- With depth enough, a trial from the state comes to the end that the step comes to. It notes the
given warnings, and there are never more frames than there may be. -/
def Ends (X : Nat → Trial α) (x : StateM Machine α) (m : Machine) (noted : List String) : Prop :=
  ∃ depth, ∀ d ≥ depth, ∀ raised deepest, deepest ≤ Machine.maxFrames →
    ∃ deepest' ≤ Machine.maxFrames,
      X d ⟨m, raised, deepest⟩ = some ((x m).1, ⟨(x m).2, raised ++ noted, deepest'⟩)

/-- The trials come to an end and note what came to wait. -/
def EndsNoting (X : Nat → Trial α) (x : StateM Machine α) (m : Machine) : Prop :=
  ∃ noted, Ends X x m noted ∧ (x m).2.warnings = m.warnings ++ noted

theorem ends_watch (h : (x m).2.frames.length ≤ Machine.maxFrames) :
    Ends (fun _ => watch x) x m [] := by
  refine ⟨0, fun d _ raised deepest hdeepest => ⟨_, Nat.max_le.mpr ⟨hdeepest, h⟩, ?_⟩⟩
  rw [List.append_nil]
  rfl

theorem ends_pure (a : α) : Ends (fun _ => pure a) (pure a) m [] :=
  ⟨0, fun d _ raised deepest hdeepest => ⟨deepest, hdeepest, by rw [List.append_nil]; rfl⟩⟩

theorem ends_bind (hX : Ends X x m noted)
    (hF : Ends (fun d => F d (x m).1) (f (x m).1) (x m).2 noted') :
    Ends (fun d => X d >>= F d) (x >>= f) m (noted ++ noted') := by
  obtain ⟨depth, hX⟩ := hX
  obtain ⟨depth', hF⟩ := hF
  refine ⟨max depth depth', fun d hd raised deepest hdeepest => ?_⟩
  obtain ⟨between, hbetween, hx⟩ := hX d (Nat.le_trans (Nat.le_max_left _ _) hd) raised _ hdeepest
  obtain ⟨after, hafter, hf⟩ :=
    hF d (Nat.le_trans (Nat.le_max_right _ _) hd) (raised ++ noted) _ hbetween
  refine ⟨after, hafter, ?_⟩
  change (X d ⟨m, raised, deepest⟩).bind (fun r => F d r.1 r.2) = _
  rw [hx]
  exact hf.trans (by rw [List.append_assoc]; rfl)

theorem Ends.congr {Y : Nat → Trial α} {y : StateM Machine α} (h : Ends X x m noted)
    (hX : ∀ d raised deepest, Y d ⟨m, raised, deepest⟩ = X d ⟨m, raised, deepest⟩)
    (hx : y m = x m) : Ends Y y m noted := by
  obtain ⟨depth, hX'⟩ := h
  refine ⟨depth, fun d hd raised deepest hdeepest => ?_⟩
  rw [hX, hx]
  exact hX' d hd raised deepest hdeepest

theorem EndsNoting.congr {Y : Nat → Trial α} {y : StateM Machine α} (h : EndsNoting X x m)
    (hX : ∀ d raised deepest, Y d ⟨m, raised, deepest⟩ = X d ⟨m, raised, deepest⟩)
    (hx : y m = x m) : EndsNoting Y y m := by
  obtain ⟨noted, hends, hnoted⟩ := h
  exact ⟨noted, hends.congr hX hx, by rw [hx, hnoted]⟩

theorem EndsNoting.succ {Y : Nat → Trial α} (h : EndsNoting X x m) (hY : ∀ d, Y (d + 1) = X d) :
    EndsNoting Y x m := by
  obtain ⟨noted, ⟨depth, hX⟩, hnoted⟩ := h
  refine ⟨noted, ⟨depth + 1, fun d hd raised deepest hdeepest => ?_⟩, hnoted⟩
  obtain ⟨d, rfl⟩ := Nat.exists_eq_add_of_le' (Nat.le_trans (Nat.le_add_left 1 depth) hd)
  rw [hY]
  exact hX d (Nat.le_of_succ_le_succ hd) raised deepest hdeepest

theorem endsNoting_watch (hframes : (x m).2.frames.length ≤ Machine.maxFrames)
    (hwarnings : (x m).2.warnings = m.warnings) : EndsNoting (fun _ => watch x) x m :=
  ⟨[], ends_watch hframes, by rw [hwarnings, List.append_nil]⟩

theorem endsNoting_pure (a : α) : EndsNoting (fun _ => pure a) (pure a) m :=
  ⟨[], ends_pure a, (List.append_nil _).symm⟩

theorem endsNoting_bind (hX : EndsNoting X x m)
    (hF : EndsNoting (fun d => F d (x m).1) (f (x m).1) (x m).2) :
    EndsNoting (fun d => X d >>= F d) (x >>= f) m := by
  obtain ⟨noted, hX, hx⟩ := hX
  obtain ⟨noted', hF, hf⟩ := hF
  exact ⟨noted ++ noted', ends_bind hX hF, by rw [← List.append_assoc, ← hx, ← hf]; rfl⟩

theorem endsNoting_bind_run {P : Nat → Trial (Except Exit α)} {N : Nat → α → Trial (Except Exit β)}
    {y : Exec α} {g : α → Exec β} (hP : EndsNoting P y.run m)
    (hN : ∀ a m', y m = (.ok a, m') → EndsNoting (fun d => N d a) (g a).run m') :
    EndsNoting (fun d => do
      match ← P d with
      | .ok a => N d a
      | .error exit => return .error exit) (y >>= g).run m := by
  refine endsNoting_bind (f := ExceptT.bindCont g) hP ?_
  rcases hy : y m with ⟨exit | a, m'⟩
  · exact endsNoting_pure _
  · exact hN a m' hy

end

end Trial

/-! ### Trials of evaluations -/

theorem Update.warnings_apply {u : Update} (hu : Builtin.Silent u) (m : Machine) :
    (u.apply m).warnings = m.warnings := by
  cases u with
  | defer => exact hu.elim
  | write path append text =>
    rw [apply]
    cases hwrite : m.files.write (m.pathOf path) append text with
    | ok files => rw [Machine.written_of_ok hwrite]
    | error e => rw [Machine.written_of_error hwrite]
  | setVar =>
    simp only [apply, Machine.setVar]
    split <;> rfl
  | eraseVar =>
    simp only [apply, Machine.eraseVar]
    split <;> rfl
  | _ => rfl

theorem Exec.Uses.warnings {α : Type} {x : Exec α} (h : Uses Builtin.Silent x) (m : Machine) :
    (x m).2.warnings = m.warnings :=
  have hkeeps : Keeps (fun m' => m'.warnings = m.warnings) x :=
    h.keeps (fun _ _ hm => hm) fun _ hu m' hm => (Update.warnings_apply hu m').trans hm
  hkeeps m rfl

theorem Exec.warnings_warn (text : String) (m : Machine) :
    (Exec.warn text m).2.warnings = m.warnings ++ m.awaited text := by
  rw [warn_eq]
  change (warnAt text m.warnLevel m.function? m).2.warnings = _
  unfold warnAt Machine.awaited
  by_cases hzero : m.warnLevel = 0
  · rw [if_pos hzero, if_pos hzero, hzero, if_neg (by decide)]
    rfl
  · rw [if_neg hzero, if_neg hzero, List.append_nil]
    split
    · rfl
    · split
      · rfl
      · rfl

open Trial

theorem Trial.endsNoting_warn (text : String) {m : Machine}
    (hm : m.frames.length ≤ Machine.maxFrames) :
    EndsNoting (fun _ => Trial.warn text) (Exec.warn text).run m := by
  have hframes : (Exec.warn text m).2.frames.length ≤ Machine.maxFrames := by
    rw [((uses_warn (A := fun _ => True) (fun _ _ => trivial) text).framed).length m]
    exact hm
  refine ⟨m.awaited text, ⟨0, fun d _ raised deepest hdeepest => ?_⟩, Exec.warnings_warn text m⟩
  exact ⟨_, Nat.max_le.mpr ⟨hdeepest, hframes⟩, rfl⟩

theorem Trial.endsNoting_inFrame {X : Nat → Trial (Except Exit Object)} {x : Exec Object}
    {m : Machine} (f : Frame) (hx : Exec.Framed x)
    (hm : (m.push f).frames.length ≤ Machine.maxFrames) (hX : EndsNoting X x.run (m.push f)) :
    EndsNoting (fun d => do
      watch (modify (·.push f))
      let result ← X d
      watch (modify Machine.pop)
      return Call.yielded result) (Call.inFrame f x).run m := by
  have hpop : (x (m.push f)).2.pop.frames.length ≤ Machine.maxFrames := by
    rw [Machine.pop, List.length_tail, hx.length]
    exact Nat.le_trans (Nat.sub_le _ _) hm
  have hall : EndsNoting (fun d => do
        watch (modify (·.push f))
        let result ← X d
        watch (modify Machine.pop)
        return Call.yielded result)
      (do
        modify (·.push f)
        let result ← x.run
        modify Machine.pop
        return Call.yielded result) m :=
    endsNoting_bind (endsNoting_watch hm rfl) <| endsNoting_bind hX <|
      endsNoting_bind (endsNoting_watch hpop rfl) (endsNoting_pure _)
  exact hall.congr (fun _ _ _ => rfl) rfl

namespace Outline

variable {Q : Nat → Expr → Prop} {r : Nat} {α : Type} {p : Outline α} {x : Exec α} {m : Machine}

theorem Describes.endsNoting (h : Describes Q r p x) (hm : m.room = r)
    (hle : m.frames.length ≤ Machine.maxFrames)
    (hQ : ∀ r e, Q r e → ∀ m : Machine, m.room = r → m.frames.length ≤ Machine.maxFrames →
      EndsNoting (fun d => e.attempt d) e.evalIn.run m) :
    EndsNoting (fun d => p.attempt (Expr.attempt d)) x.run m := by
  induction h generalizing m with
  | step hx =>
    refine endsNoting_watch ?_ (hx.warnings m)
    exact Nat.le_trans (Nat.le_of_eq (hx.framed.length m)) hle
  | warn text => exact endsNoting_warn text hle
  | @eval r e he =>
    refine (hQ r e he m hm hle).congr (fun _ _ _ => rfl) ?_
    change e.evalWith (Call.perform r) m = e.evalWith (Call.perform m.room) m
    rw [hm]
  | full f p =>
    have htried : EndsNoting (fun _ => watch (fail .tooDeep : Exec Object).run)
        (fail .tooDeep : Exec Object).run m := endsNoting_watch hle rfl
    refine htried.congr (fun d raised deepest => ?_) rfl
    change (if Machine.maxFrames ≤ m.frames.length then _ else _ : Trial _) _ = _
    rw [if_pos (Machine.room_eq_zero.mp hm)]
  | @enter r f p x hp ih =>
    have hroom : ¬ Machine.maxFrames ≤ m.frames.length :=
      mt Machine.room_eq_zero.mpr (by omega)
    have hpush : (m.push f).frames.length ≤ Machine.maxFrames := Nat.lt_of_not_le hroom
    have hinner : (m.push f).room = r := by rw [Machine.room_push, hm, Nat.add_sub_cancel]
    have htried := endsNoting_inFrame f hp.framed hpush (ih hinner hpush)
    refine htried.congr (fun d raised deepest => ?_) rfl
    change (if Machine.maxFrames ≤ m.frames.length then _ else _ : Trial _) _ = _
    rw [if_neg hroom]
  | @bind r _ _ p x next f hp hnext ihp ihnext =>
    have htried := endsNoting_bind_run (N := fun d a => (next a).attempt (Expr.attempt d))
      (g := f) (ihp hm hle) fun a m' hx => by
        have hframes := hp.framed.length m
        rw [hx] at hframes
        exact ihnext a ((Machine.room_of_length hframes).trans hm)
          (Nat.le_trans (Nat.le_of_eq hframes) hle)
    simp only [attempt_bind]
    exact htried

end Outline

/-- The recursion of the interpreter comes to an end on each expression, in each state. -/
theorem Expr.endsNoting_attempt (e : Expr) {m : Machine}
    (hle : m.frames.length ≤ Machine.maxFrames) :
    EndsNoting (fun d => e.attempt d) e.evalIn.run m := by
  have hall : ∀ r (e : Expr), ∀ m : Machine, m.room = r → m.frames.length ≤ Machine.maxFrames →
      EndsNoting (fun d => e.attempt d) e.evalIn.run m := by
    refine Outline.evaluation_induction fun r e hdescribes m hm hle => ?_
    have htried := hdescribes.endsNoting hm hle fun _ _ h => h
    refine (htried.succ fun d => rfl).congr (fun _ _ _ => rfl) ?_
    change e.evalWith (Call.perform m.room) m = e.evalWith (Call.perform r) m
    rw [hm]
  exact hall _ e m rfl hle

/-! ### Trials of programs -/

namespace Machine

/-- The evaluation of one expression of a program up to the warnings that wait. -/
def conclude (e : Expr) : StateM Machine (Except String Object) := do
  modify fun m => { m with frames := [] }
  match ← e.eval with
  | .ok x => return .ok x
  | .error exit => return .error (← reportError exit.condition)

open Steps (bind_apply get_apply set_apply modify_apply)

variable {m m' : Machine} {e : Expr} {x : Object} {exit : Exit}

theorem conclude_of_ok (h : e.eval { m with frames := [] } = (.ok x, m')) :
    conclude e m = (.ok x, m') := by
  simp only [conclude, bind_apply, modify_apply, h]
  rfl

theorem conclude_of_error (h : e.eval { m with frames := [] } = (.error exit, m')) :
    conclude e m =
      (.error (reportError exit.condition m').1, (reportError exit.condition m').2) := by
  simp only [conclude, bind_apply, modify_apply, h]
  rfl

/-- The warnings that wait are printed at the end of each expression of a program. -/
theorem evalExpr_eq (e : Expr) (m : Machine) :
    evalExpr e m = ((conclude e m).1, (conclude e m).2.flushWarnings) := by
  rcases h : e.eval { m with frames := [] } with ⟨exit | x, m'⟩
  · rw [evalExpr_of_error h, conclude_of_error h]
  · rw [evalExpr_of_ok h, conclude_of_ok h]

theorem length_frames_le (hm : m.frames = []) : m.frames.length ≤ maxFrames := by
  rw [hm]
  exact Nat.zero_le _

theorem endsNoting_call (c : Call) (hm : m.frames = []) :
    EndsNoting (fun d => (Outline.call c).attempt (Expr.attempt d)) (c.perform maxFrames).run
      m := by
  have hdescribes : Outline.Describes (fun _ _ => True) maxFrames (Outline.call c)
      (Call.perform maxFrames c) := Outline.describes_call (fun _ _ _ => trivial) c
  have hroom : m.room = maxFrames := by rw [room, hm, List.length_nil, Nat.sub_zero]
  exact hdescribes.endsNoting hroom (length_frames_le hm) fun _ e _ _ _ hle =>
    e.endsNoting_attempt hle

theorem frames_perform (c : Call) (hm : m.frames = []) :
    (c.perform maxFrames m).2.frames = [] := by
  have hlength := (c.uses_perform maxFrames).framed.length m
  rw [hm] at hlength
  exact List.eq_nil_of_length_eq_zero hlength

theorem endsNoting_callErrorHandler (hm : m.frames = []) :
    EndsNoting (fun d => Trial.callErrorHandler (Expr.attempt d)) callErrorHandler m := by
  refine endsNoting_bind (endsNoting_watch (length_frames_le hm) rfl) ?_
  change EndsNoting _ _ m
  rw [get_apply]
  dsimp only
  cases hhandling : m.handling with
  | true => exact endsNoting_pure _
  | false =>
    rcases hoption : m.options.get? "error" with _ | x | ⟨params, body⟩
    · exact endsNoting_pure _
    · exact endsNoting_pure _
    · dsimp only
      refine endsNoting_bind (endsNoting_watch (length_frames_le hm) rfl) ?_
      have hcalled : (Call.perform maxFrames ⟨"", params, body, []⟩
          { m with handling := true }).2.frames = [] := frames_perform _ hm
      have hdone (m' : Machine) : EndsNoting
          (fun _ => watch (modify fun m : Machine => { m with frames := [], handling := false }))
          (modify fun m : Machine => { m with frames := [], handling := false }) m' :=
        endsNoting_watch (Nat.zero_le _) rfl
      refine endsNoting_bind (endsNoting_call _ hm) ?_
      rw [set_apply]
      rcases hperform : Call.perform maxFrames ⟨"", params, body, []⟩
        { m with handling := true } with ⟨(c | v) | x, m'⟩
      all_goals rw [hperform] at hcalled
      · exact endsNoting_bind (endsNoting_watch (length_frames_le hcalled) rfl) (hdone _)
      · exact hdone m'
      · exact hdone m'

theorem endsNoting_reportError (c : Condition) (m : Machine) :
    EndsNoting (fun d => Trial.reportError (Expr.attempt d) c) (reportError c) m :=
  endsNoting_bind (endsNoting_watch (Nat.zero_le _) rfl) <|
    endsNoting_bind (endsNoting_callErrorHandler rfl) (endsNoting_pure _)

/-- However an expression of a program ends, its trials come to the same end and note the warnings
that wait then. -/
theorem endsNoting_conclude (e : Expr) (m : Machine) :
    EndsNoting (fun d => Trial.conclude (Expr.attempt d) e) (conclude e) m := by
  refine endsNoting_bind (endsNoting_watch (Nat.zero_le _) rfl) ?_
  have heval : EndsNoting (fun d => e.attempt d) e.eval.run { m with frames := [] } :=
    (e.endsNoting_attempt (Nat.zero_le _)).congr (fun _ _ _ => rfl) (e.eval_eq_evalIn rfl)
  refine endsNoting_bind heval ?_
  rw [modify_apply]
  rcases e.eval { m with frames := [] } with ⟨exit | x, m'⟩
  · exact endsNoting_bind (endsNoting_reportError _ m') (endsNoting_pure _)
  · exact endsNoting_pure _

/-! ### Trials of whole programs -/

@[simp] theorem flushWarnings_frames : m.flushWarnings.frames = m.frames := by
  unfold flushWarnings
  split <;> rfl

theorem frames_callErrorHandler (hm : m.frames = []) : (callErrorHandler m).2.frames = [] := by
  obtain hsame | ⟨params, body, -, -, hcalled | ⟨text, hcalled⟩⟩ := callErrorHandler_cases m
  · rw [hsame]
    exact hm
  · rw [hcalled]
  · rw [hcalled]

theorem frames_conclude (e : Expr) (m : Machine) : (conclude e m).2.frames = [] := by
  have hlength := (e.uses_evalWith maxFrames).framed.length { m with frames := [] }
  rcases h : e.eval { m with frames := [] } with ⟨exit | x, m'⟩
  · rw [conclude_of_error h]
    exact frames_callErrorHandler rfl
  · rw [conclude_of_ok h]
    have heval : e.evalWith (Call.perform maxFrames) { m with frames := [] } = (.ok x, m') := h
    rw [heval] at hlength
    exact List.eq_nil_of_length_eq_zero hlength

theorem ends_evalExpr (e : Expr) (m : Machine) :
    ∃ noted, Ends (fun d => Trial.evalExpr (Expr.attempt d) e) (evalExpr e) m noted := by
  obtain ⟨noted, hends, -⟩ := endsNoting_conclude e m
  have hflush : ((conclude e m).2.flushWarnings).frames.length ≤ maxFrames := by
    rw [flushWarnings_frames, frames_conclude]
    exact Nat.zero_le _
  have hall : Ends (fun d => do
        let result ← Trial.conclude (Expr.attempt d) e
        watch (modify flushWarnings)
        return result)
      (do
        let result ← conclude e
        modify flushWarnings
        return result) m _ :=
    ends_bind hends (ends_bind (ends_watch hflush) (ends_pure _))
  exact ⟨_, hall.congr (fun _ _ _ => rfl) (evalExpr_eq e m)⟩

theorem ends_evalProgram (last : Object) (program : List Expr) (m : Machine) :
    ∃ noted, Ends (fun d => Trial.evalProgram (Expr.attempt d) last program)
      (evalProgram last program) m noted := by
  induction program generalizing last m with
  | nil => exact ⟨_, ends_pure _⟩
  | cons e rest ih =>
    obtain ⟨noted, hends⟩ := ends_evalExpr e m
    rcases h : evalExpr e m with ⟨text | x, m'⟩
    · refine ⟨noted ++ [], ends_bind hends ?_⟩
      rw [h]
      exact ends_pure _
    · obtain ⟨noted', hrest⟩ := ih x m'
      refine ⟨noted ++ noted', ends_bind hends ?_⟩
      rw [h]
      exact hrest

theorem ends_evalText (source : String) (m : Machine) :
    ∃ noted, Ends (fun d => Trial.evalText (Expr.attempt d) source) (evalText source) m noted := by
  cases hread : Expr.readProgram source with
  | error e =>
    simp only [Trial.evalText, evalText, hread]
    exact ⟨_, ends_pure _⟩
  | ok program =>
    obtain ⟨noted, hends⟩ := ends_evalProgram Object.null program m
    simp only [Trial.evalText, evalText, hread]
    refine ⟨noted ++ [], ends_bind hends ?_⟩
    cases (evalProgram Object.null program m).1 with
    | ok x => exact ends_pure _
    | error text => exact ends_pure _

end Machine

end ScriptBridge
