import ScriptBridge.Proofs.Backend
import ScriptBridge.Proofs.Console.Writers
import ScriptBridge.Proofs.Engine.Binding

/-!
# The plan of a run

What a run does is laid down before it starts, as a list of acts: calls of the backend, each with
what is done about its answer, and reports of values that cannot be converted. `plan` makes this
list from the settings, the script, the bindings, the job variables and the files; no answer of the
backend is among the things it is made from. A run does just what its plan says, whatever the
backend answers (`Run.follows_plan`); a call that fails leaves one line on the error writer
(`Reported`).
-/

namespace ScriptBridge.Engine

open Steps

variable {σ : Type}

/-! ### Acts -/

/-- Part of a run: a call with what is done about its answer, or a report. -/
inductive Act where
  /-- A call of which only an error matters. -/
  | attempt (what : String) (c : BackendCall)
  | script (program : String)
  | readResult
  | readSelected
  | readVariables (map : Nat)
  /-- A report of a value that cannot be converted. -/
  | note (what problem : String)

namespace Act

def call? : Act → Option BackendCall
  | attempt _ c => some c
  | script program => some (.eval program)
  | readResult => some (.get "result")
  | readSelected => some (.get "selected")
  | readVariables _ => some (.get "variables")
  | note _ _ => none

/-- What is reported about the answer, and the problem with it. -/
def report? : Act → Except BackendError (Option RValue) → Option (String × String)
  | attempt what _, .error p => some (what, p.report)
  | script _, .error (.evaluation _) => none
  | script _, .error p => some ("unable to evaluate the script", p.report)
  | readResult, .error p => some ("unable to read 'result'", p.report)
  | readResult, .ok (some x) =>
    match x.toValue with
    | .ok _ => none
    | .error p => some ("unable to convert 'result'", p.report)
  | readVariables _, .error p => some ("unable to read back 'variables'", p.report)
  | readVariables _, .ok (some x) =>
    match x.toMap with
    | .ok _ => none
    | .error p => some ("unable to read back 'variables'", p.report)
  | note what problem, _ => some (what, problem)
  | _, _ => none

/-- The entries that are laid over a map of job variables, with its index. -/
def merged? : Act → Except BackendError (Option RValue) → Option (Nat × Dict Value)
  | readVariables map, .ok (some x) => x.toMap.toOption.map fun entries => (map, entries)
  | _, _ => none

/-- What is done about an answer. -/
def settle (err : Nat) (act : Act) (answer : Except BackendError (Option RValue))
    (s : Session σ) : Session σ :=
  let s := match act.report? answer with
    | some (what, problem) => (report err what problem s).2
    | none => s
  match act.merged? answer with
  | some (map, entries) => { s with host := s.host.mergeVariables map entries }
  | none => s

def perform (b : Backend σ) (err : Nat) (act : Act) (s : Session σ) : Session σ :=
  match act.call? with
  | some c => act.settle err (call (c.on b) s).1 (call (c.on b) s).2
  | none => act.settle err (.ok none) s

def performAll (b : Backend σ) (err : Nat) (acts : List Act) (s : Session σ) : Session σ :=
  acts.foldl (fun s act => act.perform b err s) s

end Act

/-! ### The plan -/

def resultEntry (r : TaskResult) : String × RValue :=
  match r.outcome.map Value.toRValue with
  | .ok (.ok x) => (r.taskName, x)
  | _ => (r.taskName, .null)

def resultNotes (r : TaskResult) : List Act :=
  match r.outcome.map Value.toRValue with
  | .ok (.error e) => [.note s!"unable to convert the result of '{r.taskName}'" e.report]
  | _ => []

def setting (name : String) (x : RValue) : Act :=
  .attempt s!"unable to set '{name}'" (.assign name x)

def argumentsPlan (bs : Bindings) : List Act :=
  match bs.arguments? with
  | some args => [setting "args" (.strings args)]
  | none => []

def resultsPlan (bs : Bindings) : List Act :=
  match bs.results? with
  | some results =>
    results.flatMap resultNotes ++ [setting "results" (.namedList (results.map resultEntry))]
  | none => []

def progressPlan (bs : Bindings) : List Act :=
  if bs.progress?.isSome then [.attempt "unable to define set_progress" (.eval progressProgram)]
  else []

def spacePlan (files : Files) (bs : Bindings) (names : String × String) : List Act :=
  match bs.space? names.1 with
  | none => []
  | some space =>
    let path := spacePath files space
    [setting names.2 (.string path)] ++
      if names.1 = Bindings.localSpaceName ∧ files.isWritableDirectory path then
        [.attempt "unable to move to the local space" (.eval (moveProgram path))]
      else []

def variablesPlan (maps : List (Dict Value)) (bs : Bindings) : List Act :=
  match bs.variables? with
  | some map =>
    match (Value.map (maps.getD map [])).toRValue with
    | .ok x => [setting "variables" x]
    | .error p => [.note "unable to convert 'variables'" p.report]
  | none => []

/-- What is done before the script. -/
def bindingPlan (files : Files) (maps : List (Dict Value)) (config : Config) (bs : Bindings) :
    List Act :=
  runNames.map (fun name => .attempt s!"unable to clear '{name}'" (.remove name)) ++
    ([.attempt "unable to set the warning level" (.eval (warnProgram config.warnLevel))] ++
      ([.attempt "unable to install the stop handler" (.eval stopProgram)] ++
        (argumentsPlan bs ++ (resultsPlan bs ++ (progressPlan bs ++
          (spaceNames.flatMap (spacePlan files bs) ++ variablesPlan maps bs))))))

/-- All that a run does. -/
def plan (files : Files) (maps : List (Dict Value)) (config : Config) (script : String)
    (bs : Bindings) : List Act :=
  bindingPlan files maps config bs ++
    ([.script script, .readResult, .readSelected] ++
      (bs.variables?.toList.map .readVariables ++
        [.attempt "unable to reset the working directory"
          (.eval (moveProgram (Space.scriptPath config.safeDir)))]))

/-! ### Steps that follow a plan -/

variable {α β : Type} {b : Backend σ} {e : Engine σ} {err : Nat} {P : Session σ → Prop}
  {acts acts' : List Act} {s : Session σ}

theorem performAll_append : Act.performAll b err (acts ++ acts') s =
    Act.performAll b err acts' (Act.performAll b err acts s) :=
  List.foldl_append

/-- The property holds before each of the acts and after the last one. -/
def Always (b : Backend σ) (err : Nat) (P : Session σ → Prop) (acts : List Act) (s : Session σ) :
    Prop :=
  ∀ before, before <+: acts → P (Act.performAll b err before s)

theorem Always.start (h : Always b err P acts s) : P s := h [] List.nil_prefix

theorem Always.left (h : Always b err P (acts ++ acts') s) : Always b err P acts s :=
  fun before hbefore => h before (hbefore.trans (List.prefix_append acts acts'))

theorem Always.right (h : Always b err P (acts ++ acts') s) :
    Always b err P acts' (Act.performAll b err acts s) := by
  intro before hbefore
  rw [← performAll_append]
  exact h _ ((List.prefix_append_right_inj acts).mpr hbefore)

/-- The step does what the acts say, from every session in which `P` holds as they are performed. -/
def Follows (b : Backend σ) (err : Nat) (P : Session σ → Prop) (acts : List Act)
    (x : Step σ α) : Prop :=
  ∀ s, Always b err P acts s → (x s).2 = Act.performAll b err acts s

theorem follows_pure {a : α} : Follows b err P [] (pure a : Step σ α) := fun _ _ => rfl

theorem follows_bind {x : Step σ α} {f : α → Step σ β} (hx : Follows b err P acts x)
    (hf : ∀ a, Follows b err P acts' (f a)) : Follows b err P (acts ++ acts') (x >>= f) := by
  intro s hs
  rw [bind_apply, performAll_append, hx s hs.left]
  exact hf _ _ hs.right

theorem follows_bind_of_eq {x : Step σ α} {f : α → Step σ β} {a : α}
    (hx : ∀ s, x s = (a, Act.performAll b err acts s)) (hf : Follows b err P acts' (f a)) :
    Follows b err P (acts ++ acts') (x >>= f) := by
  intro s hs
  rw [bind_apply, performAll_append, hx s]
  exact hf _ hs.right

theorem follows_get_bind {f : Session σ → Step σ α}
    (hf : ∀ s, P s → Follows b err P acts (f s)) :
    Follows b err P acts ((get : Step σ (Session σ)) >>= f) :=
  fun s hs => hf s hs.start s hs

theorem follows_forM {l : List β} {f : β → Step σ PUnit} {g : β → List Act}
    (h : ∀ c, Follows b err P (g c) (f c)) : Follows b err P (l.flatMap g) (l.forM f) := by
  induction l with
  | nil => exact follows_pure
  | cons c l ih => exact follows_bind (h c) fun _ => ih

/-! ### Calls -/

theorem call_map {γ : Type} (f : σ → Reply α × σ) (g : α → γ) (s : Session σ) :
    call (fun m => ((f m).1.map g, (f m).2)) s = ((call f s).1.map g, (call f s).2) := rfl

theorem perform_attempt {what : String} {c : BackendCall} {f : σ → Reply α × σ}
    {g : α → Option RValue} (hc : c.on b = fun m => ((f m).1.map g, (f m).2)) :
    (Act.attempt what c).perform b err s = (attempt err what f s).2 := by
  simp only [Act.perform, Act.call?, hc, call_map, attempt, bind_apply]
  rcases (call f s).1 with p | x <;> rfl

theorem exec_eq (what program : String) : e.exec err what program s =
    ((), (Act.attempt what (.eval program)).perform e.backend err s) := by
  rw [perform_attempt (f := e.backend.eval program) rfl]
  rfl

theorem assign_eq (name : String) (x : RValue) :
    e.assign err name x s = ((), (setting name x).perform e.backend err s) := by
  rw [setting, perform_attempt (f := e.backend.assign name x) rfl]
  rfl

theorem remove_eq (what name : String) : attempt err what (e.backend.remove name) s =
    ((), (Act.attempt what (.remove name)).perform e.backend err s) := by
  rw [perform_attempt (f := e.backend.remove name) rfl]
  rfl

theorem follows_exec (what program : String) :
    Follows e.backend err P [.attempt what (.eval program)] (e.exec err what program) :=
  fun _ _ => congrArg Prod.snd (exec_eq what program)

theorem follows_assign (name : String) (x : RValue) :
    Follows e.backend err P [setting name x] (e.assign err name x) :=
  fun _ _ => congrArg Prod.snd (assign_eq name x)

/-! ### Binding -/

variable {files : Files} {maps : List (Dict Value)} {bs : Bindings}

/-- The files and the job variables are these. -/
structure Sees (b : Backend σ) (files : Files) (maps : List (Dict Value)) (s : Session σ) :
    Prop where
  files : b.files s.state = files
  maps : s.host.maps = maps

theorem follows_clear : Follows e.backend err P
    (runNames.map fun name => .attempt s!"unable to clear '{name}'" (.remove name))
    (e.clear err) := by
  rw [← List.flatMap_singleton' (runNames.map _), List.flatMap_map]
  exact follows_forM fun name _ _ => congrArg Prod.snd (remove_eq _ name)

theorem taskResult_eq (r : TaskResult) : taskResult err r s =
    (resultEntry r, Act.performAll b err (resultNotes r) s) := by
  unfold taskResult resultEntry resultNotes
  rcases r.outcome.map Value.toRValue with _ | (_ | _) <;> rfl

theorem mapM_taskResult (results : List TaskResult) : results.mapM (taskResult err) s =
    (results.map resultEntry, Act.performAll b err (results.flatMap resultNotes) s) := by
  induction results generalizing s with
  | nil => rfl
  | cons r results ih =>
    rw [List.mapM_cons, bind_apply, taskResult_eq (b := b), bind_apply, ih, List.flatMap_cons,
      performAll_append]
    rfl

theorem follows_bindSpace (names : String × String) :
    Follows e.backend err (Sees e.backend files maps) (spacePlan files bs names)
      (e.bindSpace err bs names) := by
  unfold bindSpace spacePlan
  cases bs.space? names.1 with
  | none => exact follows_pure
  | some space =>
    refine follows_get_bind fun s hs => ?_
    rw [hs.files]
    refine follows_bind (follows_assign _ _) fun _ => follows_get_bind fun s' hs' => ?_
    rw [hs'.files]
    dsimp only
    by_cases hmove : names.1 = Bindings.localSpaceName ∧
        files.isWritableDirectory (spacePath files space) = true
    · rw [if_pos hmove, if_pos hmove]
      exact follows_exec _ _
    · rw [if_neg hmove, if_neg hmove]
      exact follows_pure

theorem follows_bindArguments :
    Follows e.backend err P (argumentsPlan bs) (e.bindArguments err bs) := by
  unfold argumentsPlan bindArguments
  cases bs.arguments? with
  | some args => exact follows_assign _ _
  | none => exact follows_pure

theorem follows_bindResults :
    Follows e.backend err P (resultsPlan bs) (e.bindResults err bs) := by
  unfold resultsPlan bindResults
  cases bs.results? with
  | some results =>
    exact follows_bind_of_eq (fun s => mapM_taskResult results) (follows_assign _ _)
  | none => exact follows_pure

theorem follows_bindProgress :
    Follows e.backend err P (progressPlan bs) (e.bindProgress err bs) := by
  unfold progressPlan bindProgress
  by_cases hprogress : bs.progress?.isSome = true
  · rw [if_pos hprogress, if_pos hprogress]
    exact follows_exec _ _
  · rw [if_neg hprogress, if_neg hprogress]
    exact follows_pure

theorem follows_bindMap :
    Follows e.backend err (Sees e.backend files maps) (variablesPlan maps bs)
      (e.bindMap err bs) := by
  unfold variablesPlan bindMap
  cases bs.variables? with
  | none => exact follows_pure
  | some map =>
    refine follows_get_bind fun s hs => ?_
    rw [Host.entries, hs.maps]
    dsimp only
    cases (Value.map (maps.getD map [])).toRValue with
    | ok x => exact follows_assign _ _
    | error p => exact fun _ _ => rfl

theorem follows_bindings : Follows e.backend err (Sees e.backend files maps)
    (bindingPlan files maps e.config bs) (e.bind err bs) := by
  rw [bind_eq, bindingPlan]
  refine follows_bind follows_clear fun _ => follows_bind (follows_exec _ _) fun _ =>
    follows_bind (follows_exec _ _) fun _ => ?_
  refine follows_bind follows_bindArguments fun _ => follows_bind follows_bindResults fun _ => ?_
  refine follows_bind follows_bindProgress fun _ => ?_
  exact follows_bind (follows_forM follows_bindSpace) fun _ => follows_bindMap

/-! ### The script and what it left -/

theorem evaluate_snd (script : String) :
    (e.evaluate err script s).2 = (Act.script script).perform e.backend err s := by
  have hcall : (BackendCall.eval script).on e.backend =
    fun m => ((e.backend.eval script m).1.map some, (e.backend.eval script m).2) := rfl
  simp only [Act.perform, Act.call?, hcall, call_map, evaluate, bind_apply]
  rcases (call (e.backend.eval script) s).1 with (_ | _ | _ | _) | _ <;> rfl

theorem on_get (name : String) : (BackendCall.get name).on b = b.get name := rfl

theorem readResult_snd :
    (e.readResult err s).2 = Act.readResult.perform e.backend err s := by
  simp only [Act.perform, Act.call?, on_get, readResult, bind_apply]
  rcases (call (e.backend.get "result") s).1 with p | _ | x
  · rfl
  · rfl
  · simp only [Act.settle, Act.report?, Act.merged?]
    cases x.toValue <;> rfl

theorem readSelected_snd (err : Nat) :
    (e.readSelected s).2 = Act.readSelected.perform e.backend err s := by
  simp only [Act.perform, Act.call?, on_get, readSelected, bind_apply]
  rcases (call (e.backend.get "selected") s).1 with p | _ | x <;> rfl

theorem mergeVariables_snd (map : Nat) :
    (e.mergeVariables err map s).2 = (Act.readVariables map).perform e.backend err s := by
  simp only [Act.perform, Act.call?, on_get, mergeVariables, bind_apply]
  rcases (call (e.backend.get "variables") s).1 with p | _ | x
  · rfl
  · rfl
  · simp only [Act.settle, Act.report?, Act.merged?]
    cases x.toMap <;> rfl

/-! ### What acts do to a session -/

theorem settle_state (act : Act) (answer : Except BackendError (Option RValue)) :
    (act.settle err answer s).state = s.state := by
  unfold Act.settle
  rcases act.report? answer with _ | ⟨what, problem⟩ <;>
    rcases act.merged? answer with _ | ⟨map, entries⟩ <;> rfl

theorem performAll_state : (Act.performAll b err acts s).state =
    b.after (acts.filterMap Act.call?) s.state := by
  induction acts generalizing s with
  | nil => rfl
  | cons act acts ih =>
    have hact : (act.perform b err s).state = b.after act.call?.toList s.state := by
      unfold Act.perform
      cases act.call? with
      | none => exact settle_state _ _
      | some c => exact settle_state _ _
    have hacts : Act.performAll b err (act :: acts) s =
        Act.performAll b err acts (act.perform b err s) := rfl
    rw [hacts, ih, hact]
    cases hcall : act.call? with
    | none => rw [List.filterMap_cons_none hcall]; rfl
    | some c => rw [List.filterMap_cons_some hcall]; rfl

/-- The act does not change job variables. -/
def Act.Plain (act : Act) : Prop := ∀ answer, act.merged? answer = none

theorem plain_attempt (what : String) (c : BackendCall) : (Act.attempt what c).Plain :=
  fun _ => rfl

theorem plain_note (what problem : String) : (Act.note what problem).Plain := fun _ => rfl

theorem settle_maps {act : Act} (h : act.Plain) (answer : Except BackendError (Option RValue)) :
    (act.settle err answer s).host.maps = s.host.maps := by
  unfold Act.settle
  rw [h answer]
  rcases act.report? answer with _ | ⟨what, problem⟩ <;> rfl

theorem performAll_maps (h : ∀ act ∈ acts, act.Plain) :
    (Act.performAll b err acts s).host.maps = s.host.maps := by
  induction acts generalizing s with
  | nil => rfl
  | cons act acts ih =>
    have hplain := h act List.mem_cons_self
    have hact : (act.perform b err s).host.maps = s.host.maps := by
      unfold Act.perform
      cases act.call? with
      | none => exact settle_maps hplain _
      | some c => exact (settle_maps hplain _).trans (Router.writeAll_maps _ _ _)
    exact (ih fun act' hact' => h act' (List.mem_cons_of_mem _ hact')).trans hact

theorem plain_resultsPlan : ∀ act ∈ resultsPlan bs, act.Plain := by
  have hnotes (r : TaskResult) : ∀ act ∈ resultNotes r, act.Plain := by
    unfold resultNotes
    split <;> simp [plain_note]
  unfold resultsPlan
  cases bs.results? with
  | none => simp
  | some results =>
    intro act hact
    rcases List.mem_append.mp hact with hnote | hset
    · obtain ⟨r, -, hr⟩ := List.mem_flatMap.mp hnote
      exact hnotes r act hr
    · obtain rfl := List.mem_singleton.mp hset
      exact plain_attempt _ _

theorem plain_spacePlan (names : String × String) :
    ∀ act ∈ spacePlan files bs names, act.Plain := by
  unfold spacePlan
  cases bs.space? names.1 with
  | none => simp
  | some space =>
    intro act hact
    rcases List.mem_append.mp hact with hset | hmove
    · obtain rfl := List.mem_singleton.mp hset
      exact plain_attempt _ _
    · split at hmove
      · obtain rfl := List.mem_singleton.mp hmove
        exact plain_attempt _ _
      · cases hmove

theorem plain_variablesPlan : ∀ act ∈ variablesPlan maps bs, act.Plain := by
  unfold variablesPlan
  split
  · split <;> simp [setting, plain_attempt, plain_note]
  · simp

/-- Nothing that is done before the script changes job variables. -/
theorem plain_bindingPlan {config : Config} :
    ∀ act ∈ bindingPlan files maps config bs, act.Plain := by
  have harguments : ∀ act ∈ argumentsPlan bs, act.Plain := by
    unfold argumentsPlan
    split <;> simp [setting, plain_attempt]
  have hprogress : ∀ act ∈ progressPlan bs, act.Plain := by
    unfold progressPlan
    split <;> simp [plain_attempt]
  have hspaces : ∀ act ∈ spaceNames.flatMap (spacePlan files bs), act.Plain := by
    intro act hact
    obtain ⟨names, -, hspace⟩ := List.mem_flatMap.mp hact
    exact plain_spacePlan names act hspace
  unfold bindingPlan
  simp only [List.forall_mem_append, List.forall_mem_map, List.forall_mem_singleton]
  exact ⟨fun _ _ => plain_attempt _ _, plain_attempt _ _, plain_attempt _ _, harguments,
    plain_resultsPlan, hprogress, hspaces, plain_variablesPlan⟩

/-! ### Runs -/

/-- Errors of which nothing is reported: the interpreter has printed those of the script itself, and
a selection that cannot be read counts as none. -/
def Act.Quiet : Act → BackendError → Prop
  | readSelected, _ => True
  | script _, .evaluation _ => True
  | _, _ => False

/-- One report of a problem lies between two sessions: a line for the error writer, which holds it
afterwards if it refuses nothing. No other writer has got anything, and nothing else has changed. -/
structure Reported (err : Nat) (what problem : String) (s s' : Session σ) : Prop where
  state : s'.state = s.state
  router : s'.router = s.router
  host : s'.host = s.host.write err (what ++ ": " ++ problem ++ "\n")
  holds : ∀ i octets, s.host.Holds i octets → s'.host.Holds i
    (octets ++ Utf8.encodeAll (if err = i then [what ++ ": " ++ problem ++ "\n"] else []))

/-- What is reported of a call that fails is told by the kind of its act, and nothing is of a quiet
error. -/
theorem report?_error {act : Act} {c : BackendCall} (hcall : act.call? = some c)
    (p : BackendError) :
    (act.Quiet p → act.report? (.error p) = none) ∧
    (¬act.Quiet p → ∃ what, act.report? (.error p) = some (what, p.report)) := by
  cases act with
  | attempt what c => exact ⟨fun h => h.elim, fun _ => ⟨what, rfl⟩⟩
  | script program =>
    cases p with
    | evaluation text => exact ⟨fun _ => rfl, fun h => absurd trivial h⟩
    | parse text | native text | conversion cause => exact ⟨fun h => h.elim, fun _ => ⟨_, rfl⟩⟩
  | readResult => exact ⟨fun h => h.elim, fun _ => ⟨_, rfl⟩⟩
  | readSelected => exact ⟨fun _ => rfl, fun h => absurd trivial h⟩
  | readVariables map => exact ⟨fun h => h.elim, fun _ => ⟨_, rfl⟩⟩
  | note what problem => cases hcall

theorem merged?_error (act : Act) (p : BackendError) : act.merged? (.error p) = none := by
  cases act <;> rfl

theorem settle_error_of_none {act : Act} {p : BackendError} (h : act.report? (.error p) = none) :
    act.settle err (.error p) s = s := by
  simp only [Act.settle, h, merged?_error]

theorem reported_settle_error {act : Act} {p : BackendError} {what problem : String}
    (h : act.report? (.error p) = some (what, problem)) :
    Reported err what problem s (act.settle err (.error p) s) := by
  simp only [Act.settle, h, merged?_error]
  exact ⟨rfl, rfl, rfl, fun _ _ hi => hi.write⟩

/-- An act whose call fails is the call and one report, which says what failed and with which
problem, unless the error is a quiet one. -/
theorem perform_of_error {act : Act} {c : BackendCall} {p : BackendError}
    (hcall : act.call? = some c) (hfails : (call (c.on b) s).1 = .error p) :
    (act.Quiet p → act.perform b err s = (call (c.on b) s).2) ∧
    (¬act.Quiet p → ∃ what, act.report? (.error p) = some (what, p.report) ∧
      Reported err what p.report (call (c.on b) s).2 (act.perform b err s)) := by
  obtain ⟨hnone, hsome⟩ := report?_error hcall p
  have hperform : act.perform b err s = act.settle err (.error p) (call (c.on b) s).2 := by
    simp only [Act.perform, hcall, hfails]
  rw [hperform]
  refine ⟨fun hquiet => settle_error_of_none (hnone hquiet), fun hloud => ?_⟩
  obtain ⟨what, hwhat⟩ := hsome hloud
  exact ⟨what, hwhat, reported_settle_error hwhat⟩

namespace Run

variable {r : Run σ}

/-- The engine finds the files like this whenever it looks at them while it binds. -/
def FilesStay (r : Run σ) (files : Files) : Prop :=
  ∀ before,
    before <+: (bindingPlan files r.start.host.maps r.engine.config r.bindings).filterMap
      Act.call? →
    r.engine.backend.files (r.engine.backend.after before r.start.state) = files

def recorded (r : Run σ) : Run (σ × List BackendCall) where
  engine := ⟨r.engine.backend.recorded, r.engine.config⟩
  script := r.script
  bindings := r.bindings
  out := r.out
  err := r.err
  start := { state := (r.start.state, []), router := r.start.router, host := r.start.host }

theorem FilesStay.recorded (h : r.FilesStay files) : r.recorded.FilesStay files := by
  intro before hbefore
  have hafter : r.recorded.engine.backend.after before r.recorded.start.state =
      (r.engine.backend.after before r.start.state, [] ++ before) :=
    r.engine.backend.after_recorded before r.start.state []
  rw [hafter]
  exact h before hbefore

theorem bound_eq (h : r.FilesStay files) : r.bound = Act.performAll r.engine.backend r.err
    (bindingPlan files r.start.host.maps r.engine.config r.bindings) r.begun := by
  -- The files stay by assumption, the job variables since nothing before the script changes them.
  refine follows_bindings r.begun fun before hbefore => ⟨?_, ?_⟩
  · rw [performAll_state]
    exact h _ (hbefore.filterMap _)
  · exact performAll_maps fun act hact => plain_bindingPlan act (hbefore.subset hact)

theorem reconciled_eq : r.reconciled = Act.performAll r.engine.backend r.err
    ([.script r.script, .readResult, .readSelected] ++
      r.bindings.variables?.toList.map .readVariables) r.bound := by
  have hread : r.selectedRead = Act.performAll r.engine.backend r.err
      [.script r.script, .readResult, .readSelected] r.bound := by
    rw [selectedRead, readSelected_snd r.err, resultRead, readResult_snd, evaluated,
      evaluate_snd]
    rfl
  rw [performAll_append, ← hread, reconciled]
  cases r.bindings.variables? with
  | none => rfl
  | some map => exact mergeVariables_snd map

theorem cleanup_eq (h : r.FilesStay files) : (r.engine.cleanup r.err r.reconciled).2 =
    Act.performAll r.engine.backend r.err
      (plan files r.start.host.maps r.engine.config r.script r.bindings) r.begun := by
  rw [plan, performAll_append, ← bound_eq h, ← List.append_assoc, performAll_append,
    ← reconciled_eq]
  exact congrArg Prod.snd (exec_eq _ _)

theorem eval_state (h : r.FilesStay files) : r.eval.2.state = r.engine.backend.after
    ((plan files r.start.host.maps r.engine.config r.script r.bindings).filterMap Act.call?)
    r.start.state := by
  rw [eval_eq, cleanup_eq h]
  exact performAll_state

/-- A run performs the acts of its plan, all of them and in their order, whatever the backend
answers; then the router is free again. So a backend gets the calls of the plan. An act whose call
fails is the call and exactly one report of the error, one line for the error writer, unless the
error is a quiet one. -/
theorem follows_plan (r : Run σ) {files : Files} (hfiles : r.FilesStay files) :
    let acts := plan files r.start.host.maps r.engine.config r.script r.bindings
    let performed := Act.performAll r.engine.backend r.err acts r.begun
    r.eval.2 = { performed with router := performed.router.endRun } ∧
    r.recorded.eval.2.state = (r.eval.2.state, acts.filterMap Act.call?) ∧
    (∀ act ∈ acts, ∀ c s p, act.call? = some c → (call (c.on r.engine.backend) s).1 = .error p →
      (act.Quiet p →
        act.perform r.engine.backend r.err s = (call (c.on r.engine.backend) s).2) ∧
      (¬act.Quiet p → ∃ what, act.report? (.error p) = some (what, p.report) ∧
        Reported r.err what p.report (call (c.on r.engine.backend) s).2
          (act.perform r.engine.backend r.err s))) ∧
    r.eval.2.router.run = none ∧ r.eval.2.router.stopMessage = none := by
  intro acts performed
  have hends : r.eval.2 = { performed with router := performed.router.endRun } := by
    rw [eval_eq, cleanup_eq hfiles]
  have hrecorded : r.recorded.eval.2.state = (r.eval.2.state, acts.filterMap Act.call?) := by
    rw [eval_state hfiles, eval_state hfiles.recorded]
    exact r.engine.backend.after_recorded (acts.filterMap Act.call?) r.start.state []
  refine ⟨hends, hrecorded, fun _ _ _ _ _ => perform_of_error, ?_, ?_⟩
  · rw [hends]
    rfl
  · rw [hends]
    rfl

/-! ### A backend that refuses every call -/

def refusing : Backend Unit where
  eval _ _ := (⟨.error (.native "no"), []⟩, ())
  assign _ _ _ := (⟨.error (.native "no"), []⟩, ())
  get _ _ := (⟨.error (.native "no"), []⟩, ())
  remove _ _ := (⟨.error (.native "no"), []⟩, ())
  files _ := {}

def refused : Run Unit where
  engine := ⟨refusing, { safeDir := "/" }⟩
  script := "1"
  bindings := (({} : Bindings).withArguments ["a"]).withVariables 0
  out := 0
  err := 1
  start := { state := (), host := { writers := [{}, {}], maps := [[]] } }

/-- Every call of the plan is made, although all of them fail, and the failure of the first one is
what the error writer holds after it. -/
theorem follows_plan_refused :
    refused.FilesStay {} ∧
    refused.recorded.eval.2.state = (refused.eval.2.state,
      (plan {} [[]] { safeDir := "/" } "1" refused.bindings).filterMap Act.call?) ∧
    ((plan {} [[]] { safeDir := "/" } "1" refused.bindings).filterMap Act.call?).length = 20 ∧
    ((Act.attempt "unable to clear 'result'" (.remove "result")).perform refusing 1
      refused.begun).host.Holds 1
        (Utf8.encode "unable to clear 'result': native runtime error: no\n") ∧
    refused.eval.2.router.run = none := by
  have hfiles : refused.FilesStay {} := fun _ _ => rfl
  obtain ⟨-, hrecorded, hreports, hrun, -⟩ := follows_plan refused hfiles
  have hfirst : Act.attempt "unable to clear 'result'" (.remove "result") ∈
      plan {} refused.start.host.maps refused.engine.config refused.script refused.bindings :=
    List.mem_cons_self
  obtain ⟨what, hwhat, hreported⟩ :=
    (hreports _ hfirst (.remove "result") refused.begun (.native "no") rfl rfl).2 nofun
  cases hwhat
  have hline := hreported.holds 1 [] ⟨{}, rfl, rfl, rfl⟩
  exact ⟨hfiles, hrecorded, by rfl, hline, hrun⟩

end Run

end ScriptBridge.Engine
