import ScriptBridge.Proofs.Conversion.RoundTrip
import ScriptBridge.Proofs.Engine.Pristine

/-!
# Job variables

A run lays what the script has left as `variables` over the job variables of the host, and nothing
else ever changes them (`Run.variables_reconciled`). On the interpreter of this library they stay as
they are if the script leaves the variable alone: those that can be converted were set by binding
and come back equal, and of others there is no trace among the globals, unless a closure hides a
function that the engine's own programs call (`Run.variables_not_kept`).
-/

namespace ScriptBridge.Engine

open Steps

variable {σ : Type} {e : Engine σ} {err : Nat}

/-! ### Merging -/

theorem mergeVariables_maps {map : Nat} {x : RValue} {m : Dict Value} {s : Session σ}
    (hx : (call (e.backend.get "variables") s).1 = .ok (some x)) (hm : x.toMap = .ok m) :
    (e.mergeVariables err map s).2.host.maps = s.host.maps.modify map (·.merge m) := by
  have hcall : (call (e.backend.get "variables") s).2.host.maps = s.host.maps :=
    (steady_maps _).call _ s rfl
  simp only [mergeVariables, bind_apply, hx, hm, modify_apply, Host.mergeVariables_maps,
    hcall]

theorem mergeVariables_maps_of_not {map : Nat} {s : Session σ}
    (h : ¬∃ x m, (call (e.backend.get "variables") s).1 = .ok (some x) ∧ x.toMap = .ok m) :
    (e.mergeVariables err map s).2.host.maps = s.host.maps := by
  have hcall : (call (e.backend.get "variables") s).2.host.maps = s.host.maps :=
    (steady_maps _).call _ s rfl
  simp only [mergeVariables, bind_apply]
  rcases hx : (call (e.backend.get "variables") s).1 with problem | _ | x
  · exact hcall
  · exact hcall
  · cases hm : x.toMap with
    | ok m => exact absurd ⟨x, m, hx, hm⟩ h
    | error problem =>
      simp only [hm]
      exact hcall

namespace Run

variable {r : Run σ} {map : Nat} {M m : Dict Value}

/-- The script has left job variables that are a map of these entries. -/
def LeftVariables (r : Run σ) (m : Dict Value) : Prop :=
  ∃ x, r.variablesAnswer = .ok (some x) ∧ x.toMap = .ok m

theorem LeftVariables.sorted (h : r.LeftVariables m) : Dict.Sorted m := by
  obtain ⟨x, -, hm⟩ := h
  rw [RValue.toMap.eq_def] at hm
  split at hm
  · obtain ⟨entries, -, rfl⟩ := except_map_eq_ok.mp hm
    exact Dict.sorted_ofList entries
  · cases hm
    exact List.Pairwise.nil
  · cases hm

theorem LeftVariables.unique {m' : Dict Value} (h : r.LeftVariables m) (h' : r.LeftVariables m') :
    m = m' := by
  obtain ⟨x, hx, hm⟩ := h
  obtain ⟨x', hx', hm'⟩ := h'
  rw [hx] at hx'
  cases hx'
  exact Except.ok.inj (hm.symm.trans hm')

theorem selectedRead_maps : r.selectedRead.host.maps = r.start.host.maps :=
  steady_selectedRead (steady_maps r.start.host.maps) rfl

theorem eval_maps : r.eval.2.host.maps = r.reconciled.host.maps := by
  rw [eval_eq]
  exact (steady_maps _).attempt _ _ _ rfl

theorem reconciled_of_variables (hmap : r.bindings.variables? = some map) :
    r.reconciled = (r.engine.mergeVariables r.err map r.selectedRead).2 := by
  rw [reconciled, hmap]

theorem eval_maps_of_leftVariables (hmap : r.bindings.variables? = some map)
    (hM : r.start.host.maps[map]? = some M) (h : r.LeftVariables m) :
    r.eval.2.host.maps[map]? = some (M.merge m) := by
  obtain ⟨x, hx, hm⟩ := h
  rw [eval_maps, reconciled_of_variables hmap, mergeVariables_maps hx hm, selectedRead_maps,
    List.getElem?_modify_eq, hM]
  rfl

theorem eval_maps_of_not_leftVariables (hmap : r.bindings.variables? = some map)
    (h : ¬∃ m, r.LeftVariables m) : r.eval.2.host.maps = r.start.host.maps := by
  rw [eval_maps, reconciled_of_variables hmap, mergeVariables_maps_of_not, selectedRead_maps]
  rintro ⟨x, m, hx, hm⟩
  exact h ⟨m, x, hx, hm⟩

theorem eval_maps_of_no_variables (hmap : r.bindings.variables? = none) :
    r.eval.2.host.maps = r.start.host.maps := by
  rw [eval_maps, reconciled, hmap, selectedRead_maps]

end Run

/-! ### On the interpreter of this library -/

namespace Run

variable {r : Run Machine} {map : Nat} {M : Dict Value} {x : RValue}

/-- The script has left the variable as binding had left it. -/
def LeavesVariables (r : Run Machine) : Prop :=
  r.scriptCall.2.state.globals.get? "variables" = r.bound.state.globals.get? "variables"

theorem entries_of_getElem? {h : Host} (hM : h.maps[map]? = some M) : h.entries map = M := by
  rw [Host.entries, List.getD_eq_getElem?_getD, hM, Option.getD_some]

theorem variablesAnswer_eq (hbackend : r.engine.backend = Machine.backend)
    (hleaves : r.LeavesVariables) : r.variablesAnswer =
      .ok ((r.bound.state.globals.get? "variables").map Object.readBack) := by
  rw [variablesAnswer, call_get_answer hbackend, selectedRead_state hbackend, Machine.readGlobal?,
    hleaves]

theorem bound_of_toRValue (hbackend : r.engine.backend = Machine.backend)
    (hmap : r.bindings.variables? = some map) (hM : r.start.host.maps[map]? = some M)
    (hx : (Value.map M).toRValue = .ok x) :
    r.bound.state.globals.get? "variables" = some (.data x) := by
  have hset : Leads (fun s => s.host.maps = r.start.host.maps) (r.engine.bind r.err r.bindings)
      (InState fun m => m.globals.get? "variables" = some (.data x)) := by
    refine (steady_maps _).bind_then (fun map' hmap' => leads_get_bind fun s hs => ?_)
      fun hnone => ?_
    · obtain rfl : map = map' := Option.some.inj (hmap.symm.trans hmap')
      rw [entries_of_getElem? (hs ▸ hM), hx]
      exact leads_assign hbackend (A := fun _ => True) (fun m _ => Dict.get?_insert_self _ _ _) s
        trivial
    · rw [hmap] at hnone
      cases hnone
  have hbound : InState (fun m => m.globals.get? "variables" = some (.data x)) r.bound :=
    hset r.begun rfl
  exact hbound

theorem bound_of_not_toRValue (hbackend : r.engine.backend = Machine.backend)
    (hpristine : Pristine r.start.state) (hmap : r.bindings.variables? = some map)
    (hM : r.start.host.maps[map]? = some M) (hx : ¬∃ x, (Value.map M).toRValue = .ok x) :
    r.bound.state.globals.get? "variables" = none := by
  have hkept : Leads (fun s => InState Pristine s ∧ s.host.maps = r.start.host.maps)
      (r.engine.bind r.err r.bindings) (InState Guarded) := by
    refine leads_bind_guarded hbackend (steady_maps _)
      (fun map' hmap' => leads_get_bind fun s hs => ?_) fun _ _ hs => hs.1
    obtain rfl : map = map' := Option.some.inj (hmap.symm.trans hmap')
    rw [entries_of_getElem? (hs.2 ▸ hM)]
    cases hconvert : (Value.map M).toRValue with
    | ok x => exact absurd ⟨x, hconvert⟩ hx
    | error problem => exact hs.1
  have hbound : InState Guarded r.bound := hkept r.begun ⟨hpristine, rfl⟩
  exact hbound.absent

theorem maps_of_toRValue (hbackend : r.engine.backend = Machine.backend)
    (hmap : r.bindings.variables? = some map) (hM : r.start.host.maps[map]? = some M)
    (hordered : (Value.map M).Ordered) (hleaves : r.LeavesVariables)
    (hx : (Value.map M).toRValue = .ok x) : r.eval.2.host.maps[map]? = some M := by
  have hleft : r.LeftVariables M := by
    refine ⟨x, ?_, Value.toMap_of_toRValue hordered hx⟩
    rw [variablesAnswer_eq hbackend hleaves, bound_of_toRValue hbackend hmap hM hx]
    rfl
  have hsorted : Dict.Sorted M := hordered M .self
  rw [eval_maps_of_leftVariables hmap hM hleft, Dict.merge_self hsorted]

theorem maps_of_not_toRValue (hbackend : r.engine.backend = Machine.backend)
    (hpristine : Pristine r.start.state) (hmap : r.bindings.variables? = some map)
    (hM : r.start.host.maps[map]? = some M) (hleaves : r.LeavesVariables)
    (hx : ¬∃ x, (Value.map M).toRValue = .ok x) : r.eval.2.host.maps[map]? = some M := by
  rw [eval_maps_of_not_leftVariables hmap, hM]
  rintro ⟨m, y, hy, -⟩
  rw [variablesAnswer_eq hbackend hleaves,
    bound_of_not_toRValue hbackend hpristine hmap hM hx] at hy
  cases hy

/-! ### Idle runs -/

theorem leavesVariables_of_const (hbackend : r.engine.backend = Machine.backend)
    (hread : Expr.readProgram r.script = .ok [.const x]) : r.LeavesVariables := by
  have heval : (Expr.const x).eval { r.bound.state with frames := [] } =
      (.ok (.data x), { r.bound.state with frames := [] }) := rfl
  rw [LeavesVariables, scriptCall_snd hbackend, scriptState, Machine.evalText_of_ok hread heval,
    Machine.flushWarnings_globals]

def emptyKey : Dict Value := [("", .int 1)]

theorem emptyKey_ordered : (Value.map emptyKey).Ordered := by
  simp [emptyKey, Value.ordered_map, Dict.Sorted]

def freshSession : Session Machine where
  state := Machine.create {} []
  host := { writers := [{}, {}], maps := [emptyKey] }

def idle (start : Session Machine) : Run Machine where
  engine := ⟨Machine.backend, { safeDir := "/", forked := true }⟩
  script := "1"
  bindings := Bindings.withVariables {} 0
  out := 0
  err := 1
  start := start

theorem idle_leavesVariables (start : Session Machine) : (idle start).LeavesVariables := by
  obtain ⟨x, hread⟩ : ∃ x, Expr.readProgram "1" = .ok [.const x] := ⟨_, rfl⟩
  exact leavesVariables_of_const rfl hread

/-! ### The job variables after a run -/

/-- For every backend, the job variables of the host after a run are those from before with what the
script has left laid over them, so no key is ever lost. On the interpreter of this library they are
those from before if the script leaves the variable alone, and either they can be converted or no
closure hides a function that the engine's own programs call. -/
theorem variables_reconciled :
    (∀ (σ : Type) (r : Run σ) (map : Nat) (M : Dict Value), r.bindings.variables? = some map →
      r.start.host.maps[map]? = some M → ∃ final, r.eval.2.host.maps[map]? = some final ∧
        (∀ m, r.LeftVariables m →
          final = M.merge m ∧ ∀ k, final.get? k = (m.get? k).or (M.get? k)) ∧
        ((¬∃ m, r.LeftVariables m) → final = M) ∧
        ∀ k, M.contains k = true → final.contains k = true) ∧
    (∀ (r : Run Machine) (map : Nat) (M : Dict Value), r.engine.backend = Machine.backend →
      r.bindings.variables? = some map → r.start.host.maps[map]? = some M →
      (Value.map M).Ordered → r.LeavesVariables →
      ((∃ x, (Value.map M).toRValue = .ok x) ∨ Pristine r.start.state) →
      r.eval.2.host.maps[map]? = some M) := by
  refine ⟨fun σ r map M hmap hM => ?_,
    fun r map M hbackend hmap hM hordered hleaves hstart => ?_⟩
  · by_cases hleft : ∃ m, r.LeftVariables m
    · obtain ⟨m, hm⟩ := hleft
      have hget (k : String) : (M.merge m).get? k = (m.get? k).or (M.get? k) :=
        Dict.get?_merge hm.sorted k M
      refine ⟨M.merge m, eval_maps_of_leftVariables hmap hM hm, fun m' hm' => ?_,
        fun hnone => absurd ⟨m, hm⟩ hnone, fun k hk => ?_⟩
      · obtain rfl := hm'.unique hm
        exact ⟨rfl, hget⟩
      · rw [Dict.contains, hget, Option.isSome_or, Bool.or_eq_true]
        exact .inr hk
    · refine ⟨M, ?_, fun m hm => absurd ⟨m, hm⟩ hleft, fun _ => rfl, fun _ hk => hk⟩
      rw [eval_maps_of_not_leftVariables hmap hleft, hM]
  · by_cases hx : ∃ x, (Value.map M).toRValue = .ok x
    · obtain ⟨x, hx⟩ := hx
      exact maps_of_toRValue hbackend hmap hM hordered hleaves hx
    · exact maps_of_not_toRValue hbackend (hstart.resolve_left hx) hmap hM hleaves hx

/-- An idle run in a new interpreter keeps job variables that it cannot set. -/
theorem variables_reconciled_emptyKey :
    (idle freshSession).bindings.variables? = some 0 ∧
    freshSession.host.maps[0]? = some emptyKey ∧ (Value.map emptyKey).Ordered ∧
    (idle freshSession).LeavesVariables ∧ Pristine freshSession.state ∧
    (∃ final, (idle freshSession).eval.2.host.maps[0]? = some final ∧
      ∀ k, emptyKey.contains k = true → final.contains k = true) ∧
    (idle freshSession).eval.2.host.maps[0]? = some emptyKey := by
  have hleaves : (idle freshSession).LeavesVariables := idle_leavesVariables _
  have hpristine : Pristine freshSession.state := fun n _ params body hget => (nomatch hget)
  obtain ⟨final, hfinal, -, -, hkeys⟩ :=
    variables_reconciled.1 Machine (idle freshSession) 0 emptyKey rfl rfl
  exact ⟨rfl, rfl, emptyKey_ordered, hleaves, hpristine, ⟨final, hfinal, hkeys⟩,
    variables_reconciled.2 (idle freshSession) 0 emptyKey rfl rfl rfl emptyKey_ordered hleaves
      (.inr hpristine)⟩

/-! ### A closure in the place of `options` -/

/-- A run without job variables, whose script puts a closure in the place of `options`. -/
def redefinition : Run Machine where
  engine := ⟨Machine.backend, { safeDir := "/", forked := true }⟩
  script := "options = function(warn, error) \x7b variables <<- list(a = 'x') \x7d"
  bindings := {}
  out := 0
  err := 1
  start := freshSession

theorem redefinition_maps : redefinition.eval.2.host.maps = [emptyKey] := by
  have hkept : redefinition.eval.2.host.maps = redefinition.start.host.maps :=
    eval_maps_of_no_variables rfl
  exact hkept

theorem length_entries_idle : ((idle redefinition.eval.2).eval.2.host.entries 0).length = 2 := by
  decide +kernel

/-- A closure in the place of `options` leaves job variables behind when binding sets the level of
warnings, and the run lays them over those of the host. -/
theorem variables_not_kept :
    redefinition.start.state = Machine.create {} [] ∧
    (idle redefinition.eval.2).bindings.variables? = some 0 ∧
    redefinition.eval.2.host.maps[0]? = some emptyKey ∧ (Value.map emptyKey).Ordered ∧
    (idle redefinition.eval.2).LeavesVariables ∧
    (idle redefinition.eval.2).eval.2.host.maps[0]? ≠ some emptyKey := by
  have hmaps : redefinition.eval.2.host.maps[0]? = some emptyKey := by
    rw [redefinition_maps, List.getElem?_cons_zero]
  refine ⟨rfl, rfl, hmaps, emptyKey_ordered, idle_leavesVariables _, fun hkept => ?_⟩
  have hlength := length_entries_idle
  rw [entries_of_getElem? hkept] at hlength
  cases hlength

end Run

end ScriptBridge.Engine
