import ScriptBridge.Proofs.Engine.BindingFailure

/-!
# The selection of a run

A run writes the selection that its script has left into the bindings, and leaves the bindings alone
if there is none. So the bindings hold the selection of the last run that has left one
(`Run.selected_written`). On the side of the interpreter nothing of an earlier run is taken for a
selection: binding clears the variable and does not set it again, unless a closure hides a function
that the engine's own programs call (`Run.bound_unset`). In the bindings an earlier selection stays
(`Run.selected_stays`).
-/

namespace ScriptBridge.Engine

open Steps

variable {e : Engine Machine} {err : Nat} {m m' : Machine} {name key : String}

/-! ### Variables that binding leaves unset -/

/-- There is no global variable of this name. -/
def Unset (name : String) (m : Machine) : Prop := m.globals.get? name = none

theorem Unset.of_globals (h : Unset name m) (hglobals : m'.globals = m.globals) :
    Unset name m' := by
  rw [Unset, hglobals, h]

theorem Unset.handOver (h : Unset name m) : Unset name { m with console := [] } := h.of_globals rfl

theorem Unset.insert (h : Unset name m) (hkey : key ≠ name) (x : Object) :
    Unset name { m with globals := m.globals.insert key x } :=
  (Dict.get?_insert_ne hkey x m.globals).trans h

/-- The variables that binding may set. -/
def boundNames : List String :=
  ["args", "results", "set_progress", "variables"] ++ spaceNames.map (·.2)

theorem leads_clear_unset (hbackend : e.backend = Machine.backend) (hrun : name ∈ runNames) :
    Leads (InState fun _ => True) (e.clear err) (InState (Unset name)) := by
  refine leads_forM_of_mem hrun ?_ (fun key _ => ?_) fun key _ => ?_
  · refine leads_remove hbackend _ fun m _ => ?_
    rw [Unset, Machine.remove, Dict.get?_erase, if_pos rfl]
  · exact leads_remove hbackend _ fun _ _ => trivial
  · refine leads_remove hbackend _ fun m hm => ?_
    rw [Unset, Machine.remove, Dict.get?_erase, hm, ite_self]

/-- A variable of a run that binding does not set itself is unset after it. -/
theorem leads_bind_unset (hbackend : e.backend = Machine.backend) (hrun : name ∈ runNames)
    (hname : name ∉ boundNames) (bs : Bindings) :
    Leads (InState Pristine) (e.bind err bs) (InState (Unset name)) := by
  have hne : ∀ key ∈ boundNames, key ≠ name := fun key hkey heq => hname (heq ▸ hkey)
  have hclear : Leads (InState Pristine) (e.clear err)
      (InState fun m => Cleared m ∧ Unset name m) :=
    fun s hs => ⟨leads_clear hbackend s hs, leads_clear_unset hbackend hrun s trivial⟩
  obtain ⟨level, hwarn⟩ := evalText_warnProgram e.config.warnLevel
  refine leads_bindings (Q := InState fun m => Cleared m ∧ Unset name m)
    (R := InState fun m => Cleared m ∧ Unset name m)
    (T := InState fun m => Guarded m ∧ Unset name m) hclear
    (fun what => leads_exec hbackend what fun m hm => ⟨(cleared_warnProgram _ hm.1).handOver, ?_⟩)
    (fun what => leads_exec hbackend what fun m hm => ⟨(guarded_stopProgram hm.1).handOver, ?_⟩)
    keeps_report_inState (fun key hkey x => ?_)
    (fun what => leads_exec hbackend what fun m hm =>
      ⟨(guarded_progressProgram hm.1).handOver, ?_⟩)
    (fun what path => leads_exec hbackend what fun m hm =>
      ⟨(guarded_moveProgram path hm.1).handOver,
        (hm.2.of_globals (moveProgram_kept path hm.1).1).handOver⟩)
    (fun map _ => leads_bindVariables (fun x => ?_) fun _ _ _ hs => hs.2) fun _ _ hs => hs.2
  · obtain ⟨y, hy⟩ := hwarn m (hm.1.pristine _ (by decide))
    rw [hy]
    exact hm.2.of_globals Machine.flushWarnings_globals
  · obtain ⟨y, hy⟩ := evalText_stopProgram (hm.1.pristine _ (by decide))
    rw [hy]
    exact hm.2.of_globals Machine.flushWarnings_globals
  · have hbound : key ∈ boundNames := by
      revert key
      decide
    refine leads_assign hbackend fun m hm => ⟨hm.1.insert ?_ fun _ _ _ => Object.noConfusion,
      hm.2.insert (hne key hbound) _⟩
    rintro rfl
    revert hkey
    decide
  · rw [evalText_progressProgram]
    exact (hm.2.insert (hne "set_progress" (by decide)) progressReporter).of_globals
      Machine.flushWarnings_globals
  · exact leads_assign hbackend fun m hm => hm.2.insert (hne "variables" (by decide)) _

namespace Run

/-- When the script starts, a variable of the run that binding does not set is unset. -/
theorem bound_unset {r : Run Machine} (hbackend : r.engine.backend = Machine.backend)
    (hpristine : Pristine r.start.state) (hrun : name ∈ runNames) (hname : name ∉ boundNames) :
    r.bound.state.globals.get? name = none := by
  have hbound : InState (Unset name) r.bound :=
    leads_bind_unset hbackend hrun hname r.bindings r.begun hpristine
  exact hbound

/-! ### The selection that a script has left -/

/-- The script has left `v` as its selection: a global variable that reads back as `v`, which is not
null. -/
def LeavesSelected (r : Run Machine) (v : Value) : Prop :=
  ∃ x, r.scriptState.globals.get? "selected" = some (.data x) ∧ x.toValue = .ok v ∧ v ≠ .null

variable {r : Run Machine} {v w : Value}

theorem LeavesSelected.unique (h : r.LeavesSelected v) (h' : r.LeavesSelected w) : v = w := by
  obtain ⟨x, hx, hv, -⟩ := h
  obtain ⟨y, hy, hw, -⟩ := h'
  rw [hx] at hy
  cases hy
  exact Except.ok.inj (hv.symm.trans hw)

theorem selectedAnswer_eq (hbackend : r.engine.backend = Machine.backend) : r.selectedAnswer =
    .ok ((r.scriptState.globals.get? "selected").map Object.readBack) := by
  rw [selectedAnswer, call_get_answer hbackend, resultRead_state hbackend, scriptCall_snd hbackend]
  rfl

/-- What the run reads as the selection is what the script has left. -/
theorem valueOf?_selectedAnswer (hbackend : r.engine.backend = Machine.backend) :
    valueOf? r.selectedAnswer = some v ↔ r.LeavesSelected v := by
  rw [selectedAnswer_eq hbackend, LeavesSelected]
  rcases r.scriptState.globals.get? "selected" with _ | x | _
  · simp [valueOf?, Except.toOption]
  · cases hx : x.toValue <;>
      simp [valueOf?, Except.toOption, Object.readBack, hx, notNull?_eq_some]
  · simp [valueOf?, Except.toOption, Object.readBack, RValue.toValue]

theorem get?_selected_of_leaves (hbackend : r.engine.backend = Machine.backend)
    (h : r.LeavesSelected v) :
    r.finalBindings.get? Bindings.selectedName = some (.value v) := by
  rw [finalBindings, (valueOf?_selectedAnswer hbackend).mpr h, Bindings.get?_put_self]

theorem get?_selected_of_not_leaves (hbackend : r.engine.backend = Machine.backend)
    (h : ¬∃ v, r.LeavesSelected v) :
    r.finalBindings.get? Bindings.selectedName = r.bindings.get? Bindings.selectedName := by
  cases hread : valueOf? r.selectedAnswer with
  | none => rw [finalBindings, hread, withResult, Bindings.get?_put_of_ne (by decide)]
  | some v => exact absurd ⟨v, (valueOf?_selectedAnswer hbackend).mp hread⟩ h

/-- The bindings after a run hold the selection that its script has left; if it has left none, they
hold what they held before. So what they hold is the selection of this run exactly if it has left
one or there was none before. What the script has left is not from an earlier run: the variable is
unset when the script starts, unless a closure hides a function that the engine's programs call. -/
theorem selected_written (r : Run Machine) (hbackend : r.engine.backend = Machine.backend) :
    ∃ bs, r.eval.1.2 = some ⟨some bs, r.out, r.err⟩ ∧
      (∀ v, r.LeavesSelected v → bs.get? Bindings.selectedName = some (.value v)) ∧
      ((¬∃ v, r.LeavesSelected v) →
        bs.get? Bindings.selectedName = r.bindings.get? Bindings.selectedName) ∧
      ((∀ b, bs.get? Bindings.selectedName = some b ↔ ∃ v, r.LeavesSelected v ∧ b = .value v) ↔
        (∃ v, r.LeavesSelected v) ∨ r.bindings.get? Bindings.selectedName = none) ∧
      (Pristine r.start.state → r.bound.state.globals.get? "selected" = none) := by
  have hleft (v : Value) (h : r.LeavesSelected v) := get?_selected_of_leaves hbackend h
  refine ⟨r.finalBindings, eval_context, hleft, get?_selected_of_not_leaves hbackend, ?_,
    fun hpristine => bound_unset hbackend hpristine (by decide) (by decide)⟩
  by_cases hleaves : ∃ v, r.LeavesSelected v
  · obtain ⟨v, hv⟩ := hleaves
    refine ⟨fun _ => .inl ⟨v, hv⟩, fun _ b => ?_⟩
    rw [hleft v hv, Option.some.injEq]
    constructor
    · rintro rfl
      exact ⟨v, hv, rfl⟩
    · rintro ⟨w, hw, rfl⟩
      rw [hv.unique hw]
  · have hkept := get?_selected_of_not_leaves hbackend hleaves
    rw [hkept]
    constructor
    · intro hiff
      refine .inr (Option.eq_none_iff_forall_ne_some.mpr fun b hb => ?_)
      obtain ⟨v, hv, -⟩ := (hiff b).mp hb
      exact hleaves ⟨v, hv⟩
    · intro hnone b
      rw [hnone.resolve_left hleaves]
      exact ⟨fun hb => (nomatch hb), fun ⟨v, hv, _⟩ => absurd ⟨v, hv⟩ hleaves⟩

/-! ### Runs that share bindings -/

theorem readProgram_selecting : Expr.readProgram "selected = TRUE" =
    .ok [.assign (.name "selected") (.const (.ofBool true)) false] := by
  have hscan : Token.scan "selected = TRUE" = .ok [.name "selected", .assign, .kwTrue] := rfl
  rw [Expr.readProgram, hscan]
  rfl

theorem leavesSelected_of_script (hscript : r.script = "selected = TRUE") :
    r.LeavesSelected (.bool true) := by
  have heval (m : Machine) : (Expr.assign (.name "selected") (.const (.ofBool true)) false).eval
      { m with frames := [] } = (.ok (.data (.ofBool true)), { m with
        frames := [], globals := m.globals.insert "selected" (.data (.ofBool true)) }) := rfl
  refine ⟨.ofBool true, ?_, rfl, Value.noConfusion⟩
  rw [scriptState, hscript, Machine.evalText_of_ok readProgram_selecting (heval _),
    Machine.flushWarnings_globals, Dict.get?_insert_self]

def selecting : Run Machine := { harmless {} unused with script := "selected = TRUE" }

/-- A selection that the script has left is in the bindings. -/
theorem selected_written_selecting : selecting.engine.backend = Machine.backend ∧
    selecting.LeavesSelected (.bool true) ∧ Pristine selecting.start.state ∧
    (∃ bs, selecting.eval.1.2 = some ⟨some bs, selecting.out, selecting.err⟩ ∧
      bs.get? Bindings.selectedName = some (.value (.bool true))) ∧
    selecting.bound.state.globals.get? "selected" = none := by
  have hbackend : selecting.engine.backend = Machine.backend := rfl
  have hleaves : selecting.LeavesSelected (.bool true) := leavesSelected_of_script rfl
  have hpristine : Pristine selecting.start.state := fun _ _ _ _ hget => (nomatch hget)
  obtain ⟨bs, hbs, hleft, -, -, hunset⟩ := selected_written selecting hbackend
  exact ⟨hbackend, hleaves, hpristine, ⟨bs, hbs, hleft _ hleaves⟩, hunset hpristine⟩

/-- A run that comes after that one and has the bindings that it left; its script does nothing. -/
def reusing : Run Machine := harmless selecting.finalBindings selecting.eval.2

theorem bindings_reusing : reusing.bindings = selecting.finalBindings := by
  simp only [reusing, harmless]

theorem start_reusing : reusing.start = selecting.eval.2 := by
  simp only [reusing, harmless]

theorem not_leavesSelected_reusing : ¬∃ v, reusing.LeavesSelected v := by
  have hnone : (reusing.scriptState.globals.get? "selected").isNone = true := by decide +kernel
  rintro ⟨v, x, hx, -⟩
  rw [hx] at hnone
  cases hnone

/-- The second of two runs that share bindings has left no selection, and the bindings hold that of
the first one after it. -/
theorem selected_stays :
    Machine.Reached selecting.start.state ∧ reusing.start = selecting.eval.2 ∧
    selecting.eval.1.2 = some ⟨some reusing.bindings, selecting.out, selecting.err⟩ ∧
    (¬∃ v, reusing.LeavesSelected v) ∧
    ∃ bs, reusing.eval.1.2 = some ⟨some bs, reusing.out, reusing.err⟩ ∧
      bs.get? Bindings.selectedName = some (.value (.bool true)) := by
  have hfirst := get?_selected_of_leaves (r := selecting) rfl (leavesSelected_of_script rfl)
  have hkept := get?_selected_of_not_leaves (r := reusing) rfl not_leavesSelected_reusing
  refine ⟨.create _ _, start_reusing, ?_, not_leavesSelected_reusing, reusing.finalBindings,
    eval_context, ?_⟩
  · rw [bindings_reusing, eval_context]
  · rw [hkept, bindings_reusing, hfirst]

end Run

end ScriptBridge.Engine
