import ScriptBridge.Proofs.Engine.Phases

/-!
# How a run ends

Three sources decide how a run ends: the stop message that the script has left with the router, the
answer to the script, and the result that the script has left. `Run.outcome_and_bindings` says which
of them wins in each case, and what is in the bindings afterwards, for every backend.
-/

namespace ScriptBridge.Engine.Run

variable {σ : Type} {r : Run σ}

/-! ### The result -/

/-- The value that a run puts into the bindings: what the script has left, else its own value, else
truth. -/
def IsResult (r : Run σ) (v : Value) : Prop :=
  r.Left v ∨ (¬∃ w, r.Left w) ∧ (r.Yields v ∨ (¬∃ w, r.Yields w) ∧ v = .bool true)

theorem isResult_result : r.IsResult r.result := by
  rcases hl : valueOf? r.resultAnswer with _ | v
  · have hnone : ¬∃ w, r.Left w := by
      rintro ⟨w, hw⟩
      rw [valueOf?_resultAnswer.mpr hw] at hl
      cases hl
    rcases hy : scriptValue? r.answer with _ | v
    · refine .inr ⟨hnone, .inr ⟨?_, by simp [result, hl, hy]⟩⟩
      rintro ⟨w, hw⟩
      rw [scriptValue?_answer.mpr hw] at hy
      cases hy
    · have hv : r.result = v := by simp [result, hl, hy]
      exact .inr ⟨hnone, .inl (hv ▸ scriptValue?_answer.mp hy)⟩
  · have hv : r.result = v := by simp [result, hl]
    exact .inl (hv ▸ valueOf?_resultAnswer.mp hl)

theorem IsResult.ne_null {v : Value} (h : r.IsResult v) : v ≠ .null := by
  rcases h with ⟨_, _, _, h⟩ | ⟨-, ⟨_, _, _, h⟩ | ⟨-, rfl⟩⟩
  · exact h
  · exact h
  · exact Value.noConfusion

/-! ### The bindings -/

theorem value?_finalBindings : r.finalBindings.value? Bindings.resultName = some r.result := by
  unfold finalBindings withResult
  split
  · rw [Bindings.value?_put_of_ne (by decide), Bindings.value?_put_self]
  · rw [Bindings.value?_put_self]

/-- The entries that a run does not set. -/
def others (bs : Bindings) : List (String × Binding) :=
  bs.entries.filter fun e => e.1 ≠ Bindings.resultName ∧ e.1 ≠ Bindings.selectedName

theorem others_finalBindings : others r.finalBindings = others r.bindings := by
  have h : others r.withResult = others r.bindings :=
    Bindings.filter_put (p := fun n => n ≠ Bindings.resultName ∧ n ≠ Bindings.selectedName)
      (by decide)
  unfold finalBindings
  split
  · exact (Bindings.filter_put (p := fun n => n ≠ Bindings.resultName ∧ n ≠ Bindings.selectedName)
      (by decide)).trans h
  · exact h

/-! ### The outcome -/

section

variable {stop : Option String} {answer : Except BackendError RValue} {explicit : Bool}
  {bs : Bindings}

theorem outcome_eq_stopped {m : String} :
    Engine.outcome stop answer explicit bs = .error (.stopped m) ↔ stop = some m := by
  rcases stop with _ | text
  · rcases answer with (_ | _) | x <;> cases explicit <;> simp [Engine.outcome]
  · simp [Engine.outcome]

theorem exists_outcome_eq_evaluation :
    (∃ t, Engine.outcome stop answer explicit bs = .error (.evaluation t)) ↔
      stop = none ∧ (∃ p, answer = .error p) ∧ explicit = false := by
  rcases stop with _ | text
  · rcases answer with (_ | _) | x <;> cases explicit <;> simp [Engine.outcome]
  · simp [Engine.outcome]

theorem outcome_eq_ok {w : Value} :
    Engine.outcome stop answer explicit bs = .ok w ↔
      stop = none ∧ ((∃ x, answer = .ok x) ∨ explicit = true) ∧
        (bs.value? Bindings.resultName).getD (.bool true) = w := by
  rcases stop with _ | text
  · rcases answer with (_ | _) | x <;> cases explicit <;> simp [Engine.outcome]
  · simp [Engine.outcome]

end

theorem outcome_eq : r.outcome =
    Engine.outcome r.stop? r.answer (valueOf? r.resultAnswer).isSome r.finalBindings := by
  rw [outcome, eval_eq]

theorem exists_left_iff : (∃ v, r.Left v) ↔ (valueOf? r.resultAnswer).isSome = true := by
  simp only [Option.isSome_iff_exists, valueOf?_resultAnswer]

/-- A run is stopped exactly by a stop message, fails exactly by an answer that is an error without
a result that the script has left, and succeeds otherwise. The bindings then hold a result, the one
that a successful run yields, and are the same as before but for the result and the selection. -/
theorem outcome_and_bindings (r : Run σ) :
    (∀ m, r.outcome = .error (.stopped m) ↔ r.stop? = some m) ∧
    ((∃ t, r.outcome = .error (.evaluation t)) ↔
      r.stop? = none ∧ (∃ p, r.answer = .error p) ∧ ¬∃ v, r.Left v) ∧
    ((∃ v, r.outcome = .ok v) ↔
      r.stop? = none ∧ ((∃ x, r.answer = .ok x) ∨ ∃ v, r.Left v)) ∧
    ∃ bs v, r.eval.1.2 = some ⟨some bs, r.out, r.err⟩ ∧
      bs.value? Bindings.resultName = some v ∧ v ≠ .null ∧ r.IsResult v ∧
      (∀ w, r.outcome = .ok w → w = v) ∧ others bs = others r.bindings := by
  rw [outcome_eq]
  refine ⟨fun m => outcome_eq_stopped, ?_, ?_, r.finalBindings, r.result, by rw [eval_eq],
    value?_finalBindings, isResult_result.ne_null, isResult_result, fun w hw => ?_,
    others_finalBindings⟩
  · rw [exists_outcome_eq_evaluation, exists_left_iff, Bool.not_eq_true]
  · simp only [outcome_eq_ok, exists_left_iff, exists_and_left, exists_eq', and_true]
  · obtain ⟨-, -, rfl⟩ := outcome_eq_ok.mp hw
    rw [value?_finalBindings, Option.getD_some]

end ScriptBridge.Engine.Run
