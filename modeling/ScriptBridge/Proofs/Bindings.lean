import ScriptBridge.Bindings

/-!
# Bindings by name

`put` gives a name its binding (`get?_put_self`), leaves every other name alone (`get?_put_of_ne`)
and keeps all other entries as they are and in their order (`filter_put`).
-/

namespace ScriptBridge.Bindings

variable {bs : Bindings} {name other : String} {b : Binding}

@[simp] theorem get?_put_self : (bs.put name b).get? name = some b := by
  obtain ⟨entries⟩ := bs
  induction entries with
  | nil => simp [put, insert, insertEntry, get?]
  | cons e rest ih =>
    simp only [put, insert, insertEntry, get?] at ih ⊢
    split
    · next h => simp [h]
    · next h => simpa [h] using ih

theorem get?_put_of_ne (h : other ≠ name) : (bs.put name b).get? other = bs.get? other := by
  obtain ⟨entries⟩ := bs
  induction entries with
  | nil => simp [put, insert, insertEntry, get?, h.symm]
  | cons e rest ih =>
    simp only [put, insert, insertEntry, get?] at ih ⊢
    split
    · next hk => simp [hk, h.symm]
    · next hk =>
      by_cases ho : e.1 = other
      · simp [ho]
      · simpa [ho] using ih

@[simp] theorem value?_put_self {v : Value} : (bs.put name (.value v)).value? name = some v := by
  simp [value?]

theorem value?_put_of_ne (h : other ≠ name) : (bs.put name b).value? other = bs.value? other := by
  simp only [value?, get?_put_of_ne h]

theorem variables?_put_of_ne (h : name ≠ variablesName) :
    (bs.put name b).variables? = bs.variables? := by
  simp only [variables?, get?_put_of_ne h.symm]

/-- The entries that a predicate on names keeps are those from before, if it drops the name that was
set. -/
theorem filter_put {p : String → Bool} (h : p name = false) :
    (bs.put name b).entries.filter (fun e => p e.1) = bs.entries.filter (fun e => p e.1) := by
  obtain ⟨entries⟩ := bs
  induction entries with
  | nil => simp [put, insert, insertEntry, h]
  | cons e rest ih =>
    simp only [put, insert, insertEntry] at ih ⊢
    split
    · next hk =>
      subst hk
      simp [h]
    · simp only [List.filter_cons, ih]

end ScriptBridge.Bindings
