import Mathlib.Data.List.Forall2

/-!
# Steps that can fail

When a step of `Except` that is made of others succeeds: `bind`, `map` and `mapError` by the success
of their parts, `mapM` by the success at each element (`mapM_eq_ok`, `exists_forall₂`,
`forall₂_getElem?`).

When it fails: the error is that of the first part that fails (`errorOf?_seq`, `errorOf?_mapM`).
-/

namespace ScriptBridge

variable {ε ε' α β : Type}

theorem except_bind_eq_ok {x : Except ε α} {f : α → Except ε β} {b : β} :
    x >>= f = .ok b ↔ ∃ a, x = .ok a ∧ f a = .ok b := by
  cases x with
  | error e => simp [bind, Except.bind]
  | ok a => simp [bind, Except.bind]

theorem except_map_eq_ok {x : Except ε α} {f : α → β} {b : β} :
    x.map f = .ok b ↔ ∃ a, x = .ok a ∧ f a = b := by
  cases x with
  | error e => simp [Except.map]
  | ok a => simp [Except.map]

theorem except_mapError_eq_ok {x : Except ε α} {f : ε → ε'} {a : α} :
    x.mapError f = .ok a ↔ x = .ok a := by
  cases x <;> simp [Except.mapError]

theorem except_pure_eq_ok {a b : α} : (pure a : Except ε α) = .ok b ↔ a = b := by
  simp [pure, Except.pure]

theorem mapM_eq_ok {f : α → Except ε β} {l : List α} {l' : List β} :
    l.mapM f = .ok l' ↔ List.Forall₂ (fun a b => f a = .ok b) l l' := by
  induction l generalizing l' with
  | nil => rw [List.mapM_nil, except_pure_eq_ok, List.forall₂_nil_left_iff, eq_comm]
  | cons a l ih =>
    rw [List.mapM_cons, except_bind_eq_ok, List.forall₂_cons_left_iff]
    refine exists_congr fun b => ?_
    simp only [except_bind_eq_ok, except_pure_eq_ok, ih]
    constructor
    · rintro ⟨ha, bs, hbs, rfl⟩
      exact ⟨bs, ha, hbs, rfl⟩
    · rintro ⟨bs, ha, hbs, rfl⟩
      exact ⟨ha, bs, hbs, rfl⟩

theorem exists_forall₂ {R : α → β → Prop} {l : List α} :
    (∃ l', List.Forall₂ R l l') ↔ ∀ a ∈ l, ∃ b, R a b := by
  induction l with
  | nil => simp
  | cons a l ih =>
    simp only [List.forall₂_cons_left_iff, List.forall_mem_cons, ← ih]
    constructor
    · rintro ⟨_, b, l', hb, hl, rfl⟩
      exact ⟨⟨b, hb⟩, l', hl⟩
    · rintro ⟨⟨b, hb⟩, l', hl⟩
      exact ⟨b :: l', b, l', hb, hl, rfl⟩

theorem forall₂_getElem? {R : α → β → Prop} {l : List α} {l' : List β} (h : List.Forall₂ R l l')
    {i : Nat} {b : β} (hb : l'[i]? = some b) : ∃ a, l[i]? = some a ∧ R a b := by
  induction h generalizing i with
  | nil => cases hb
  | @cons a b' l l' hhead _ ih =>
    cases i with
    | zero =>
      cases hb
      exact ⟨a, rfl, hhead⟩
    | succ i => exact ih hb

/-! ### Failures -/

def errorOf? : Except ε α → Option ε
  | .error e => some e
  | .ok _ => none

theorem errorOf?_eq_some {x : Except ε α} {e : ε} : errorOf? x = some e ↔ x = .error e := by
  cases x <;> simp [errorOf?]

@[simp] theorem errorOf?_map (f : α → β) (x : Except ε α) : errorOf? (x.map f) = errorOf? x := by
  cases x <;> rfl

@[simp] theorem errorOf?_mapError (f : ε → ε') (x : Except ε α) :
    errorOf? (x.mapError f) = (errorOf? x).map f := by
  cases x <;> rfl

@[simp] theorem errorOf?_bind_pure (x : Except ε α) (f : α → β) :
    errorOf? (x >>= fun a => pure (f a)) = errorOf? x := by
  cases x <;> rfl

/-- Of two steps one after the other the first one's error comes first. -/
theorem errorOf?_seq (x : Except ε α) (y : Except ε β) {γ : Type} (f : α → β → γ) :
    errorOf? (x >>= fun a => y >>= fun b => pure (f a b)) = (errorOf? x).or (errorOf? y) := by
  cases x with
  | error e => rfl
  | ok a => cases y <;> rfl

theorem errorOf?_mapM (f : α → Except ε β) (l : List α) :
    errorOf? (l.mapM f) = l.findSome? fun a => errorOf? (f a) := by
  induction l with
  | nil => rfl
  | cons a l ih =>
    rw [List.mapM_cons, errorOf?_seq (f a) (l.mapM f) List.cons, ih, List.findSome?_cons]
    cases errorOf? (f a) <;> rfl

end ScriptBridge
