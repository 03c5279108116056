/-!
# Steps on a state

What a step does on a given state (`bind_apply`, `get_apply`, …), and where steps lead.
`Leads P x Q` says that the step `x` ends in `Q` from every state in `P`, whatever it yields, and
`Keeps P x` that it stays in `P`. `Relates R x R'` compares two runs of one step: from states that
`R` relates it yields the same and ends in states that `R'` relates. Steps are taken apart by one
rule for each way they are put together.
-/

namespace ScriptBridge.Steps

variable {S α β : Type}

/-! ### On a given state -/

theorem bind_apply (x : StateM S α) (f : α → StateM S β) (s : S) :
    (x >>= f) s = f (x s).1 (x s).2 := rfl

theorem pure_apply (a : α) (s : S) : (pure a : StateM S α) s = (a, s) := rfl

theorem get_apply (s : S) : (get : StateM S S) s = (s, s) := rfl

theorem set_apply (s t : S) : (set t : StateM S PUnit) s = (⟨⟩, t) := rfl

theorem modify_apply (f : S → S) (s : S) : (modify f : StateM S PUnit) s = (⟨⟩, f s) := rfl

/-! ### Where steps lead -/

variable {P Q R : S → Prop}

/-- From every state in `P` the step ends in a state in `Q`. -/
def Leads (P : S → Prop) (x : StateM S α) (Q : S → Prop) : Prop := ∀ s, P s → Q (x s).2

/-- From every state in `P` the step ends in a state in `P`. -/
abbrev Keeps (P : S → Prop) (x : StateM S α) : Prop := Leads P x P

theorem Leads.and {P' Q' : S → Prop} {x : StateM S α} (h : Leads P x Q) (h' : Leads P' x Q') :
    Leads (fun s => P s ∧ P' s) x (fun s => Q s ∧ Q' s) :=
  fun s hs => ⟨h s hs.1, h' s hs.2⟩

theorem keeps_pure {a : α} : Keeps P (pure a : StateM S α) := fun _ h => h

theorem leads_bind {x : StateM S α} {f : α → StateM S β} (hx : Leads P x Q)
    (hf : ∀ a, Leads Q (f a) R) : Leads P (x >>= f) R :=
  fun s hs => hf _ _ (hx s hs)

theorem keeps_get : Keeps P (get : StateM S S) := fun _ h => h

theorem leads_get_bind {f : S → StateM S β} (hf : ∀ s, P s → Q (f s s).2) :
    Leads P (get >>= f) Q := hf

/-- What follows `get` is a step for each state that it may yield. -/
theorem leads_get_step {f : S → StateM S β} (hf : ∀ s, P s → Leads P (f s) Q) :
    Leads P (get >>= f) Q :=
  fun s hs => hf s hs s hs

theorem keeps_forM {l : List α} {f : α → StateM S PUnit} (h : ∀ a ∈ l, Keeps P (f a)) :
    Keeps P (l.forM f) := by
  induction l with
  | nil => exact keeps_pure
  | cons a l ih =>
    exact leads_bind (h a List.mem_cons_self) fun _ =>
      ih fun b hb => h b (List.mem_cons_of_mem a hb)

/-- A loop that keeps `P` up to one of its turns, which leads to `Q`, and `Q` after it. -/
theorem leads_forM_of_mem {l : List α} {f : α → StateM S PUnit} {a : α} (hmem : a ∈ l)
    (ha : Leads P (f a) Q) (hP : ∀ b ∈ l, Keeps P (f b)) (hQ : ∀ b ∈ l, Keeps Q (f b)) :
    Leads P (l.forM f) Q := by
  induction l with
  | nil => cases hmem
  | cons b l ih =>
    rcases List.mem_cons.mp hmem with rfl | hmem
    · exact leads_bind ha fun _ => keeps_forM fun c hc => hQ c (List.mem_cons_of_mem _ hc)
    · exact leads_bind (hP b List.mem_cons_self) fun _ =>
        ih hmem (fun c hc => hP c (List.mem_cons_of_mem _ hc)) fun c hc =>
          hQ c (List.mem_cons_of_mem _ hc)

theorem keeps_mapM {l : List α} {f : α → StateM S β} (h : ∀ a ∈ l, Keeps P (f a)) :
    Keeps P (l.mapM f) := by
  induction l with
  | nil => exact keeps_pure
  | cons a l ih =>
    rw [List.mapM_cons]
    exact leads_bind (h a List.mem_cons_self) fun _ =>
      leads_bind (ih fun b hb => h b (List.mem_cons_of_mem a hb)) fun _ => keeps_pure

/-! ### Two runs of a step -/

variable {R R' R'' : S → S → Prop}

/-- From related states the step yields the same and ends in states that `R'` relates. -/
def Relates (R : S → S → Prop) (x : StateM S α) (R' : S → S → Prop) : Prop :=
  ∀ s t, R s t → (x s).1 = (x t).1 ∧ R' (x s).2 (x t).2

/-- From related states the step yields the same and ends in related states. -/
abbrev Respects (R : S → S → Prop) (x : StateM S α) : Prop := Relates R x R

theorem respects_pure {a : α} : Respects R (pure a : StateM S α) := fun _ _ h => ⟨rfl, h⟩

theorem relates_modify {f : S → S} (hf : ∀ s t, R s t → R' (f s) (f t)) :
    Relates R (modify f : StateM S PUnit) R' := fun s t h => ⟨rfl, hf s t h⟩

theorem relates_bind {x : StateM S α} {f : α → StateM S β} (hx : Relates R x R')
    (hf : ∀ a, Relates R' (f a) R'') : Relates R (x >>= f) R'' := by
  intro s t h
  obtain ⟨hvalue, hstates⟩ := hx s t h
  rw [bind_apply, bind_apply, ← hvalue]
  exact hf _ _ _ hstates

/-- What follows `get` may depend only on what related states have in common. -/
theorem relates_get_bind {f : S → StateM S β} (hcongr : ∀ s t, R s t → f s = f t)
    (hf : ∀ s, Relates R (f s) R') : Relates R (get >>= f) R' := by
  intro s t h
  rw [bind_apply, bind_apply, get_apply, get_apply, ← hcongr s t h]
  exact hf s s t h

theorem respects_forM {l : List α} {f : α → StateM S PUnit} (h : ∀ a ∈ l, Respects R (f a)) :
    Respects R (l.forM f) := by
  induction l with
  | nil => exact respects_pure
  | cons a l ih =>
    exact relates_bind (h a List.mem_cons_self) fun _ =>
      ih fun b hb => h b (List.mem_cons_of_mem a hb)

theorem respects_mapM {l : List α} {f : α → StateM S β} (h : ∀ a ∈ l, Respects R (f a)) :
    Respects R (l.mapM f) := by
  induction l with
  | nil => exact respects_pure
  | cons a l ih =>
    rw [List.mapM_cons]
    exact relates_bind (h a List.mem_cons_self) fun _ =>
      relates_bind (ih fun b hb => h b (List.mem_cons_of_mem a hb)) fun _ => respects_pure

end ScriptBridge.Steps
