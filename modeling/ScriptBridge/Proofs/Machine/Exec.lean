import ScriptBridge.Machine

/-!
# Steps of an evaluation

What a step of `Exec` does on a given state (`bind_of_ok`, `bind_of_error`, …), and the rules by
which it keeps a property of the state however it ends (`keeps_bind`, `keeps_mapM`, …). A property
is `Stable` if everything that an evaluation does to the state by itself keeps it.
-/

namespace ScriptBridge

namespace Exec

variable {α β : Type} {x : Exec α} {f : α → Exec β} {m m' : Machine} {a : α} {exit : Exit}

/-! ### On a given state -/

theorem get_apply : (get : Exec Machine) m = (.ok m, m) := rfl

theorem bind_apply :
    (x >>= f) m = (ExceptT.bindCont f (x m).1 : StateM Machine (Except Exit β)) (x m).2 := rfl

theorem bind_of_ok (h : x m = (.ok a, m')) : (x >>= f) m = f a m' := by
  rw [bind_apply, h]
  rfl

theorem bind_of_error (h : x m = (.error exit, m')) : (x >>= f) m = (.error exit, m') := by
  rw [bind_apply, h]
  rfl

theorem exists_of_bind_ok {b : β} (h : (x >>= f) m = (.ok b, m')) :
    ∃ a m₁, x m = (.ok a, m₁) ∧ f a m₁ = (.ok b, m') := by
  rcases hx : x m with ⟨exit | a, m₁⟩
  · rw [bind_of_error hx] at h
    cases h
  · rw [bind_of_ok hx] at h
    exact ⟨a, m₁, rfl, h⟩

theorem of_ofExcept_ok {r : Except Fault α} (h : ofExcept r m = (.ok a, m')) :
    r = .ok a ∧ m' = m := by
  cases r with
  | error fault => cases h
  | ok b =>
    cases h
    exact ⟨rfl, rfl⟩

/-! ### Properties that a step keeps -/

/-- The step keeps a property of the state, however it ends. -/
def Keeps (P : Machine → Prop) (x : Exec α) : Prop := ∀ m, P m → P (x m).2

variable {P : Machine → Prop}

@[simp] theorem keeps_pure : Keeps P (pure a : Exec α) := fun _ h => h

@[simp] theorem keeps_throw : Keeps P (throw exit : Exec α) := fun _ h => h

@[simp] theorem keeps_get : Keeps P (get : Exec Machine) := fun _ h => h

theorem keeps_modify {g : Machine → Machine} (h : ∀ m, P m → P (g m)) :
    Keeps P (modify g : Exec PUnit) := h

theorem keeps_bind (hx : Keeps P x) (hf : ∀ a, Keeps P (f a)) : Keeps P (x >>= f) := by
  intro m hm
  have h := hx m hm
  rcases hr : x m with ⟨_ | a, m'⟩
  · rw [bind_of_error hr]
    rwa [hr] at h
  · rw [bind_of_ok hr]
    rw [hr] at h
    exact hf a m' h

theorem keeps_mapM {γ : Type} {f : γ → Exec α} {l : List γ} (h : ∀ c, Keeps P (f c)) :
    Keeps P (l.mapM f) := by
  induction l with
  | nil => exact keeps_pure
  | cons c l ih =>
    rw [List.mapM_cons]
    exact keeps_bind (h c) fun _ => keeps_bind ih fun _ => keeps_pure

end Exec

/-! ### What an evaluation does to the state by itself -/

namespace Machine

/-- The property is kept by everything that an evaluation does to the state. -/
structure Stable (P : Machine → Prop) : Prop where
  console : ∀ m chunks, P m → P { m with console := m.console ++ chunks }
  warnings : ∀ m warnings, P m → P { m with warnings }
  files : ∀ m path append text files, m.files.write path append text = .ok files → P m →
    P { m with files }
  options : ∀ m key x, P m → P { m with options := m.options.insert key x }
  directory : ∀ m directory, P m → P { m with directory }
  frames : ∀ m frames, P m → P { m with frames }
  insert : ∀ m name x, P m → P { m with globals := m.globals.insert name x }
  erase : ∀ m name, P m → P { m with globals := m.globals.erase name }

variable {P : Machine → Prop}

theorem Stable.setVar (h : Stable P) (m : Machine) (name : String) (x : Object) (global : Bool)
    (hm : P m) : P (m.setVar name x global) := by
  unfold Machine.setVar
  split
  · exact h.frames m _ hm
  · exact h.insert m name x hm

theorem Stable.eraseVar (h : Stable P) (m : Machine) (name : String) (hm : P m) :
    P (m.eraseVar name) := by
  unfold Machine.eraseVar
  split
  · exact h.frames m _ hm
  · exact h.erase m name hm

/-- Whether the error handler is running is none of an evaluation's business. -/
theorem stable_handling (b : Bool) : Stable fun m => m.handling = b where
  console _ _ h := h
  warnings _ _ h := h
  files _ _ _ _ _ _ h := h
  options _ _ _ h := h
  directory _ _ h := h
  frames _ _ h := h
  insert _ _ _ h := h
  erase _ _ h := h

end Machine

end ScriptBridge
