import ScriptBridge.Proofs.RValue.WellFormed

/-!
# The parts of a script value

`PartOf y x` says that `y` is `x` or stands anywhere inside it, and `Genuine` that no integer in a
value is the number that stands for a missing one, however its lists are named; the latter is an
equation at each constructor (`genuine_integer`, `genuine_list`, …). `byElements` is the induction
that goes with them.
-/

namespace ScriptBridge.RValue

/-- `y` is `x` or stands anywhere inside it. -/
inductive PartOf (y : RValue) : RValue → Prop where
  | self : PartOf y y
  | element {values : List RValue} {names : Option (List String)} {x : RValue} (mem : x ∈ values)
      (part : PartOf y x) : PartOf y (list values names)

/-- No integer in the value is the number that stands for a missing one. -/
def Genuine (x : RValue) : Prop := ∀ v, PartOf (integer v) x → Proper v

@[elab_as_elim]
theorem byElements {P : RValue → Prop} (null : P null) (logical : ∀ v, P (logical v))
    (integer : ∀ v, P (integer v)) (double : ∀ v, P (double v))
    (character : ∀ v, P (character v))
    (list : ∀ values names, (∀ x ∈ values, P x) → P (list values names))
    (unsupported : ∀ t, P (unsupported t)) (x : RValue) : P x := by
  refine @RValue.rec P (fun values => ∀ x ∈ values, P x) null logical integer double character list
    unsupported ?_ ?_ x
  · intro x hx
    cases hx
  · intro x xs hx hxs y hy
    rcases List.mem_cons.mp hy with rfl | hy
    · exact hx
    · exact hxs y hy

variable {y : RValue} {v : List (Option Int32)} {values : List RValue}
  {names : Option (List String)}

theorem partOf_list : PartOf y (list values names) ↔
    y = list values names ∨ ∃ x ∈ values, PartOf y x := by
  constructor
  · rintro (_ | ⟨mem, part⟩)
    · exact .inl rfl
    · exact .inr ⟨_, mem, part⟩
  · rintro (rfl | ⟨x, mem, part⟩)
    · exact .self
    · exact .element mem part

/-! ### Genuine values -/

@[simp] theorem genuine_null : Genuine null := fun _ h => nomatch h

@[simp] theorem genuine_logical (v : List (Option Bool)) : Genuine (logical v) :=
  fun _ h => nomatch h

@[simp] theorem genuine_double (v : List (Option Float)) : Genuine (double v) :=
  fun _ h => nomatch h

@[simp] theorem genuine_character (v : List (Option String)) : Genuine (character v) :=
  fun _ h => nomatch h

@[simp] theorem genuine_unsupported (t : String) : Genuine (unsupported t) := fun _ h => nomatch h

@[simp] theorem genuine_integer : Genuine (integer v) ↔ Proper v := by
  refine ⟨fun h => h v .self, fun h w hw => ?_⟩
  cases hw
  exact h

@[simp] theorem genuine_list : Genuine (list values names) ↔ ∀ x ∈ values, Genuine x := by
  refine ⟨fun h x hx w hw => h w (.element hx hw), fun h w hw => ?_⟩
  cases hw with
  | element hx hw => exact h _ hx w hw

end ScriptBridge.RValue
