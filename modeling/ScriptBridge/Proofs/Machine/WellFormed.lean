import ScriptBridge.Machine.Program
import ScriptBridge.Proofs.Dict
import ScriptBridge.Proofs.Machine.Frames
import ScriptBridge.Proofs.Syntax.Constants

/-!
# Well-formed states

A state is well formed if everything that it holds is: the values of its global variables, of the
variables of its frames and of its options, and the constants of closures among them
(`Machine.WellFormed`). A step is sound if it leaves well-formed states well formed and what it
yields is as it should be, and what it returns is well formed (`Exec.Sound`). The rules below put
sound steps together.
-/

namespace ScriptBridge

def Object.WellFormed : Object → Prop
  | data x => x.WellFormed
  | closure params body => (Expr.function params body).WellFormed

theorem Object.wellFormed_null : null.WellFormed := RValue.WellFormed.null

theorem Object.WellFormed.readBack {x : Object} (h : x.WellFormed) : x.readBack.WellFormed := by
  cases x with
  | data v => exact h
  | closure params body => exact .unsupported "closure"

/-! ### States -/

namespace Machine

/-- Everything that the state holds is well formed. -/
structure WellFormed (m : Machine) : Prop where
  globals : m.globals.All Object.WellFormed
  frames : ∀ f ∈ m.frames, f.vars.All Object.WellFormed
  options : m.options.All Object.WellFormed

variable {m : Machine} {name : String} {x : Object} {frames : List Frame}

theorem wellFormed_create (files : Files) (environment : Dict String) :
    (create files environment).WellFormed where
  globals := Dict.all_nil
  frames _ hf := nomatch hf
  options := List.forall_mem_singleton.mpr (RValue.WellFormed.double _)

theorem WellFormed.withFrames (h : m.WellFormed)
    (hframes : ∀ f ∈ frames, f.vars.All Object.WellFormed) : { m with frames }.WellFormed :=
  ⟨h.globals, hframes, h.options⟩

theorem WellFormed.outside (h : m.WellFormed) : { m with frames := [] }.WellFormed :=
  h.withFrames fun _ hf => nomatch hf

theorem WellFormed.setGlobal (h : m.WellFormed) (hx : x.WellFormed) :
    { m with globals := m.globals.insert name x }.WellFormed :=
  ⟨h.globals.insert name hx, h.frames, h.options⟩

theorem WellFormed.setOption (h : m.WellFormed) (hx : x.WellFormed) :
    { m with options := m.options.insert name x }.WellFormed :=
  ⟨h.globals, h.frames, h.options.insert name hx⟩

theorem WellFormed.lookup? (h : m.WellFormed) (hx : m.lookup? name = some x) : x.WellFormed := by
  unfold Machine.lookup? at hx
  split at hx
  · next y hy =>
    cases hx
    obtain ⟨f, hf, hvar⟩ := Option.bind_eq_some_iff.mp hy
    exact (h.frames f (List.mem_of_head? hf)).get? hvar
  · exact h.globals.get? hx

theorem WellFormed.setVar (h : m.WellFormed) (hx : x.WellFormed) (global : Bool) :
    (m.setVar name x global).WellFormed := by
  unfold Machine.setVar
  split
  · next f rest hframes =>
    have hall := h.frames
    rw [hframes, List.forall_mem_cons] at hall
    exact h.withFrames (List.forall_mem_cons.mpr ⟨hall.1.insert name hx, hall.2⟩)
  · exact h.setGlobal hx

theorem WellFormed.eraseVar (h : m.WellFormed) : (m.eraseVar name).WellFormed := by
  unfold Machine.eraseVar
  split
  · next f rest hframes =>
    have hall := h.frames
    rw [hframes, List.forall_mem_cons] at hall
    exact h.withFrames (List.forall_mem_cons.mpr ⟨hall.1.erase name, hall.2⟩)
  · exact ⟨h.globals.erase name, h.frames, h.options⟩

theorem WellFormed.push {f : Frame} (h : m.WellFormed) (hf : f.vars.All Object.WellFormed) :
    (m.push f).WellFormed :=
  h.withFrames (List.forall_mem_cons.mpr ⟨hf, h.frames⟩)

theorem WellFormed.pop (h : m.WellFormed) : m.pop.WellFormed :=
  h.withFrames fun f hf => h.frames f (List.mem_of_mem_tail hf)

theorem WellFormed.flushWarnings (h : m.WellFormed) : m.flushWarnings.WellFormed := by
  unfold Machine.flushWarnings
  split
  · exact h
  · exact ⟨h.globals, h.frames, h.options⟩

theorem WellFormed.readGlobal? {v : RValue} (h : m.WellFormed) (hv : m.readGlobal? name = some v) :
    v.WellFormed := by
  obtain ⟨x, hx, rfl⟩ := Option.map_eq_some_iff.mp hv
  exact (h.globals.get? hx).readBack

end Machine

/-! ### Steps -/

def Exit.WellFormed : Exit → Prop
  | error _ => True
  | returned x => x.WellFormed

namespace Exec

variable {α β γ : Type} {P Q : α → Prop} {R : β → Prop} {x : Exec α} {f : α → Exec β}
  {m m' : Machine} {exit : Exit} {a : α}

/-- From `m` the step ends in a well-formed state. The value that it yields has the property, or
what it returns is well formed. -/
structure SoundAt (P : α → Prop) (x : Exec α) (m : Machine) : Prop where
  state : (x m).2.WellFormed
  value : ∀ a, (x m).1 = .ok a → P a
  exit : ∀ exit, (x m).1 = .error exit → exit.WellFormed

/-- The step is sound from every well-formed state. -/
def Sound (P : α → Prop) (x : Exec α) : Prop := ∀ m, m.WellFormed → SoundAt P x m

theorem soundAt_of_ok (h : x m = (.ok a, m')) (hm' : m'.WellFormed) (ha : P a) : SoundAt P x m where
  state := by rwa [h]
  value b hb := by
    rw [h] at hb
    cases hb
    exact ha
  exit e he := by
    rw [h] at he
    cases he

theorem soundAt_of_error (h : x m = (.error exit, m')) (hm' : m'.WellFormed)
    (hexit : exit.WellFormed) : SoundAt P x m where
  state := by rwa [h]
  value b hb := by
    rw [h] at hb
    cases hb
  exit e he := by
    rw [h] at he
    cases he
    exact hexit

theorem SoundAt.of_ok (hx : SoundAt P x m) (h : x m = (.ok a, m')) : m'.WellFormed ∧ P a := by
  have hstate := hx.state
  rw [h] at hstate
  exact ⟨hstate, hx.value a (congrArg Prod.fst h)⟩

theorem SoundAt.of_error (hx : SoundAt P x m) (h : x m = (.error exit, m')) :
    m'.WellFormed ∧ exit.WellFormed := by
  have hstate := hx.state
  rw [h] at hstate
  exact ⟨hstate, hx.exit exit (congrArg Prod.fst h)⟩

theorem SoundAt.congr {y : Exec α} (hx : SoundAt P x m) (h : y m' = x m) : SoundAt P y m' where
  state := by
    rw [h]
    exact hx.state
  value := by
    rw [h]
    exact hx.value
  exit := by
    rw [h]
    exact hx.exit

theorem SoundAt.mono (hx : SoundAt P x m) (h : ∀ a, P a → Q a) : SoundAt Q x m :=
  ⟨hx.state, fun a ha => h a (hx.value a ha), hx.exit⟩

/-- What comes next has to be sound only after the value and the state that the step has led to. -/
theorem SoundAt.bind (hx : SoundAt P x m)
    (hf : ∀ a m', x m = (.ok a, m') → m'.WellFormed → P a → SoundAt R (f a) m') :
    SoundAt R (x >>= f) m := by
  rcases h : x m with ⟨exit | a, m'⟩
  · obtain ⟨hm', hexit⟩ := hx.of_error h
    exact soundAt_of_error (bind_of_error h) hm' hexit
  · obtain ⟨hm', ha⟩ := hx.of_ok h
    have hnext := hf a m' h hm' ha
    exact hnext.congr (bind_of_ok h)

theorem Sound.mono (hx : Sound P x) (h : ∀ a, P a → Q a) : Sound Q x :=
  fun m hm => (hx m hm).mono h

theorem Sound.bind (hx : Sound P x) (hf : ∀ a, P a → Sound R (f a)) : Sound R (x >>= f) :=
  fun m hm => (hx m hm).bind fun a m' _ hm' ha => hf a ha m' hm'

theorem sound_pure (ha : P a) : Sound P (pure a : Exec α) :=
  fun _ hm => soundAt_of_ok rfl hm ha

theorem sound_throw (h : exit.WellFormed) : Sound P (throw exit : Exec α) :=
  fun _ hm => soundAt_of_error rfl hm h

theorem sound_get_bind {f : Machine → Exec α} (h : ∀ m, m.WellFormed → Sound P (f m)) :
    Sound P (get >>= f) :=
  fun m hm => (h m hm m hm).congr rfl

theorem sound_modify {g : Machine → Machine} (h : ∀ m, m.WellFormed → (g m).WellFormed) :
    Sound (fun _ => True) (modify g : Exec PUnit) :=
  fun m hm => soundAt_of_ok rfl (h m hm) trivial

theorem sound_set (h : m.WellFormed) : Sound (fun _ => True) (set m : Exec PUnit) :=
  fun _ _ => soundAt_of_ok rfl h trivial

theorem sound_fail (fault : Fault) : Sound P (fail fault : Exec α) :=
  sound_get_bind fun _ _ => sound_throw trivial

theorem sound_ofExcept {r : Except Fault α} (h : ∀ a, r = .ok a → P a) : Sound P (ofExcept r) := by
  cases r with
  | ok a => exact sound_pure (h a rfl)
  | error fault => exact sound_fail fault

theorem sound_data (x : Object) : Sound (fun v => x = .data v) (data x) := by
  cases x with
  | data v => exact sound_pure rfl
  | closure => exact sound_fail _

theorem sound_print (channel : Channel) (text : String) :
    Sound (fun _ => True) (print channel text) :=
  sound_modify fun _ h => ⟨h.globals, h.frames, h.options⟩

theorem sound_mapM {f : γ → Exec α} {l : List γ} (h : ∀ c ∈ l, Sound P (f c)) :
    Sound (fun as => ∀ a ∈ as, P a) (l.mapM f) := by
  induction l with
  | nil => exact sound_pure fun a ha => nomatch ha
  | cons c l ih =>
    rw [List.forall_mem_cons] at h
    rw [List.mapM_cons]
    refine (h.1).bind fun a ha => (ih h.2).bind fun as has => sound_pure ?_
    exact List.forall_mem_cons.mpr ⟨ha, has⟩

theorem sound_optionMapM {f : γ → Exec α} {o : Option γ} (h : ∀ c ∈ o, Sound P (f c)) :
    Sound (fun a? => ∀ a ∈ a?, P a) (o.mapM f) := by
  cases o with
  | none => exact sound_pure fun a ha => nomatch ha
  | some c =>
    refine (h c rfl).bind fun a ha => sound_pure fun b hb => ?_
    cases hb
    exact ha

theorem sound_warn (text : String) : Sound (fun _ => True) (warn text) := by
  rw [warn_eq]
  refine sound_get_bind fun m _ => ?_
  unfold warnAt
  split
  · exact sound_pure trivial
  · split
    · exact sound_modify fun _ h => ⟨h.globals, h.frames, h.options⟩
    · split
      · exact sound_print _ _
      · exact sound_fail _

end Exec

end ScriptBridge
