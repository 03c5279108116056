import ScriptBridge.Proofs.Machine.BuiltinValues
import ScriptBridge.Proofs.Machine.Recursion

/-!
# What evaluations yield

An outline is sound from a state if its run is, provided that the evaluations that it asks for are
(`Outline.SoundAt`); these are evaluations of well-formed expressions from well-formed states. The
outline of a well-formed expression is sound (`Outline.soundAt_ofExpr`): all operations on values
make well-formed values of well-formed ones.
-/

namespace ScriptBridge

open Builtin (Args)
open Exec

/-- The object is well formed, and the integers of scripts can count its elements. -/
def Object.Given (x : Object) : Prop := x.WellFormed ∧ x.Short

/-! ### Calls -/

namespace Call

variable {args : Args} {params : List String} {vars vars' : Dict Object} {xs left : List Object}

theorem all_fillParams (hvars : vars.All Object.WellFormed) (hxs : ∀ x ∈ xs, x.WellFormed) :
    (fillParams params xs vars).1.All Object.WellFormed := by
  fun_induction fillParams params xs vars with
  | case1 p ps x xs vars _ ih => exact ih hvars hxs
  | case2 p ps x xs vars _ ih =>
    rw [List.forall_mem_cons] at hxs
    exact ih (hvars.insert p hxs.1) hxs.2
  | case3 xs vars => exact hvars
  | case4 => exact hvars

theorem all_bindArgs (hargs : ∀ a ∈ args, a.2.WellFormed) (h : bindArgs params args = .ok vars) :
    vars.All Object.WellFormed := by
  have hnamed : Dict.All Object.WellFormed
      (Dict.ofList (args.filterMap fun a => a.1.map fun n => (n, a.2))) := by
    refine Dict.all_ofList fun e he => ?_
    obtain ⟨a, ha, hname⟩ := List.mem_filterMap.mp he
    obtain ⟨n, -, rfl⟩ := Option.map_eq_some_iff.mp hname
    exact hargs a ha
  have hfilled : (fillParams params args.unnamed _).1.All Object.WellFormed :=
    all_fillParams hnamed (Builtin.Args.forall_unnamed hargs)
  unfold bindArgs at h
  split at h
  · cases h
  · extract_lets named at h
    split at h
    next vars' left heq =>
    split at h
    · cases h
      rwa [heq] at hfilled
    · cases h

end Call

namespace Outline

/-- If the evaluations that the outline asks for are sound when they are of well-formed expressions
from well-formed states, they all are, and so is the run. -/
def SoundAt {α : Type} (P : α → Prop) (p : Outline α) (m : Machine) : Prop :=
  m.WellFormed →
  (∀ part ∈ p.asked m, part.1.WellFormed → part.2.WellFormed →
    Exec.SoundAt Object.Given part.1.evalIn part.2) →
  (∀ part ∈ p.asked m, part.1.WellFormed ∧ part.2.WellFormed) ∧
    Exec.SoundAt P (p.run Expr.evalIn) m

variable {α β γ : Type} {P Q : α → Prop} {R : β → Prop} {x : Exec α} {p : Outline α}
  {next : α → Outline β} {m : Machine} {e : Expr}

/-! ### Rules -/

theorem SoundAt.mono (hp : SoundAt P p m) (h : ∀ a, P a → Q a) : SoundAt Q p m := by
  intro hm hasked
  obtain ⟨hparts, hrun⟩ := hp hm hasked
  exact ⟨hparts, hrun.mono h⟩

theorem soundAt_step (h : Exec.Sound P x) : SoundAt P (step x) m :=
  fun hm _ => ⟨(fun _ hpart => nomatch hpart), h m hm⟩

theorem soundAt_pure {a : α} (ha : P a) : SoundAt P (pure a) m := soundAt_step (sound_pure ha)

theorem soundAt_warn (text : String) : SoundAt (fun _ => True) (warn text) m :=
  fun hm _ => ⟨(fun _ hpart => nomatch hpart), sound_warn text m hm⟩

theorem soundAt_eval (he : e.WellFormed) : SoundAt Object.Given (eval e) m := by
  intro hm hasked
  have hmem : (e, m) ∈ (eval e).asked m := List.mem_singleton_self _
  refine ⟨fun part hpart => ?_, hasked _ hmem he hm⟩
  rw [List.mem_singleton.mp hpart]
  exact ⟨he, hm⟩

theorem SoundAt.bind (hp : SoundAt P p m)
    (hnext : ∀ a m', p.run Expr.evalIn m = (.ok a, m') → P a → SoundAt R (next a) m') :
    SoundAt R (p >>= next) m := by
  intro hm hasked
  rcases hrun : p.run Expr.evalIn m with ⟨exit | a, m'⟩
  · rw [asked_bind_of_error hrun] at hasked ⊢
    obtain ⟨hparts, hsound⟩ := hp hm hasked
    obtain ⟨hm', hexit⟩ := hsound.of_error hrun
    exact ⟨hparts, Exec.soundAt_of_error (bind_of_error hrun) hm' hexit⟩
  · rw [asked_bind_of_ok hrun] at hasked ⊢
    rw [List.forall_mem_append] at hasked
    obtain ⟨hparts, hsound⟩ := hp hm hasked.1
    obtain ⟨hm', ha⟩ := hsound.of_ok hrun
    obtain ⟨hparts', hsound'⟩ := hnext a m' hrun ha hm' hasked.2
    exact ⟨List.forall_mem_append.mpr ⟨hparts, hparts'⟩, hsound'.congr (bind_of_ok hrun)⟩

theorem soundAt_enter {f : Frame} {q : Outline Object} (hf : f.vars.All Object.WellFormed)
    (hq : SoundAt Object.WellFormed q (m.push f)) : SoundAt Object.WellFormed (enter f q) m := by
  intro hm hasked
  by_cases hroom : m.room = 0
  · rw [asked_enter_of_full hroom]
    exact ⟨(fun _ hpart => nomatch hpart),
      (sound_fail .tooDeep m hm).congr (run_enter_of_full hroom)⟩
  · rw [asked_enter hroom] at hasked ⊢
    obtain ⟨hparts, hrun⟩ := hq (hm.push hf) hasked
    have hinner : Exec.SoundAt Object.WellFormed (Call.inFrame f (q.run Expr.evalIn)) m := by
      have hstate := hrun.state.pop
      rcases hresult : (q.run Expr.evalIn (m.push f)).1 with (c | y) | y
      · have hcall : Call.inFrame f (q.run Expr.evalIn) m =
            (.error (.error c), (q.run Expr.evalIn (m.push f)).2.pop) := by
          rw [Call.inFrame_apply, hresult]
          rfl
        exact Exec.soundAt_of_error hcall hstate trivial
      · refine Exec.soundAt_of_ok ?_ hstate (hrun.exit _ hresult)
        rw [Call.inFrame_apply, hresult]
        rfl
      · refine Exec.soundAt_of_ok ?_ hstate (hrun.value y hresult)
        rw [Call.inFrame_apply, hresult]
        rfl
    exact ⟨hparts, hinner.congr (run_enter hroom)⟩

theorem soundAt_forM {f : γ → Outline PUnit} {l : List γ}
    (h : ∀ c ∈ l, ∀ m, SoundAt (fun _ => True) (f c) m) :
    SoundAt (fun _ => True) (l.forM f) m := by
  induction l generalizing m with
  | nil => exact soundAt_pure trivial
  | cons c l ih =>
    rw [List.forall_mem_cons] at h
    exact (h.1 m).bind fun _ _ _ _ => ih h.2

theorem soundAt_ofExcept {r : Except Fault α} (h : ∀ a, r = .ok a → P a) :
    SoundAt P (ofExcept r) m :=
  soundAt_step (sound_ofExcept h)

theorem soundAt_fail (fault : Fault) : SoundAt P (step (fail fault)) m :=
  soundAt_step (sound_fail fault)

theorem soundAt_read {g : Machine → α} (h : ∀ m, m.WellFormed → P (g m)) :
    SoundAt P (step (read g)) m :=
  soundAt_step fun m hm => soundAt_of_ok rfl hm (h m hm)

theorem soundAt_data {q : Outline Object} (hq : SoundAt Object.Given q m) :
    SoundAt RValue.WellFormed (data q) m := by
  refine hq.bind fun x _ _ hx => soundAt_step ((sound_data x).mono fun v hv => ?_)
  subst hv
  exact hx.1

theorem soundAt_condition {q : Outline Object} (hq : SoundAt Object.Given q m) :
    SoundAt (fun _ => True) (condition q) m :=
  (soundAt_data hq).bind fun _ _ _ _ => soundAt_ofExcept fun _ _ => trivial

theorem soundAt_evalData (he : e.WellFormed) : SoundAt RValue.WellFormed (data (eval e)) m :=
  soundAt_data (soundAt_eval he)

/-! ### Parts of expressions -/

theorem soundAt_args {arguments : List (Option String × Expr)}
    (h : ∀ a ∈ arguments, a.2.WellFormed) :
    SoundAt (fun args => ∀ a ∈ args, a.2.Given) (args arguments) m := by
  induction arguments generalizing m with
  | nil => exact soundAt_pure fun _ ha => nomatch ha
  | cons a rest ih =>
    obtain ⟨n, e⟩ := a
    rw [List.forall_mem_cons] at h
    refine (soundAt_eval h.1).bind fun x _ _ hx => (ih h.2).bind fun args _ _ hargs => ?_
    exact soundAt_pure (List.forall_mem_cons.mpr ⟨hx, hargs⟩)

theorem soundAt_block {body : List Expr} (h : ∀ e ∈ body, e.WellFormed) {last : Object}
    (hlast : last.WellFormed) : SoundAt Object.WellFormed (block last body) m := by
  induction body generalizing last m with
  | nil => exact soundAt_pure hlast
  | cons e rest ih =>
    rw [List.forall_mem_cons] at h
    exact (soundAt_eval h.1).bind fun x _ _ hx => ih h.2 hx.1

theorem soundAt_names {arguments : List (Option String × Expr)}
    (h : ∀ a ∈ arguments, a.2.WellFormed) : SoundAt (fun _ => True) (names arguments) m := by
  induction arguments generalizing m with
  | nil => exact soundAt_pure trivial
  | cons a rest ih =>
    rw [List.forall_mem_cons] at h
    obtain ⟨n | n, e⟩ := a
    · rw [names]
      split
      · exact (ih h.2).bind fun _ _ _ _ => soundAt_pure trivial
      · exact soundAt_fail _
    · rw [names]
      split
      · refine (soundAt_evalData h.1).bind fun v _ _ _ => ?_
        refine (soundAt_ofExcept (P := fun _ => True) fun _ _ => trivial).bind fun _ _ _ _ => ?_
        exact (ih h.2).bind fun _ _ _ _ => soundAt_pure trivial
      · exact ih h.2

theorem sound_update {u : Update} (h : ∀ m, m.WellFormed → (u.apply m).WellFormed) :
    Exec.Sound (fun _ => True) (update u) :=
  sound_modify h

theorem soundAt_removeVar (n : String) : SoundAt (fun _ => True) (removeVar n) m := by
  refine (soundAt_read (P := fun _ => True) fun _ _ => trivial).bind fun found _ _ _ => ?_
  split
  · exact soundAt_step (sound_update fun m hm => hm.eraseVar)
  · exact soundAt_warn _

theorem sound_setVar {n : String} {y : Object} (hy : y.WellFormed) (global : Bool) :
    Exec.Sound (fun _ => True) (Expr.setVar n y global) :=
  sound_modify fun _ hm => hm.setVar hy global

theorem soundAt_replace {target : Expr} (htarget : target.WellFormed) {y : Object}
    (hy : y.WellFormed) {global : Bool} {f : RValue → RValue → Except Fault RValue}
    (hf : ∀ current v w, current.WellFormed → v.WellFormed → f current v = .ok w → w.WellFormed)
    (hassign : ∀ w : RValue, w.WellFormed → ∀ m,
      SoundAt (fun _ => True) (assign target (.data w) global) m) :
    SoundAt (fun _ => True)
      (data (eval target) >>= fun current => step (Exec.data y) >>= fun v =>
        ofExcept (f current v) >>= fun w => assign target (.data w) global) m := by
  refine (soundAt_evalData htarget).bind fun current _ _ hcurrent => ?_
  refine (soundAt_step (sound_data y)).bind fun v _ _ hv => ?_
  subst hv
  exact (soundAt_ofExcept fun w hw => hf current v w hcurrent hy hw).bind fun w m' _ hw =>
    hassign w hw m'

theorem soundAt_assign : ∀ (target : Expr), target.WellFormed → ∀ {y : Object}, y.WellFormed →
    ∀ (global : Bool) (m : Machine), SoundAt (fun _ => True) (assign target y global) m
  | .name n, _, _, hy, global, m => soundAt_step (sound_setVar hy global)
  | .dollar target n, h, y, hy, global, m => by
    have htarget := Expr.wellFormed_dollar h
    exact soundAt_replace htarget hy (fun current v w hcurrent hv hw => hcurrent.setNamed hv hw)
      fun w hw => soundAt_assign target htarget (y := .data w) hw global
  | .element target i, h, y, hy, global, m => by
    obtain ⟨htarget, hi⟩ := Expr.wellFormed_element h
    refine (soundAt_evalData hi).bind fun i _ _ hi => ?_
    exact soundAt_replace htarget hy (fun current v w hcurrent hv hw => hcurrent.setElement hv hw)
      fun w hw => soundAt_assign target htarget (y := .data w) hw global
  | .index target i, h, y, hy, global, m => by
    obtain ⟨htarget, hi⟩ := Expr.wellFormed_index h
    refine (soundAt_evalData hi).bind fun i _ _ hi => ?_
    exact soundAt_replace htarget hy (fun current v w hcurrent hv hw => hcurrent.setSubset hv hw)
      fun w hw => soundAt_assign target htarget (y := .data w) hw global
  | .const _, _, _, _, _, _ => soundAt_fail _
  | .call _ _, _, _, _, _, _ => soundAt_fail _
  | .unary _ _, _, _, _, _, _ => soundAt_fail _
  | .binary _ _ _, _, _, _, _, _ => soundAt_fail _
  | .assign _ _ _, _, _, _, _, _ => soundAt_fail _
  | .function _ _, _, _, _, _, _ => soundAt_fail _
  | .block _, _, _, _, _, _ => soundAt_fail _
  | .cond _ _ _, _, _, _, _, _ => soundAt_fail _
  | .loop _ _ _, _, _, _, _, _ => soundAt_fail _

theorem soundAt_defaults {params : List (String × Option Expr)}
    (h : ∀ p ∈ params, ∀ e ∈ p.2, e.WellFormed) :
    SoundAt (fun _ => True) (defaults params) m := by
  induction params generalizing m with
  | nil => exact soundAt_pure trivial
  | cons a rest ih =>
    rw [List.forall_mem_cons] at h
    obtain ⟨p, _ | e⟩ := a
    · exact ih h.2
    · rw [defaults]
      refine (soundAt_read (P := fun _ => True) fun _ _ => trivial).bind fun bound _ _ _ => ?_
      extract_lets after
      split
      · refine (soundAt_eval (h.1 e rfl)).bind fun y _ _ hy => ?_
        exact (soundAt_step (sound_setVar hy.1 false)).bind fun _ _ _ _ => ih h.2
      · exact ih h.2

theorem soundAt_call {c : Call} (hc : (Object.closure c.params c.body).WellFormed)
    (hargs : ∀ a ∈ c.args, a.2.WellFormed) : SoundAt Object.WellFormed (call c) m := by
  obtain ⟨hparams, hbody⟩ := Expr.wellFormed_function hc
  refine (soundAt_ofExcept fun vars hvars => Call.all_bindArgs hargs hvars).bind ?_
  intro vars _ _ hvars
  refine soundAt_enter hvars ((soundAt_defaults hparams).bind fun _ _ _ _ => ?_)
  exact (soundAt_eval hbody).mono fun _ h => h.1

theorem soundAt_builtin {name : String} {args : Args} (hargs : ∀ a ∈ args, a.2.WellFormed)
    (hcount : Builtin.Countable name args) : SoundAt Object.WellFormed (builtin name args) m := by
  unfold builtin
  split
  · refine SoundAt.bind (P := RValue.WellFormed) ?_ fun v _ _ hv => soundAt_pure hv
    exact (soundAt_step Builtin.sound_messageText).bind fun text _ _ _ =>
      (soundAt_warn text).bind fun _ _ _ _ => soundAt_pure (RValue.WellFormed.character _)
  · exact soundAt_step (Builtin.sound_call hargs hcount)

/-! ### Expressions -/

/-- The texts whose characters a call of `nchar` counts have fewer than 2^31 of them. -/
def CountsShort (e : Expr) (m : Machine) : Prop :=
  ∀ arguments values m' v texts, e = .call (.name "nchar") arguments →
    (∀ params body, m.lookup? "nchar" ≠ some (.closure params body)) →
    (args arguments).run Expr.evalIn m = (.ok values, m') →
    (values.take "x").1 = some (.data v) → v.asCharacter = .ok texts →
    ∀ s, some s ∈ texts → s.length < 2147483648

/-- An operation on values makes well-formed values of what has been evaluated. -/
theorem soundAt_operation {r : Except Fault RValue}
    (h : ∀ v, r = .ok v → v.length < 2147483648 → v.WellFormed) :
    SoundAt (fun x : Object => x.Short → x.WellFormed)
      (ofExcept r >>= fun v => pure (.data v)) m :=
  (soundAt_ofExcept h).bind fun _ _ _ hv => soundAt_pure hv

theorem SoundAt.always {q : Outline Object} (hq : SoundAt Object.WellFormed q m) :
    SoundAt (fun x : Object => x.Short → x.WellFormed) q m :=
  hq.mono fun _ h _ => h

theorem soundAt_null : SoundAt Object.WellFormed (pure Object.null) m :=
  soundAt_pure Object.wellFormed_null

theorem name_of_name? {f : Expr} {n : String} (h : f.name? = some n) : f = .name n := by
  cases f <;> cases h
  rfl

theorem sound_lookup (n : String) : Exec.Sound Object.WellFormed (Expr.lookup n) := by
  refine sound_get_bind fun m hm => ?_
  split
  · next x hx => exact sound_pure (hm.lookup? hx)
  · exact sound_fail _

theorem soundAt_ofCall {f : Expr} {arguments : List (Option String × Expr)}
    (he : (Expr.call f arguments).WellFormed) (hcount : CountsShort (.call f arguments) m) :
    SoundAt Object.WellFormed (ofExpr (.call f arguments)) m := by
  obtain ⟨hf, harguments⟩ := Expr.wellFormed_call he
  have hwellFormed : ∀ {values : Args}, (∀ a ∈ values, a.2.Given) → ∀ a ∈ values, a.2.WellFormed :=
    fun hvalues a ha => (hvalues a ha).1
  rw [ofExpr]
  cases hname : f.name? with
  | some n =>
    refine (soundAt_read (P := fun found => ∀ x ∈ found, Object.WellFormed x)
      fun m hm x hx => hm.lookup? hx).bind fun found m' hrun hfound => ?_
    change (Except.ok (m.lookup? n), m) = (Except.ok found, m') at hrun
    cases hrun
    split
    · next params body heq =>
      refine (soundAt_args harguments).bind fun values _ _ hvalues => ?_
      exact soundAt_call (hfound _ heq) (hwellFormed hvalues)
    · next hclosure =>
      split
      · refine (soundAt_names harguments).bind fun found _ _ _ => ?_
        exact (soundAt_forM fun n _ _ => soundAt_removeVar n).bind fun _ _ _ _ => soundAt_null
      · refine (soundAt_args harguments).bind fun values m' hrun hvalues => ?_
        refine soundAt_builtin (hwellFormed hvalues) ⟨fun a ha => (hvalues a ha).2, ?_⟩
        -- The name stands for no closure, so the built-in function counts what is short.
        rintro rfl v texts
        rw [name_of_name? hname] at hcount
        exact hcount arguments values m' v texts rfl hclosure hrun
  | none =>
    refine (soundAt_eval hf).bind fun x _ _ hx => ?_
    cases x with
    | closure params body =>
      exact (soundAt_args harguments).bind fun values _ _ hvalues =>
        soundAt_call hx.1 (hwellFormed hvalues)
    | data v => exact soundAt_fail _

/-- What the evaluation of a well-formed expression does by itself is sound. Ranges may be too long
for their integers, so of values whose elements cannot be counted nothing is said. -/
theorem soundAt_ofExpr (he : e.WellFormed) (hcount : CountsShort e m) :
    SoundAt (fun x => x.Short → x.WellFormed) (ofExpr e) m := by
  cases e with
  | const v => exact soundAt_pure fun _ => Expr.wellFormed_const he
  | name n => exact (soundAt_step (sound_lookup n)).always
  | call f arguments => exact (soundAt_ofCall he hcount).always
  | index x i =>
    obtain ⟨hx, hi⟩ := Expr.wellFormed_index he
    refine (soundAt_evalData hx).bind fun v _ _ hv => (soundAt_evalData hi).bind fun _ _ _ _ => ?_
    exact soundAt_operation fun w hw _ => hv.subset hw
  | element x i =>
    obtain ⟨hx, hi⟩ := Expr.wellFormed_element he
    refine (soundAt_evalData hx).bind fun v _ _ hv => (soundAt_evalData hi).bind fun _ _ _ _ => ?_
    exact soundAt_operation fun w hw _ => hv.element hw
  | dollar x n =>
    refine (soundAt_evalData (Expr.wellFormed_dollar he)).bind fun v _ _ hv => ?_
    exact soundAt_operation fun w hw _ => hv.dollar hw
  | unary op x =>
    have hx : x.WellFormed := he
    refine (soundAt_evalData hx).bind fun v _ _ hv => ?_
    exact soundAt_operation fun w hw _ => hv.operateUnary hw
  | binary op x y =>
    obtain ⟨hx, hy⟩ := Expr.wellFormed_binary he
    have htruth : ∀ {m} (b : Bool), SoundAt (fun x : Object => x.Short → x.WellFormed)
        (pure (Expr.ofBool b)) m := fun b => soundAt_pure fun _ => RValue.WellFormed.logical _
    cases op
    case andAnd =>
      refine (soundAt_condition (soundAt_eval hx)).bind fun b _ _ _ => ?_
      split
      · exact (soundAt_condition (soundAt_eval hy)).bind fun b _ _ _ => htruth b
      · exact htruth false
    case orOr =>
      refine (soundAt_condition (soundAt_eval hx)).bind fun b _ _ _ => ?_
      split
      · exact htruth true
      · exact (soundAt_condition (soundAt_eval hy)).bind fun b _ _ _ => htruth b
    all_goals
      refine (soundAt_evalData hx).bind fun _ _ _ _ => (soundAt_evalData hy).bind fun _ _ _ _ => ?_
      exact soundAt_operation fun w hw hlength => RValue.wellFormed_operate hw hlength
  | assign target value global =>
    obtain ⟨htarget, hvalue⟩ := Expr.wellFormed_assign he
    refine (soundAt_eval hvalue).bind fun x m' _ hx => ?_
    exact (soundAt_assign target htarget hx.1 global m').bind fun _ _ _ _ =>
      soundAt_pure fun _ => hx.1
  | function params body => exact soundAt_pure fun _ => he
  | block body =>
    exact (soundAt_block (Expr.wellFormed_blockWords he) Object.wellFormed_null).always
  | cond test yes no =>
    obtain ⟨htest, hyes, hno⟩ := Expr.wellFormed_cond he
    refine (soundAt_condition (soundAt_eval htest)).bind fun b _ _ _ => ?_
    split
    · exact (soundAt_eval hyes).mono fun _ h _ => h.1
    · cases no with
      | none => exact soundAt_null.always
      | some no => exact (soundAt_eval (hno no rfl)).mono fun _ h _ => h.1
  | loop var items body =>
    obtain ⟨hitems, hbody⟩ := Expr.wellFormed_loop he
    refine (soundAt_evalData hitems).bind fun v _ _ hv => ?_
    refine (soundAt_forM fun item hitem m => ?_).bind fun _ _ _ _ => soundAt_null.always
    have hitem : (Object.data item).WellFormed := hv.split item hitem
    refine (soundAt_step (sound_setVar hitem false)).bind fun _ _ _ _ => ?_
    exact (soundAt_eval hbody).bind fun _ _ _ _ => soundAt_pure trivial

end Outline

end ScriptBridge
