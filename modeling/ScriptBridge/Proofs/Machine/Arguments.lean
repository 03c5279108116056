import Mathlib
import ScriptBridge.Proofs.Dict
import ScriptBridge.Proofs.Machine.Recursion

/-!
# Arguments of closures

A call puts its arguments into the variables of a new frame: one with a name under that name, the
others in order on the parameters that no argument names (`Call.Matched`). It gets as far as the
frame if each name is a parameter's and there are no more of the others than there are parameters
for them (`Call.Fits`).

In the frame the parameters come in turn, and one that has no variable when its turn comes gets the
value of its default (`Call.FillsIn`). These are the parameters that no argument is for
(`Call.rest`), unless a default itself sets or removes the variable of a parameter.
-/

namespace ScriptBridge

open Builtin (Args)
open Exec

def Builtin.Args.names (args : Args) : List String := args.filterMap (·.1)

theorem Builtin.Args.mem_names {args : Args} {n : String} :
    n ∈ args.names ↔ ∃ x, (some n, x) ∈ args := by
  simp [names]

theorem Machine.hasVar_setVar_of_ne {n p : String} (h : p ≠ n) (m : Machine) (x : Object) :
    (m.setVar p x false).hasVar n = m.hasVar n := by
  cases hframes : m.frames with
  | nil => simp only [setVar, hasVar, hframes, Dict.contains_insert_ne h]
  | cons f rest => simp only [setVar, hasVar, hframes, Dict.contains_insert_ne h]

namespace Call

variable {c : Call} {m m₁ : Machine} {params : List String} {vars : Dict Object}
  {xs : List Object} {args args' : Args} {n : String} {x : Object}

/-! ### Parameters without a variable -/

/-- The parameters that are not among the variables. -/
def unbound (params : List String) (vars : Dict Object) : List String :=
  params.filter fun p => !vars.contains p

theorem unbound_cons_of_contains {p : String} (h : vars.contains p) :
    unbound (p :: params) vars = unbound params vars := by
  simp [unbound, h]

theorem unbound_cons_of_not_contains {p : String} (h : ¬vars.contains p) :
    unbound (p :: params) vars = p :: unbound params vars := by
  simp [unbound, h]

theorem unbound_insert {p : String} (h : p ∉ params) (x : Object) :
    unbound params (vars.insert p x) = unbound params vars := by
  refine List.filter_congr fun q hq => ?_
  have hne : p ≠ q := fun heq => h (heq ▸ hq)
  rw [Dict.contains_insert_ne hne]

theorem sorted_fillParams (h : Dict.Sorted vars) : Dict.Sorted (fillParams params xs vars).1 := by
  fun_induction fillParams params xs vars with
  | case1 p ps x xs vars _ ih => exact ih h
  | case2 p ps x xs vars _ ih => exact ih (h.insert p x)
  | case3 xs vars => exact h
  | case4 => exact h

/-- The objects beyond the parameters without a variable are left. -/
theorem snd_fillParams (h : params.Nodup) :
    (fillParams params xs vars).2 = xs.drop (unbound params vars).length := by
  fun_induction fillParams params xs vars with
  | case1 p ps x xs vars hp ih =>
    rw [ih h.of_cons, unbound_cons_of_contains hp]
  | case2 p ps x xs vars hp ih =>
    obtain ⟨hhead, htail⟩ := List.nodup_cons.mp h
    rw [ih htail, unbound_insert hhead, unbound_cons_of_not_contains hp, List.length_cons,
      List.drop_succ_cons]
  | case3 xs vars => rfl
  | case4 => rw [List.drop_nil]

/-- The objects go in order on the parameters without a variable. -/
theorem get?_fillParams (h : params.Nodup) :
    (fillParams params xs vars).1.get? n = some x ↔
      vars.get? n = some x ∨ (n, x) ∈ (unbound params vars).zip xs := by
  fun_induction fillParams params xs vars with
  | case1 p ps y ys vars hp ih =>
    rw [ih h.of_cons, unbound_cons_of_contains hp]
  | case2 p ps y ys vars hp ih =>
    obtain ⟨hhead, htail⟩ := List.nodup_cons.mp h
    rw [ih htail, unbound_insert hhead, unbound_cons_of_not_contains hp, List.zip_cons_cons,
      List.mem_cons, Dict.get?_insert]
    by_cases hn : p = n
    · subst hn
      have hnone : vars.get? p = none := by simpa [Dict.contains] using hp
      have hrest : (p, x) ∉ (unbound ps vars).zip ys := fun hmem =>
        hhead (List.mem_of_mem_filter (List.of_mem_zip hmem).1)
      simp [hnone, hrest, eq_comm]
    · simp [hn, Ne.symm hn]
  | case3 xs vars => simp [unbound]
  | case4 => simp

/-! ### Named arguments -/

/-- The variables that arguments with a name give. -/
def named (args : Args) : Dict Object :=
  Dict.ofList (args.filterMap fun a => a.1.map fun n => (n, a.2))

theorem get?_named (h : args.names.Nodup) :
    (named args).get? n = some x ↔ (some n, x) ∈ args := by
  have hkeys : (args.filterMap fun a => a.1.map fun n => (n, a.2)).map (·.1) = args.names := by
    rw [List.map_filterMap]
    refine List.filterMap_congr fun a _ => ?_
    rw [Option.map_map]
    exact Option.map_id'
  have hnodup := hkeys ▸ h
  rw [named, Dict.get?_ofList_of_nodup hnodup, Dict.get?_eq_some_iff_mem hnodup]
  simp

theorem contains_named (h : args.names.Nodup) : (named args).contains n ↔ n ∈ args.names := by
  rw [Dict.contains_iff, Args.mem_names]
  simp only [get?_named h]

/-- The order of the arguments does not matter to those with a name. -/
theorem named_congr (h : args.names.Nodup) (hperm : args'.Perm args) :
    named args' = named args := by
  have h' : args'.names.Nodup := (hperm.filterMap _).nodup_iff.mpr h
  refine Dict.Sorted.ext (Dict.sorted_ofList _) (Dict.sorted_ofList _) fun n => ?_
  refine Option.ext fun x => ?_
  rw [get?_named h', get?_named h, hperm.mem_iff]

theorem unknownName?_eq_none :
    unknownName? params args = none ↔ ∀ n ∈ args.names, n ∈ params := by
  rw [unknownName?, List.find?_eq_none]
  exact forall₂_congr fun n _ => by simp

theorem bindArgs_of_unknown (h : unknownName? params args = some n) :
    bindArgs params args = .error (.unusedNamedArgument n) := by
  rw [bindArgs, h]

theorem bindArgs_of_known (h : unknownName? params args = none) :
    bindArgs params args =
      if (fillParams params args.unnamed (named args)).2.isEmpty then
        .ok (fillParams params args.unnamed (named args)).1
      else .error .unusedArgument := by
  rw [bindArgs, h]
  rfl

/-! ### Matching -/

/-- The parameters that no argument names. -/
def unnamedParams (c : Call) : List (String × Option Expr) :=
  c.params.filter (·.1 ∉ c.args.names)

/-- The parameters that no argument is for. -/
def rest (c : Call) : List (String × Option Expr) :=
  c.unnamedParams.drop c.args.unnamed.length

/-- There is a parameter for each argument. -/
structure Fits (c : Call) : Prop where
  named : ∀ n ∈ c.args.names, n ∈ c.params.map (·.1)
  unnamed : c.args.unnamed.length ≤ c.unnamedParams.length

/-- The variables are the arguments: those with a name under it, the others in order on the
parameters that no argument names. -/
structure Matched (c : Call) (vars : Dict Object) : Prop where
  sorted : Dict.Sorted vars
  get?_iff : ∀ n x, vars.get? n = some x ↔
    (some n, x) ∈ c.args ∨ (n, x) ∈ (c.unnamedParams.map (·.1)).zip c.args.unnamed

/-- The fault tells of an argument that there is no parameter for. -/
inductive Unused (c : Call) : Fault → Prop
  | named {n : String} {x : Object} (harg : (some n, x) ∈ c.args)
      (hparam : n ∉ c.params.map (·.1)) : Unused c (.unusedNamedArgument n)
  | unnamed (h : c.unnamedParams.length < c.args.unnamed.length) : Unused c .unusedArgument

section

variable (hparams : (c.params.map (·.1)).Nodup) (hargs : c.args.names.Nodup)

include hargs in
theorem unbound_named :
    unbound (c.params.map (·.1)) (named c.args) = c.unnamedParams.map (·.1) := by
  rw [unbound, List.filter_map, unnamedParams]
  refine congrArg _ (List.filter_congr fun p _ => ?_)
  rw [Bool.eq_iff_iff, Function.comp_apply, Bool.not_eq_true', ← Bool.not_eq_true,
    contains_named hargs, decide_eq_true_iff]

include hparams hargs

theorem matched_fillParams :
    c.Matched (fillParams (c.params.map (·.1)) c.args.unnamed (named c.args)).1 where
  sorted := sorted_fillParams (Dict.sorted_ofList _)
  get?_iff n x := by rw [get?_fillParams hparams, unbound_named hargs, get?_named hargs]

theorem isEmpty_fillParams :
    (fillParams (c.params.map (·.1)) c.args.unnamed (named c.args)).2.isEmpty ↔
      c.args.unnamed.length ≤ c.unnamedParams.length := by
  rw [snd_fillParams hparams, unbound_named hargs, List.length_map, List.isEmpty_iff,
    List.drop_eq_nil_iff]

theorem bindArgs_of_fits (h : c.Fits) :
    ∃ vars, bindArgs (c.params.map (·.1)) c.args = .ok vars ∧ c.Matched vars := by
  refine ⟨_, ?_, matched_fillParams hparams hargs⟩
  rw [bindArgs_of_known (unknownName?_eq_none.mpr h.named),
    if_pos ((isEmpty_fillParams hparams hargs).mpr h.unnamed)]

theorem bindArgs_of_not_fits (h : ¬c.Fits) :
    ∃ fault, c.Unused fault ∧ bindArgs (c.params.map (·.1)) c.args = .error fault := by
  cases hunknown : unknownName? (c.params.map (·.1)) c.args with
  | some n =>
    obtain ⟨x, harg⟩ := Args.mem_names.mp (List.mem_of_find?_eq_some hunknown)
    have hparam : n ∉ c.params.map (·.1) := by simpa using List.find?_some hunknown
    exact ⟨_, .named harg hparam, bindArgs_of_unknown hunknown⟩
  | none =>
    have hlength : ¬c.args.unnamed.length ≤ c.unnamedParams.length := fun hle =>
      h ⟨unknownName?_eq_none.mp hunknown, hle⟩
    refine ⟨_, .unnamed (Nat.lt_of_not_le hlength), ?_⟩
    rw [bindArgs_of_known hunknown, if_neg (mt (isEmpty_fillParams hparams hargs).mp hlength)]

end

/-- The order of the arguments matters to those without a name only. -/
theorem bindArgs_congr (hargs : args.names.Nodup) (hknown : ∀ n ∈ args.names, n ∈ params)
    (hperm : args'.Perm args) (hunnamed : args'.unnamed = args.unnamed) :
    bindArgs params args' = bindArgs params args := by
  have hknown' : ∀ n ∈ args'.names, n ∈ params := fun n hn =>
    hknown n ((hperm.filterMap _).mem_iff.mp hn)
  rw [bindArgs_of_known (unknownName?_eq_none.mpr hknown'),
    bindArgs_of_known (unknownName?_eq_none.mpr hknown), named_congr hargs hperm, hunnamed]

/-! ### Parameters that no argument is for -/

theorem map_fst_zip_eq_take {α β : Type} (l : List α) (l' : List β) :
    (l.zip l').map (·.1) = l.take l'.length := by
  induction l generalizing l' with
  | nil => simp
  | cons a l ih => cases l' <;> simp [ih]

theorem filter_not_mem_take {β : Type} {l : List (String × β)} (h : (l.map (·.1)).Nodup) (k : Nat) :
    l.filter (fun p => p.1 ∉ (l.take k).map (·.1)) = l.drop k := by
  rw [← List.take_append_drop k l, List.map_append, List.nodup_append] at h
  obtain ⟨-, -, hdisjoint⟩ := h
  have htake : (l.take k).filter (fun p => p.1 ∉ (l.take k).map (·.1)) = [] :=
    List.filter_eq_nil_iff.mpr fun p hp hnot => of_decide_eq_true hnot (List.mem_map_of_mem hp)
  have hdrop : (l.drop k).filter (fun p => p.1 ∉ (l.take k).map (·.1)) = l.drop k :=
    List.filter_eq_self.mpr fun p hp => decide_eq_true fun hmem =>
      hdisjoint _ hmem _ (List.mem_map_of_mem hp) rfl
  calc l.filter (fun p => p.1 ∉ (l.take k).map (·.1))
      = (l.take k ++ l.drop k).filter (fun p => p.1 ∉ (l.take k).map (·.1)) := by
        rw [List.take_append_drop]
    _ = l.drop k := by rw [List.filter_append, htake, hdrop, List.nil_append]

theorem Matched.contains_iff (h : c.Matched vars) : vars.contains n ↔
    n ∈ c.args.names ∨ n ∈ (c.unnamedParams.take c.args.unnamed.length).map (·.1) := by
  rw [Dict.contains_iff, Args.mem_names, List.map_take, ← map_fst_zip_eq_take, List.mem_map]
  simp only [h.get?_iff, exists_or, Prod.exists, exists_and_right, exists_eq_right]

/-- The parameters without a variable are those that no argument is for. -/
theorem Matched.filter_params (h : c.Matched vars) (hparams : (c.params.map (·.1)).Nodup) :
    c.params.filter (fun p => !vars.contains p.1) = c.rest := by
  have hunnamed : (c.unnamedParams.map (·.1)).Nodup :=
    hparams.sublist (List.filter_sublist.map _)
  rw [rest, ← filter_not_mem_take hunnamed]
  conv_rhs => rw [unnamedParams, List.filter_filter, ← unnamedParams]
  refine List.filter_congr fun p _ => ?_
  rw [Bool.eq_iff_iff, Bool.not_eq_true', ← Bool.not_eq_true, h.contains_iff, not_or,
    Bool.and_eq_true, decide_eq_true_iff, decide_eq_true_iff, and_comm]

/-! ### Defaults -/

/-- The parameters come in turn, from a state in which the frame is the innermost one. One that has
no variable in the frame when its turn comes gets the value of its default, evaluated there; an
evaluation that fails is the end. -/
inductive FillsIn : List (String × Option Expr) → Machine → List (Expr × Machine) →
    Except Exit Unit × Machine → Prop
  | none (m : Machine) : FillsIn [] m [] (.ok (), m)
  | bound {p : String} {e : Option Expr} {ps : List (String × Option Expr)} {m : Machine}
      {evaluated : List (Expr × Machine)} {r : Except Exit Unit × Machine}
      (hp : m.hasVar p) (h : FillsIn ps m evaluated r) : FillsIn ((p, e) :: ps) m evaluated r
  | without {p : String} {ps : List (String × Option Expr)} {m : Machine}
      {evaluated : List (Expr × Machine)} {r : Except Exit Unit × Machine}
      (h : FillsIn ps m evaluated r) : FillsIn ((p, .none) :: ps) m evaluated r
  | default {p : String} {e : Expr} {ps : List (String × Option Expr)} {m m₁ : Machine}
      {x : Object} {evaluated : List (Expr × Machine)} {r : Except Exit Unit × Machine}
      (hp : ¬m.hasVar p) (he : e.evalIn m = (.ok x, m₁))
      (h : FillsIn ps (m₁.setVar p x false) evaluated r) :
      FillsIn ((p, some e) :: ps) m ((e, m) :: evaluated) r
  | fails {p : String} {e : Expr} {ps : List (String × Option Expr)} {m m₁ : Machine} {exit : Exit}
      (hp : ¬m.hasVar p) (he : e.evalIn m = (.error exit, m₁)) :
      FillsIn ((p, some e) :: ps) m [(e, m)] (.error exit, m₁)

/-- No evaluation sets or removes one of the variables. -/
def Undisturbed (names : List String) (evaluated : List (Expr × Machine)) : Prop :=
  ∀ part ∈ evaluated, ∀ n ∈ names, (part.1.evalIn part.2).2.hasVar n = part.2.hasVar n

section

variable {ps : List (String × Option Expr)} {evaluated : List (Expr × Machine)}
  {r : Except Exit Unit × Machine}

theorem defaults_cons (p : String) (e : Expr) (ps : List (String × Option Expr)) :
    Outline.defaults ((p, some e) :: ps) = Outline.step (read (·.hasVar p)) >>= fun bound =>
      if !bound then Outline.eval e >>= fun x =>
        Outline.step (Expr.setVar p x false) >>= fun _ => Outline.defaults ps
      else Outline.defaults ps :=
  rfl

/-- What is left open in the outline of the defaults is what is evaluated. -/
theorem fillsIn_defaults (ps : List (String × Option Expr)) (m : Machine) :
    FillsIn ps m ((Outline.defaults ps).asked m) ((Outline.defaults ps).run Expr.evalIn m) := by
  induction ps generalizing m with
  | nil => exact .none m
  | cons a ps ih =>
    obtain ⟨p, _ | e⟩ := a
    · exact .without (ih m)
    · have hread : (Outline.step (read (·.hasVar p))).run Expr.evalIn m =
          (.ok (m.hasVar p), m) := rfl
      rw [defaults_cons, Outline.run_bind, bind_of_ok hread, Outline.asked_bind_of_ok hread]
      cases hp : m.hasVar p with
      | true => exact .bound hp (ih m)
      | false =>
        rcases he : e.evalIn m with ⟨exit | x, m₁⟩
        · have heval : (Outline.eval e).run Expr.evalIn m = (.error exit, m₁) := he
          simp only [Bool.not_false, if_true]
          rw [Outline.run_bind, bind_of_error heval, Outline.asked_bind_of_error heval]
          exact .fails (by simp [hp]) he
        · have heval : (Outline.eval e).run Expr.evalIn m = (.ok x, m₁) := he
          have hset : (Outline.step (Expr.setVar p x false)).run Expr.evalIn m₁ =
              (.ok (), m₁.setVar p x false) := rfl
          simp only [Bool.not_false, if_true]
          rw [Outline.run_bind, bind_of_ok heval, Outline.asked_bind_of_ok heval, Outline.run_bind,
            bind_of_ok hset, Outline.asked_bind_of_ok hset]
          exact .default (by simp [hp]) he (ih _)

theorem Undisturbed.of_cons {names : List String} (h : Undisturbed (n :: names) evaluated) :
    Undisturbed names evaluated :=
  fun part hpart q hq => h part hpart q (List.mem_cons_of_mem _ hq)

/-- What a parameter gets sets no variable of the other parameters. -/
theorem filter_hasVar_setVar {p : String} (hp : p ∉ ps.map (·.1))
    (hkept : ∀ n ∈ ps.map (·.1), m₁.hasVar n = m.hasVar n) (x : Object) :
    ps.filter (fun q => !(m₁.setVar p x false).hasVar q.1) = ps.filter fun q => !m.hasVar q.1 := by
  refine List.filter_congr fun q hq => ?_
  have hq' : q.1 ∈ ps.map (·.1) := List.mem_map_of_mem hq
  have hne : p ≠ q.1 := fun heq => hp (heq ▸ hq')
  rw [Machine.hasVar_setVar_of_ne hne, hkept q.1 hq']

/-- If no default sets or removes the variable of a parameter, the parameters that get one are those
without a variable at the start. -/
theorem FillsIn.evaluated_eq (h : FillsIn ps m evaluated r) (hnodup : (ps.map (·.1)).Nodup)
    (hundisturbed : Undisturbed (ps.map (·.1)) evaluated) :
    evaluated.map (·.1) <+: (ps.filter fun p => !m.hasVar p.1).filterMap (·.2) ∧
      (r.1 = .ok () →
        evaluated.map (·.1) = (ps.filter fun p => !m.hasVar p.1).filterMap (·.2)) := by
  induction h with
  | none m => exact ⟨ List.nil_prefix, fun _ => rfl⟩
  | bound hp _ ih =>
    rw [List.filter_cons_of_neg (by simpa using hp)]
    exact ih hnodup.of_cons hundisturbed.of_cons
  | @without p ps m evaluated r _ ih =>
    have hskip : (((p, Option.none) :: ps).filter fun p => !m.hasVar p.1).filterMap (·.2) =
        (ps.filter fun p => !m.hasVar p.1).filterMap (·.2) := by
      rw [List.filter_cons]
      split <;> rfl
    rw [hskip]
    exact ih hnodup.of_cons hundisturbed.of_cons
  | @default p e ps m m₁ x evaluated r hp he _ ih =>
    obtain ⟨hhead, htail⟩ := List.nodup_cons.mp hnodup
    -- Neither the evaluation nor what the parameter gets touches the parameters that follow.
    obtain ⟨hpart, hothers⟩ := List.forall_mem_cons.mp hundisturbed.of_cons
    rw [he] at hpart
    obtain ⟨hstart, hall⟩ := ih htail hothers
    rw [filter_hasVar_setVar hhead hpart] at hstart hall
    rw [List.filter_cons_of_pos (by simpa using hp)]
    exact ⟨(List.prefix_cons_inj e).mpr hstart, fun hr => congrArg (e :: ·) (hall hr)⟩
  | fails hp he =>
    rw [List.filter_cons_of_pos (by simpa using hp)]
    exact ⟨(List.prefix_cons_inj _).mpr List.nil_prefix, fun hr => nomatch hr⟩

end

/-! ### Calls -/

/-- The body in its frame, if it gets as far. -/
def bodyAsked (c : Call) : Except Exit Unit × Machine → List (Expr × Machine)
  | (.ok (), m) => [(c.body, m)]
  | (.error _, _) => []

/-- What a call yields, and the state it leaves, when its parameters are filled in. -/
def finish (c : Call) : Except Exit Unit × Machine → Except Exit Object × Machine
  | (.ok (), m) => (yielded (c.body.evalIn m).1, (c.body.evalIn m).2.pop)
  | (.error exit, m) => (yielded (.error exit), m.pop)

/-- The call gets as far as its frame, in which something is evaluated then. -/
def Reaches (c : Call) (m : Machine) : Prop := (Outline.call c).asked m ≠ []

theorem run_call (c : Call) (m : Machine) :
    (Outline.call c).run Expr.evalIn m = perform m.room c m :=
  (Outline.describes_call (fun _ _ _ => trivial) c :
    Outline.Describes (fun _ _ => True) m.room _ _).run_eq rfl

/-- A call whose arguments are refused ends there, with nothing evaluated. -/
theorem perform_of_unbound {fault : Fault}
    (h : bindArgs (c.params.map (·.1)) c.args = .error fault) :
    (Outline.call c).asked m = [] ∧
      perform m.room c m = (.error (.error ⟨fault, m.function?⟩), m) := by
  have hbind : (Outline.ofExcept (bindArgs (c.params.map (·.1)) c.args)).run Expr.evalIn m =
      (.error (.error ⟨fault, m.function?⟩), m) := by
    rw [h]
    rfl
  rw [← run_call, Outline.call]
  exact ⟨Outline.asked_bind_of_error hbind, bind_of_error hbind⟩

/-- A call whose arguments are taken fills in the parameters in a new frame and goes on from there.
-/
theorem perform_of_bound (hroom : m.room ≠ 0)
    (h : bindArgs (c.params.map (·.1)) c.args = .ok vars) :
    ∃ evaluated r, FillsIn c.params (m.push ⟨c.name, vars⟩) evaluated r ∧
      (Outline.call c).asked m = evaluated ++ c.bodyAsked r ∧ perform m.room c m = c.finish r := by
  have hbind : (Outline.ofExcept (bindArgs (c.params.map (·.1)) c.args)).run Expr.evalIn m =
      (.ok vars, m) := by
    rw [h]
    rfl
  refine ⟨_, _, fillsIn_defaults c.params (m.push ⟨c.name, vars⟩), ?_⟩
  rw [← run_call, Outline.call, Outline.run_bind, bind_of_ok hbind, Outline.asked_bind_of_ok hbind,
    Outline.run_enter hroom, Outline.asked_enter hroom, inFrame_apply]
  rcases hr : (Outline.defaults c.params).run Expr.evalIn (m.push ⟨c.name, vars⟩) with
    ⟨exit | _, m₁⟩
  · rw [Outline.run_bind, bind_of_error hr, Outline.asked_bind_of_error hr]
    exact ⟨(List.append_nil _).symm, rfl⟩
  · rw [Outline.run_bind, bind_of_ok hr, Outline.asked_bind_of_ok hr]
    exact ⟨rfl, rfl⟩

theorem FillsIn.asks {ps : List (String × Option Expr)} {evaluated : List (Expr × Machine)}
    {r : Except Exit Unit × Machine} (h : FillsIn ps m evaluated r) (c : Call) :
    evaluated ++ c.bodyAsked r ≠ [] := by
  induction h with
  | none => exact List.cons_ne_nil _ _
  | bound _ _ ih => exact ih
  | without _ ih => exact ih
  | default => exact List.cons_ne_nil _ _
  | fails => exact List.cons_ne_nil _ _

/-- What a call does with its arguments. It gets as far as its frame if there is a parameter for
each of them, and otherwise fails with nothing done. The frame starts with the arguments; each
parameter without a variable gets the value of its default in turn, which are the defaults of the
parameters that no argument is for, unless one of them sets or removes the variable of a parameter;
then the body is evaluated. The order in which the arguments stand matters to those without a name
only. -/
theorem matches_arguments (c : Call) (m : Machine) (hparams : (c.params.map (·.1)).Nodup)
    (hargs : c.args.names.Nodup) (hroom : m.frames.length < Machine.maxFrames) :
    (c.Reaches m ↔ c.Fits) ∧
    (¬c.Fits → ∃ fault, c.Unused fault ∧
      perform m.room c m = (.error (.error ⟨fault, m.function?⟩), m)) ∧
    (c.Fits → ∃ vars evaluated r, c.Matched vars ∧
      FillsIn c.params (m.push ⟨c.name, vars⟩) evaluated r ∧
      (Outline.call c).asked m = evaluated ++ c.bodyAsked r ∧
      perform m.room c m = c.finish r ∧
      (Undisturbed (c.params.map (·.1)) evaluated →
        evaluated.map (·.1) <+: c.rest.filterMap (·.2) ∧
        (r.1 = .ok () → evaluated.map (·.1) = c.rest.filterMap (·.2)))) ∧
    (c.Fits → ∀ args' : Args, args'.Perm c.args → args'.unnamed = c.args.unnamed →
      perform m.room { c with args := args' } m = perform m.room c m) := by
  have hroom' : m.room ≠ 0 := mt Machine.room_eq_zero.mp (Nat.not_le_of_lt hroom)
  refine ⟨⟨fun hreaches => ?reached, fun hfits => ?reaches⟩, fun hfits => ?refused,
    fun hfits => ?taken, fun hfits args' hperm hunnamed => ?reordered⟩
  case reached =>
    by_contra hfits
    obtain ⟨fault, -, hbind⟩ := bindArgs_of_not_fits hparams hargs hfits
    exact hreaches (perform_of_unbound hbind).1
  case reaches =>
    obtain ⟨vars, hbind, -⟩ := bindArgs_of_fits hparams hargs hfits
    obtain ⟨evaluated, r, hfills, hasked, -⟩ := perform_of_bound hroom' hbind
    rw [Reaches, hasked]
    exact hfills.asks c
  case refused =>
    obtain ⟨fault, hunused, hbind⟩ := bindArgs_of_not_fits hparams hargs hfits
    exact ⟨fault, hunused, (perform_of_unbound hbind).2⟩
  case taken =>
    obtain ⟨vars, hbind, hmatched⟩ := bindArgs_of_fits hparams hargs hfits
    obtain ⟨evaluated, r, hfills, hasked, hperform⟩ := perform_of_bound hroom' hbind
    refine ⟨vars, evaluated, r, hmatched, hfills, hasked, hperform, fun hundisturbed => ?_⟩
    rw [← hmatched.filter_params hparams]
    exact hfills.evaluated_eq hparams hundisturbed
  case reordered =>
    rw [← run_call, ← run_call, Outline.call, Outline.call,
      bindArgs_congr hargs hfits.named hperm hunnamed]

/-- A call `f(1, z = 3)` of `function(x, y = 2, z) y`. -/
def mixed : Call where
  name := "f"
  params := [("x", .none), ("y", some (.const (.ofFloat 2))), ("z", .none)]
  body := .name "y"
  args := [(.none, .data (.ofFloat 1)), (some "z", .data (.ofFloat 3))]

/-- In `f(z = 3, 1)` the arguments go to the same parameters. -/
theorem matches_arguments_mixed :
    let m := Machine.create {} []
    let swapped : Call := { mixed with args := mixed.args.reverse }
    mixed.Fits ∧ mixed.Reaches m ∧ mixed.rest.filterMap (·.2) = [.const (.ofFloat 2)] ∧
      perform m.room swapped m = perform m.room mixed m :=
  have hfits : mixed.Fits := ⟨by decide, by decide⟩
  have h := matches_arguments mixed (Machine.create {} []) (by decide) (by decide) (by decide)
  ⟨hfits, h.1.mpr hfits, rfl, h.2.2.2 hfits mixed.args.reverse (List.reverse_perm _) rfl⟩

/-- A call `f()` of `function(a = (b = 3L), b = 4L) b`. -/
def assignsNext : Call where
  name := "f"
  params := [("a", some (.assign (.name "b") (.const (.ofInt32 3)) false)),
    ("b", some (.const (.ofInt32 4)))]
  body := .name "b"
  args := []

/-- A default that sets the variable of a later parameter: there is no argument for that parameter,
but its default is passed over. -/
theorem default_passed_over :
    let m := Machine.create {} []
    assignsNext.Fits ∧ assignsNext.rest = assignsNext.params ∧
      ((Outline.call assignsNext).asked m).map (·.1) =
        [.assign (.name "b") (.const (.ofInt32 3)) false, .name "b"] ∧
      perform m.room assignsNext m = (.ok (.data (.ofInt32 3)), m) :=
  ⟨⟨by decide, by decide⟩, rfl, rfl, rfl⟩

end Call

end ScriptBridge
