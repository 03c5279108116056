import Mathlib.Data.List.Induction
import ScriptBridge.Machine.Eval
import ScriptBridge.Proofs.Machine.Exec
import ScriptBridge.Proofs.RValue.Paths

/-!
# Replacement along a path

An expression goes on along a path by a step for each key (`Expr.path`). It reads what the path
leads to from the value of the expression and changes nothing (`Expr.evalWith_path`), and an
assignment to a path from a variable sets the variable to its value with another one at the end of
the path (`Expr.exists_of_assignWith_path`). So assignment and reading are a lens
(`Expr.assign_path_lens`): the laws of `RValue.follow` and `RValue.replace` hold of programs.
-/

namespace ScriptBridge

open RValue (Diverges Key NamesFit follow replace)

variable {call : Caller} {m m₁ m₂ : Machine} {n other : String} {x v : RValue} {f : Object}
  {global : Bool} {e : Expr} {exit : Exit} {k : Key} {keys : List Key}

/-! ### Variables -/

namespace Machine

def local? (m : Machine) (name : String) : Option Object :=
  m.frames.head?.bind fun f => f.vars.get? name

theorem lookup?_setVar_self (m : Machine) (n : String) (f : Object) :
    (m.setVar n f false).lookup? n = some f := by
  cases hframes : m.frames with
  | nil => simp [setVar, lookup?, hframes]
  | cons frame rest => simp [setVar, lookup?, hframes]

theorem local?_setVar_of_ne (h : other ≠ n) (m : Machine) (f : Object) (global : Bool) :
    (m.setVar n f global).local? other = m.local? other := by
  cases hframes : m.frames with
  | nil => simp [setVar, local?, hframes]
  | cons frame rest =>
    cases global with
    | false => simp [setVar, local?, hframes, Dict.get?_insert_ne (Ne.symm h)]
    | true => simp [setVar, local?, hframes]

theorem globals_setVar_of_ne (h : other ≠ n) (m : Machine) (f : Object) (global : Bool) :
    (m.setVar n f global).globals.get? other = m.globals.get? other := by
  unfold setVar
  split
  · rfl
  · exact Dict.get?_insert_ne (Ne.symm h) f m.globals

theorem globals_setVar_false (h : m.frames ≠ []) (n : String) (f : Object) :
    (m.setVar n f false).globals = m.globals := by
  cases hframes : m.frames with
  | nil => exact absurd hframes h
  | cons frame rest => simp [setVar, hframes]

theorem function?_setVar (m : Machine) (n : String) (f : Object) (global : Bool) :
    (m.setVar n f global).function? = m.function? := by
  unfold setVar
  split
  · next hframes => simp [function?, hframes]
  · rfl

end Machine

namespace Expr

/-! ### Paths as expressions -/

/-- A part of what an expression yields, as an expression. -/
def part (e : Expr) : Key → Expr
  | .dollar n => e.dollar n
  | .element n => e.element (.const (.string n))

/-- What a path leads to from what an expression yields, as an expression. -/
def path (e : Expr) (keys : List Key) : Expr := keys.foldl part e

theorem path_concat (e : Expr) (keys : List Key) (k : Key) :
    e.path (keys ++ [k]) = (e.path keys).part k := by
  rw [path, List.foldl_append]
  rfl

/-! ### Reading -/

theorem evalWith_part (e : Expr) (k : Key) : (e.part k).evalWith call =
    dataOf (e.evalWith call) >>= fun x => Builtin.yields (Exec.ofExcept (k.read x)) := by
  cases k with
  | dollar n => rw [part, evalWith]; rfl
  | element n => rw [part, evalWith]; rfl

theorem evalWith_path_of_error (h : e.evalWith call m = (.error exit, m₁)) (keys : List Key) :
    (e.path keys).evalWith call m = (.error exit, m₁) := by
  induction keys generalizing e with
  | nil => exact h
  | cons k keys ih =>
    refine ih ?_
    rw [evalWith_part]
    exact Exec.bind_of_error (Exec.bind_of_error h)

theorem evalWith_path (h : e.evalWith call m = (.ok (.data x), m₁)) (keys : List Key) :
    (e.path keys).evalWith call m = Builtin.yields (Exec.ofExcept (follow keys x)) m₁ := by
  induction keys generalizing e x with
  | nil => exact h
  | cons k keys ih =>
    have hpart : (e.part k).evalWith call m = Builtin.yields (Exec.ofExcept (k.read x)) m₁ := by
      rw [evalWith_part]
      exact Exec.bind_of_ok (Exec.bind_of_ok h)
    change ((e.part k).path keys).evalWith call m = _
    rw [follow]
    rcases hread : k.read x with fault | y
    · rw [hread] at hpart
      exact evalWith_path_of_error hpart keys
    · rw [hread] at hpart
      exact ih hpart

theorem evalWith_name_of_some (call : Caller) (h : m.lookup? n = some f) :
    (name n).evalWith call m = (.ok f, m) := by
  rw [evalWith, lookup, Exec.bind_of_ok Exec.get_apply, h]
  rfl

theorem evalWith_name_of_none (call : Caller) (h : m.lookup? n = none) :
    ∃ exit, (name n).evalWith call m = (.error exit, m) := by
  rw [evalWith, lookup, Exec.bind_of_ok Exec.get_apply, h]
  exact ⟨_, rfl⟩

/-- What a path from a variable leads to is data only if the variable is. -/
theorem exists_of_dataOf_path (h : dataOf (((name n).path keys).evalWith call) m = (.ok v, m₁)) :
    ∃ x, m.lookup? n = some (.data x) ∧ follow keys x = .ok v ∧ m₁ = m := by
  obtain ⟨f, m', hpath, hdata⟩ := Exec.exists_of_bind_ok h
  obtain rfl : f = .data v := by
    cases f <;> cases hdata
    rfl
  cases hdata
  rcases hlookup : m.lookup? n with _ | x | ⟨params, body⟩
  · obtain ⟨exit, hname⟩ := evalWith_name_of_none call hlookup
    rw [evalWith_path_of_error hname] at hpath
    cases hpath
  · rw [evalWith_path (evalWith_name_of_some call hlookup)] at hpath
    rcases hfollow : follow keys x with fault | w
    · rw [hfollow] at hpath
      cases hpath
    · rw [hfollow] at hpath
      cases hpath
      exact ⟨x, rfl, hfollow, rfl⟩
  · have hname := evalWith_name_of_some call hlookup
    cases keys with
    | nil =>
      rw [path, List.foldl_nil, hname] at hpath
      cases hpath
    | cons k keys =>
      have hpart : ∃ exit, ((name n).part k).evalWith call m = (.error exit, m) := by
        rw [evalWith_part]
        exact ⟨_, Exec.bind_of_error (Exec.bind_of_ok hname)⟩
      obtain ⟨exit, hpart⟩ := hpart
      rw [path, List.foldl_cons, ← path, evalWith_path_of_error hpart] at hpath
      cases hpath

/-! ### Writing -/

theorem assignWith_part (e : Expr) (k : Key) (v : RValue) (global : Bool) :
    assignWith call (e.part k) (.data v) global =
      dataOf (e.evalWith call) >>= fun current => Exec.ofExcept (k.write current v) >>= fun w =>
        assignWith call e (.data w) global := by
  cases k with
  | dollar n => rw [part, assignWith]; rfl
  | element n => rw [part, assignWith]; rfl

theorem exists_of_assignWith_part
    (h : assignWith call (((name n).path keys).part k) (.data v) global m = (.ok (), m₁)) :
    ∃ x p w, m.lookup? n = some (.data x) ∧ follow keys x = .ok p ∧ k.write p v = .ok w ∧
      assignWith call ((name n).path keys) (.data w) global m = (.ok (), m₁) := by
  rw [assignWith_part] at h
  obtain ⟨p, m', hread, hrest⟩ := Exec.exists_of_bind_ok h
  obtain ⟨w, m'', hwrite, hassign⟩ := Exec.exists_of_bind_ok hrest
  obtain ⟨x, hx, hfollow, rfl⟩ := exists_of_dataOf_path hread
  obtain ⟨hw, rfl⟩ := Exec.of_ofExcept_ok hwrite
  exact ⟨x, p, w, hx, hfollow, hw, hassign⟩

/-- An assignment to a path from a variable sets the variable to its value with what the path leads
to replaced. -/
theorem exists_of_assignWith_path (hx : m.lookup? n = some (.data x)) (hfit : NamesFit x)
    (hnames : ∀ k ∈ keys, k.name ≠ "")
    (h : assignWith call ((name n).path keys) (.data v) global m = (.ok (), m₁)) :
    ∃ y, replace v keys x = .ok y ∧ m₁ = m.setVar n (.data y) global := by
  induction keys using List.reverseRecOn generalizing v with
  | nil =>
    cases h
    exact ⟨v, rfl, rfl⟩
  | append_singleton keys k ih =>
    have hinit : ∀ k ∈ keys, k.name ≠ "" := fun k' hk' => hnames k' (List.mem_append_left _ hk')
    rw [path_concat] at h
    obtain ⟨x', p, w, hx', hfollow, hwrite, hassign⟩ := exists_of_assignWith_part h
    obtain rfl : x' = x := by
      rw [hx] at hx'
      cases hx'
      rfl
    rw [RValue.replace_concat hfit hinit (hnames k List.mem_concat_self) hfollow hwrite]
    exact ih hinit hassign

/-! ### The lens -/

/-- What a value leads to does not depend on the state, but for the function named by an error. -/
theorem exists_yields_ofExcept (r : Except Fault RValue) (h : m₂.function? = m₁.function?) :
    ∃ result, Builtin.yields (Exec.ofExcept r) m₁ = (result, m₁) ∧
      Builtin.yields (Exec.ofExcept r) m₂ = (result, m₂) := by
  cases r with
  | ok y => exact ⟨.ok (.data y), rfl, rfl⟩
  | error fault =>
    refine ⟨.error (.error ⟨fault, m₁.function?⟩), rfl, ?_⟩
    rw [← h]
    rfl

/-- After a value other than null was assigned to a path from a variable, the path leads to it.
Every path from the variable that goes another way at some step leads to what it led to before, or
fails as it failed before. Nothing but the variable has changed, which in a function is that of the
function, whatever there is among the globals. The names of the steps may not be empty, and lists
with names have one for each element. -/
theorem assign_path_lens {r : Object} (hkeys : keys ≠ []) (hnames : ∀ k ∈ keys, k.name ≠ "")
    (hv : v ≠ .null) (hvalue : e.evalWith call m = (.ok (.data v), m₁))
    (hfit : ∀ x, m₁.lookup? n = some (.data x) → NamesFit x)
    (h : (assign ((name n).path keys) e false).evalWith call m = (.ok r, m₂)) :
    ((name n).path keys).evalWith call m₂ = (.ok (.data v), m₂) ∧
    (∀ others, Diverges keys others → (∀ k ∈ others, k.name ≠ "") →
      ∃ result, ((name n).path others).evalWith call m₁ = (result, m₁) ∧
        ((name n).path others).evalWith call m₂ = (result, m₂)) ∧
    (∃ y, m₂ = m₁.setVar n (.data y) false) ∧
    (∀ other, other ≠ n → m₂.local? other = m₁.local? other ∧
      m₂.globals.get? other = m₁.globals.get? other) ∧
    (m₁.frames ≠ [] → m₂.globals = m₁.globals) := by
  have hassign : assignWith call ((name n).path keys) (.data v) false m₁ = (.ok (), m₂) := by
    rw [evalWith, Exec.bind_of_ok hvalue] at h
    obtain ⟨u, m', hassign, hreturn⟩ := Exec.exists_of_bind_ok h
    cases hreturn
    exact hassign
  obtain ⟨x, hx⟩ : ∃ x, m₁.lookup? n = some (.data x) := by
    obtain ⟨init, k, rfl⟩ := (List.eq_nil_or_concat keys).resolve_left hkeys
    rw [List.concat_eq_append, path_concat] at hassign
    obtain ⟨x, -, -, hx, -⟩ := exists_of_assignWith_part hassign
    exact ⟨x, hx⟩
  obtain ⟨y, hy, rfl⟩ := exists_of_assignWith_path hx (hfit x hx) hnames hassign
  have hbefore := evalWith_name_of_some call hx
  have hafter := evalWith_name_of_some call (Machine.lookup?_setVar_self m₁ n (.data y))
  refine ⟨?_, fun others hd hothers => ?_, ⟨y, rfl⟩, fun other hother => ?_, fun hframes => ?_⟩
  · rw [evalWith_path hafter, RValue.follow_replace (hfit x hx) hv hnames hy]
    rfl
  · rw [evalWith_path hafter, evalWith_path hbefore,
      RValue.follow_replace_of_diverges (hfit x hx) hv hnames hothers hd hy]
    exact exists_yields_ofExcept _ (Machine.function?_setVar m₁ n (.data y) false)
  · exact ⟨Machine.local?_setVar_of_ne hother m₁ _ false,
      Machine.globals_setVar_of_ne hother m₁ _ false⟩
  · exact Machine.globals_setVar_false hframes n (.data y)

/-- In a function, in a global list without names. -/
theorem assign_path_lens_missing :
    let keys := [.dollar "a", .element "c"]
    let m : Machine := { Machine.create {} [] with
      globals := [("x", .data (.list [.ofInt32 1] none))], frames := [⟨"f", []⟩] }
    let y := .list [.ofInt32 1, .namedList [("c", .string "v")]] (some ["", "a"])
    let m₂ := { m with frames := [⟨"f", [("x", .data y)]⟩] }
    ((name "x").path keys).eval m₂ = (.ok (.data (.string "v")), m₂) ∧
      (∃ result, ((name "x").path [.dollar "a", .dollar "d"]).eval m = (result, m) ∧
        ((name "x").path [.dollar "a", .dollar "d"]).eval m₂ = (result, m₂)) ∧
      m₂.globals = m.globals := by
  intro keys m y m₂
  have hfit : ∀ x, m.lookup? "x" = some (.data x) → NamesFit x := by
    intro x hx values names hpart
    cases hx
    cases hpart with
    | element hmem hpart =>
      cases List.mem_singleton.mp hmem
      cases hpart
  have hassign : (assign ((name "x").path keys) (.const (.string "v")) false).eval m =
      (.ok (.data (.string "v")), m₂) := rfl
  have hkeys : keys ≠ [] := List.cons_ne_nil _ _
  have hnames : ∀ k ∈ keys, k.name ≠ "" := by decide
  obtain ⟨hself, hothers, -, -, hglobals⟩ :=
    assign_path_lens hkeys hnames RValue.noConfusion rfl hfit hassign
  exact ⟨hself, hothers _ (.later rfl (.here (by decide) [] [])) (by decide),
    hglobals (List.cons_ne_nil _ _)⟩

end Expr

end ScriptBridge
