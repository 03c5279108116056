import ScriptBridge.Proofs.Engine.StopHandler
import ScriptBridge.Proofs.Machine.Replacement
import ScriptBridge.Proofs.RValue.NamedList

/-!
# Options saved and set back

A script sets an option with `old = options(k = v)` and sets it back with `options(k = old$k)`
(`Expr.saveOption`, `Expr.restoreOption`). What the option was is an element of the list `old` in
between. Data stands there as it is, so an option that held data is as it was before
(`Expr.options_restored`). A list can hold no closure, only what stands for one; so an error handler
is gone afterwards (`Expr.handler_not_restored`).
-/

namespace ScriptBridge

open Exec (bind_of_ok)

namespace Machine

/-- The closure that handles errors is the same, or there is none, in both states. -/
def SameHandler (m m' : Machine) : Prop :=
  ∀ params body, m'.options.get? "error" = some (.closure params body) ↔
    m.options.get? "error" = some (.closure params body)

variable {m m' : Machine} {n k : String} {x : Object}

theorem lookup?_setVar_of_ne {other : String} (h : other ≠ n) (m : Machine) (x : Object)
    (global : Bool) : (m.setVar n x global).lookup? other = m.lookup? other := by
  have hlocal := local?_setVar_of_ne h m x global
  have hglobal := globals_setVar_of_ne h m x global
  simp only [local?] at hlocal
  rw [lookup?, lookup?, hlocal, hglobal]

theorem options_setVar (m : Machine) (n : String) (x : Object) (global : Bool) :
    (m.setVar n x global).options = m.options := by
  unfold setVar
  split <;> rfl

end Machine

namespace Builtin

/-- What an option is to a script, null if it is not set. -/
def currentOption (m : Machine) (k : String) : RValue :=
  ((m.options.get? k).map Object.readBack).getD .null

theorem call_options (k : String) (x : Object) (m : Machine) :
    call "options" [(some k, x)] m =
      (.ok (.data (.namedList [(k, currentOption m k)])),
        { m with options := m.options.insert k x }) := rfl

theorem call_getOption (k : String) (default : Object) (m : Machine) :
    call "getOption" [(none, .data (.string k)), (none, default)] m =
      (.ok ((m.options.get? k).getD default), m) := rfl

end Builtin

namespace Expr

open Builtin (currentOption)

variable {call : Caller} {m m₁ : Machine} {e : Expr} {x : Object} {k : String}

/-- The expression `old = options(k = e)`. -/
def saveOption (k : String) (e : Expr) : Expr :=
  assign (name "old") (.call (name "options") [(some k, e)]) false

/-- The expression `options(k = old$k)`. -/
def restoreOption (k : String) : Expr :=
  .call (name "options") [(some k, dollar (name "old") k)]

/-! ### The two statements -/

/-- The call of `options` with a named argument, which no closure takes the place of. -/
theorem evalWith_setOption
    (hname : ∀ params body, m.lookup? "options" ≠ some (.closure params body))
    (he : e.evalWith call m = (.ok x, m₁)) :
    (Expr.call (name "options") [(some k, e)]).evalWith call m =
      (.ok (.data (.namedList [(k, currentOption m₁ k)])),
        { m₁ with options := m₁.options.insert k x }) := by
  rw [evalWith_builtin hname (by decide), bind_of_ok (evalArgs_cons_of_ok he evalArgs_nil)]
  exact Builtin.call_options k x m₁

def saved (m : Machine) (k : String) (x : Object) : Machine :=
  { m with options := m.options.insert k x }.setVar "old"
    (.data (.namedList [(k, currentOption m k)])) false

theorem evalWith_saveOption
    (hname : ∀ params body, m.lookup? "options" ≠ some (.closure params body))
    (he : e.evalWith call m = (.ok x, m₁)) :
    (saveOption k e).evalWith call m =
      (.ok (.data (.namedList [(k, currentOption m₁ k)])), saved m₁ k x) := by
  rw [saveOption, evalWith, bind_of_ok (evalWith_setOption hname he)]
  rfl

theorem evalWith_old (call : Caller) (m : Machine) (k : String) (x : Object) :
    (dollar (name "old") k).evalWith call (saved m k x) =
      (.ok (.data (currentOption m k)), saved m k x) := by
  have hold : (name "old").evalWith call (saved m k x) =
      (.ok (.data (.namedList [(k, currentOption m k)])), saved m k x) :=
    evalWith_name_of_some call (Machine.lookup?_setVar_self _ _ _)
  have hread : (RValue.namedList [(k, currentOption m k)]).dollar k = .ok (currentOption m k) := by
    rw [RValue.dollar_namedList, Dict.get?_cons, if_pos rfl, Option.getD_some]
  have hdata : dataOf ((name "old").evalWith call) (saved m k x) =
      (.ok (.namedList [(k, currentOption m k)]), saved m k x) := by
    rw [dataOf, bind_of_ok hold]
    rfl
  rw [evalWith, bind_of_ok hdata, hread]
  rfl

def restored (m : Machine) (k : String) (x : Object) : Machine :=
  { saved m k x with
    options := (saved m k x).options.insert k (.data (currentOption m k)) }

theorem evalWith_restoreOption
    (hname : ∀ params body, m.lookup? "options" ≠ some (.closure params body)) :
    ∃ y, (restoreOption k).evalWith call (saved m k x) = (.ok y, restored m k x) := by
  have hsaved : ∀ params body, (saved m k x).lookup? "options" ≠ some (.closure params body) := by
    intro params body
    rw [saved, Machine.lookup?_setVar_of_ne (by decide)]
    exact hname params body
  exact ⟨_, evalWith_setOption hsaved (evalWith_old call m k x)⟩

/-! ### What becomes of the options -/

/-- The option holds what stands for its old value, and no other option has changed. -/
theorem get?_restored (m : Machine) (k : String) (x : Object) (key : String) :
    (restored m k x).options.get? key =
      if k = key then some (.data (currentOption m k)) else m.options.get? key := by
  rw [restored, Dict.get?_insert, saved, Machine.options_setVar, Dict.get?_insert]
  split <;> rfl

theorem get?_restored_of_data {y : RValue} (h : m.options.get? k = some (.data y)) (key : String) :
    (restored m k x).options.get? key = m.options.get? key := by
  rw [get?_restored]
  split
  · next hkey =>
    subst hkey
    rw [currentOption, h]
    rfl
  · rfl

theorem warnLevel_restored (m : Machine) (k : String) (x : Object) :
    (restored m k x).warnLevel = m.warnLevel := by
  unfold Machine.warnLevel
  rw [get?_restored]
  by_cases hkey : k = "warn"
  · rw [if_pos hkey, hkey, currentOption]
    rcases m.options.get? "warn" with _ | y | ⟨params, body⟩
    · rfl
    · rfl
    · rfl
  · rw [if_neg hkey]

theorem sameHandler_restored (h : k = "error" → ∀ params body, m.options.get? k ≠
    some (.closure params body)) : Machine.SameHandler m (restored m k x) := by
  intro params body
  rw [get?_restored]
  split
  · next hkey =>
    refine ⟨fun heq => ?_, fun heq => ?_⟩
    · cases heq
    · rw [← hkey] at heq
      exact absurd heq (h hkey params body)
  · exact Iff.rfl

/-- While no closure takes the place of `options`, an option can be saved, set to any value and set
back. No other option has changed then, and neither has the level of warnings. An option that held
data is as it was, and so is what `getOption` yields. One that was not set is null, which it was to
a script that gives no other default. In both cases errors are handled as before. Of one that held a
closure only what stands for a closure in a list is left. -/
theorem options_restored
    (he : e.evalWith call m = (.ok x, m₁))
    (hname : ∀ params body, m.lookup? "options" ≠ some (.closure params body))
    (hname₁ : ∀ params body, m₁.lookup? "options" ≠ some (.closure params body)) :
    ∃ r m₂ r' m₃, (saveOption k e).evalWith call m = (.ok r, m₂) ∧
      (restoreOption k).evalWith call m₂ = (.ok r', m₃) ∧
      m₂.options.get? k = some x ∧
      (∀ key, key ≠ k → m₃.options.get? key = m₁.options.get? key) ∧
      m₃.warnLevel = m₁.warnLevel ∧
      (∀ y, m₁.options.get? k = some (.data y) →
        m₃.options.get? k = some (.data y) ∧ Machine.SameHandler m₁ m₃ ∧
        ∀ default, (Builtin.call "getOption" [(none, .data (.string k)), (none, default)] m₃).1 =
          (Builtin.call "getOption" [(none, .data (.string k)), (none, default)] m₁).1) ∧
      (m₁.options.get? k = none → Machine.SameHandler m₁ m₃ ∧
        (Builtin.call "getOption" [(none, .data (.string k)), (none, Object.null)] m₃).1 =
          (Builtin.call "getOption" [(none, .data (.string k)), (none, Object.null)] m₁).1) ∧
      (∀ params body, m₁.options.get? k = some (.closure params body) →
        m₃.options.get? k = some (.data (.unsupported "closure"))) := by
  obtain ⟨r', hrestore⟩ :
      ∃ y, (restoreOption k).evalWith call (saved m₁ k x) = (.ok y, restored m₁ k x) :=
    evalWith_restoreOption hname₁
  refine ⟨_, saved m₁ k x, r', restored m₁ k x, evalWith_saveOption hname he, hrestore, ?_, ?_,
    warnLevel_restored m₁ k x, ?_, ?_, ?_⟩
  · rw [saved, Machine.options_setVar, Dict.get?_insert_self]
  · intro key hkey
    rw [get?_restored, if_neg (Ne.symm hkey)]
  · intro y hy
    have hsame := get?_restored_of_data (x := x) hy
    refine ⟨(hsame k).trans hy, fun params body => by rw [hsame "error"], fun default => ?_⟩
    rw [Builtin.call_getOption, Builtin.call_getOption, hsame k]
  · intro hunset
    have hnull : currentOption m₁ k = .null := by rw [currentOption, hunset]; rfl
    refine ⟨sameHandler_restored fun _ params body => ?_, ?_⟩
    · rw [hunset]
      nofun
    · rw [Builtin.call_getOption, Builtin.call_getOption, get?_restored, if_pos rfl, hnull, hunset]
      rfl
  · intro params body hclosure
    rw [get?_restored, if_pos rfl, currentOption, hclosure]
    rfl

/-- The level of warnings, from zero to two and back. -/
theorem options_restored_warn :
    let m := Machine.create {} []
    let two := RValue.ofFloat 2
    (Expr.const two).eval m = (.ok (.data two), m) ∧
    (∀ params body, m.lookup? "options" ≠ some (.closure params body)) ∧
    ∃ r m₂ r' m₃, (saveOption "warn" (.const two)).eval m = (.ok r, m₂) ∧
      (restoreOption "warn").eval m₂ = (.ok r', m₃) ∧
      m₂.options.get? "warn" = some (.data two) ∧
      m₃.options.get? "warn" = some (.data (.ofFloat 0)) ∧ m₃.warnLevel = m.warnLevel := by
  intro m two
  have he : (Expr.const two).eval m = (.ok (.data two), m) := rfl
  have hname : ∀ params body, m.lookup? "options" ≠ some (.closure params body) := fun _ _ => nofun
  obtain ⟨r, m₂, r', m₃, hsave, hrestore, htwo, -, hlevel, hdata, -⟩ :=
    options_restored (k := "warn") he hname hname
  exact ⟨he, hname, r, m₂, r', m₃, hsave, hrestore, htwo, (hdata _ rfl).1, hlevel⟩

/-- An error handler is gone after it was saved and set back. -/
theorem handler_not_restored :
    let handler := Object.closure [] (.const .null)
    let started := Machine.create {} []
    let m : Machine := { started with options := started.options.insert "error" handler }
    ∃ r m₂ r' m₃, (saveOption "error" (.const (.string "v"))).eval m = (.ok r, m₂) ∧
      (restoreOption "error").eval m₂ = (.ok r', m₃) ∧
      m₃.options.get? "error" = some (.data (.unsupported "closure")) ∧
      m₃.options.get? "error" ≠ m.options.get? "error" ∧ ¬Machine.SameHandler m m₃ := by
  intro handler started m
  refine ⟨_, _, _, _, rfl, rfl, rfl, fun heq => ?_, fun hsame => ?_⟩
  · have hobject : some (Object.data (.unsupported "closure")) =
        some (Object.closure [] (.const .null)) := heq
    cases hobject
  · have hclosure := (hsame [] (.const .null)).mpr rfl
    cases hclosure

end Expr

end ScriptBridge
