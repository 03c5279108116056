import ScriptBridge.Proofs.Machine.Replacement

/-!
# Replacement in a global variable

The assignment `x$k <<- v` reads what the name stands for where it is evaluated, and writes among
the globals. In a function without a variable of the name both are the global one; a variable of
the function hides the global one from the reading half, and its list with the element replaced
takes the place of the global list (`Expr.assign_global_dollar`).
-/

namespace ScriptBridge

namespace Machine

variable {m : Machine} {n : String}

/-- What a name stands for is what it is in the innermost frame, or else among the globals. -/
theorem lookup?_eq_some {f : Object} : m.lookup? n = some f ↔
    m.local? n = some f ∨ m.local? n = none ∧ m.globals.get? n = some f := by
  rw [lookup?, ← local?]
  cases m.local? n with
  | none => simp
  | some g => simp

theorem globals_setVar_true (m : Machine) (n : String) (f : Object) :
    (m.setVar n f true).globals = m.globals.insert n f := by
  cases hframes : m.frames <;> simp [setVar, hframes]

theorem frames_setVar_true (m : Machine) (n : String) (f : Object) :
    (m.setVar n f true).frames = m.frames := by
  cases hframes : m.frames <;> simp [setVar, hframes]

end Machine

namespace Expr

open RValue (HasEntries namedList ofInt32 putEntry)

variable {call : Caller} {m m₁ m₂ : Machine} {n k : String} {v : RValue} {r : Object} {e : Expr}

/-- After `x$k <<- v` the global variable is the list that the name stood for, which is the
function's own one if it has one, with `v` in the place of its first element named `k` or at its
end. No other global variable has changed, and no variable of a function. -/
theorem assign_global_dollar (hv : v ≠ .null) (hvalue : e.evalWith call m = (.ok (.data v), m₁))
    (h : (assign ((name n).dollar k) e true).evalWith call m = (.ok r, m₂)) :
    ∃ x y, (m₁.local? n = some (.data x) ∨
        m₁.local? n = none ∧ m₁.globals.get? n = some (.data x)) ∧
      x.setNamed k v = .ok y ∧ (∀ es, HasEntries x es → y = namedList (putEntry k v es)) ∧
      m₂.globals.get? n = some (.data y) ∧
      (∀ other, other ≠ n → m₂.globals.get? other = m₁.globals.get? other) ∧
      m₂.frames = m₁.frames := by
  have hassign : assignWith call (((name n).path []).part (.dollar k)) (.data v) true m₁ =
      (.ok (), m₂) := by
    rw [evalWith, Exec.bind_of_ok hvalue] at h
    obtain ⟨u, m', hassign, hreturn⟩ := Exec.exists_of_bind_ok h
    cases hreturn
    exact hassign
  obtain ⟨x, p, y, hx, hp, hy, hset⟩ := exists_of_assignWith_part hassign
  cases hp
  cases hset
  refine ⟨x, y, Machine.lookup?_eq_some.mp hx, hy, fun es hes => ?_, ?_, fun other hother => ?_,
    Machine.frames_setVar_true _ _ _⟩
  · rw [hes.write (.dollar k) hv] at hy
    exact (Except.ok.inj hy).symm
  · rw [Machine.globals_setVar_true, Dict.get?_insert_self]
  · exact Machine.globals_setVar_of_ne hother m₁ _ true

/-- In a function with a variable of another name. -/
theorem assign_global_dollar_seen :
    let x := namedList [("b", ofInt32 1), ("a", ofInt32 2), ("c", .null)]
    let m : Machine := { Machine.create {} [] with
      globals := [("w", .data .null), ("x", .data x)], frames := [⟨"f", [("y", .data .null)]⟩] }
    let y := namedList [("b", ofInt32 1), ("a", .string "v"), ("c", .null)]
    let m₂ := { m with globals := [("w", .data .null), ("x", .data y)] }
    (assign ((name "x").dollar "a") (.const (.string "v")) true).eval m =
      (.ok (.data (.string "v")), m₂) ∧
    m.local? "x" = none ∧ m₂.globals.get? "x" = some (.data y) ∧
    m₂.globals.get? "w" = m.globals.get? "w" ∧ m₂.frames = m.frames := by
  intro x m y m₂
  have hassign : (assign ((name "x").dollar "a") (.const (.string "v")) true).eval m =
      (.ok (.data (.string "v")), m₂) := rfl
  obtain ⟨x', y', hseen, -, hentries, hx, hothers, hframes⟩ :=
    assign_global_dollar RValue.noConfusion rfl hassign
  obtain rfl : x' = x := by
    obtain hown | ⟨-, hglobal⟩ := hseen
    · cases hown
    · cases hglobal
      rfl
  rw [hentries _ (.named _)] at hx
  exact ⟨hassign, rfl, hx, hothers "w" (by decide), hframes⟩

/-- In a function with a list of its own: the elements of the global list are lost. -/
theorem assign_global_dollar_hidden :
    let globalList := namedList [("b", ofInt32 1)]
    let ownList := namedList [("c", ofInt32 2)]
    let m : Machine := { Machine.create {} [] with
      globals := [("x", .data globalList)], frames := [⟨"f", [("x", .data ownList)]⟩] }
    let lost := namedList [("c", ofInt32 2), ("a", ofInt32 3)]
    (assign ((name "x").dollar "a") (.const (ofInt32 3)) true).eval m =
      (.ok (.data (ofInt32 3)), { m with globals := [("x", .data lost)] }) ∧
    globalList.setNamed "a" (ofInt32 3) = .ok (namedList [("b", ofInt32 1), ("a", ofInt32 3)]) ∧
    lost ≠ namedList [("b", ofInt32 1), ("a", ofInt32 3)] := by
  intro globalList ownList m lost
  refine ⟨rfl, rfl, fun heq => ?_⟩
  have hnames : some ["c", "a"] = some ["b", "a"] := (RValue.list.inj heq).2
  exact absurd hnames (by decide)

end Expr

end ScriptBridge
