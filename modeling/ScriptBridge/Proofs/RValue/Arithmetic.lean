import ScriptBridge.Proofs.RValue.WellFormed

/-!
# Arithmetic of integers

Sums, differences and products of vectors of integers and truth values are computed on the numbers
that the elements stand for, and each is the exact number or missing (`operate_integers`). The
operands of an element are found by position, the shorter vector being repeated
(`exists_of_getElem?_recycle`), and a number is kept if it is one of the integers of scripts, which
are as many below zero as above (`map_toInt_fit?`).
-/

namespace ScriptBridge.RValue

/-- The operations that integers have among themselves, with what they are on numbers. -/
inductive OnIntegers : BinaryOp → (Int → Int → Int) → Prop
  | sum : OnIntegers .add (· + ·)
  | difference : OnIntegers .sub (· - ·)
  | product : OnIntegers .mul (· * ·)

/-- The numbers that the elements of a vector of integers or truth values stand for. -/
def wholeNumbers? : RValue → Option (List (Option Int))
  | logical v => some (v.map (·.map fun b => if b then 1 else 0))
  | integer v => some (v.map (·.map Int32.toInt))
  | _ => none

/-- The result of an operation on two numbers; it is missing if an operand is, or if its absolute
value is too large. -/
def exactOrMissing (f : Int → Int → Int) : Option Int → Option Int → Option Int
  | some x, some y => if (f x y).natAbs ≤ 2 ^ 31 - 1 then some (f x y) else none
  | _, _ => none

/-! ### The shorter vector repeated -/

section

variable {α β γ : Type} {g : α → β → γ} {as : List α} {bs : List β} {r : γ} {i : Nat}

theorem length_recycle (g : α → β → γ) (as : List α) (bs : List β) :
    (recycle g as bs).length =
      if as.length = 0 ∨ bs.length = 0 then 0 else max as.length bs.length := by
  cases as with
  | nil => rfl
  | cons a as =>
    cases bs with
    | nil => rfl
    | cons b bs => simp [recycle]

theorem getElem?_cyclic {a : α} {default : α} (h : as.length ≠ 0)
    (ha : cyclic as.toArray default i = a) : as[i % as.length]? = some a := by
  have hlt : i % as.length < as.length := Nat.mod_lt i (Nat.pos_of_ne_zero h)
  rw [← ha, cyclic, Array.getD_eq_getD_getElem?, List.getElem?_toArray, List.size_toArray,
    List.getElem?_eq_getElem hlt, Option.getD_some]

theorem exists_of_getElem?_recycle (h : (recycle g as bs)[i]? = some r) :
    ∃ a b, as[i % as.length]? = some a ∧ bs[i % bs.length]? = some b ∧ r = g a b := by
  cases as with
  | nil => cases h
  | cons a as =>
    cases bs with
    | nil => cases h
    | cons b bs =>
      rw [recycle, List.getElem?_map] at h
      obtain ⟨j, hj, rfl⟩ := Option.map_eq_some_iff.mp h
      obtain ⟨_, hij⟩ := List.getElem?_eq_some_iff.mp hj
      rw [List.getElem_range] at hij
      subst hij
      exact ⟨_, _, getElem?_cyclic (Nat.succ_ne_zero _) rfl,
        getElem?_cyclic (Nat.succ_ne_zero _) rfl, rfl⟩

end

variable {op : BinaryOp} {f : Int → Int → Int} {a b : RValue} {xs ys : List (Option Int)}

/-! ### Numbers of vectors -/

theorem OnIntegers.integerOp? (h : OnIntegers op f) : integerOp? op = some f := by
  cases h <;> rfl

theorem OnIntegers.operate (h : OnIntegers op f) : operate op = arith op := by
  cases h <;> rfl

/-- A vector that stands for numbers is one of integers that are these numbers. -/
theorem exists_integers? (h : a.wholeNumbers? = some xs) :
    ∃ v, a.integers? = some v ∧ v.map (·.map Int32.toInt) = xs ∧ a.length = v.length := by
  unfold wholeNumbers? at h
  split at h
  · next v =>
    cases h
    refine ⟨v.map (·.map boolToInt), rfl, ?_, (List.length_map _).symm⟩
    have htoInt : Int32.toInt ∘ boolToInt = fun b => if b then 1 else 0 := by
      funext b
      cases b <;> rfl
    simp only [List.map_map, Function.comp_def, Option.map_map, ← htoInt]
  · next v =>
    cases h
    exact ⟨v, rfl, rfl, rfl⟩
  · cases h

/-! ### Numbers that fit -/

theorem map_toInt_fit? (k : Int) :
    (fit? k).map Int32.toInt = if k.natAbs ≤ 2 ^ 31 - 1 then some k else none := by
  unfold fit?
  by_cases hk : -2147483648 < k ∧ k ≤ 2147483647
  · rw [if_pos hk, if_pos (by omega), Option.map_some, toInt_ofInt (by omega) hk.2]
  · rw [if_neg hk, if_neg (by omega), Option.map_none]

theorem map_toInt_both (f : Int → Int → Int) (m n : Option Int32) :
    (both (fun m n => fit? (f m.toInt n.toInt)) m n).map Int32.toInt =
      exactOrMissing f (m.map Int32.toInt) (n.map Int32.toInt) := by
  cases m with
  | none => rfl
  | some m =>
    cases n with
    | none => rfl
    | some n => exact map_toInt_fit? (f m.toInt n.toInt)

theorem ne_minValue_of_exactOrMissing {x y : Option Int} {n : Int32}
    (h : some n.toInt = exactOrMissing f x y) : n ≠ Int32.minValue := by
  unfold exactOrMissing at h
  split at h
  · split at h
    · next hk =>
      refine ne_minValue_of_lt ?_
      rw [Option.some.inj h]
      omega
    · cases h
  · cases h

/-- Arithmetic of integers is exact or missing. Of two vectors of integers or truth values the sum,
difference or product is a vector of integers, empty if one of them is and otherwise as long as the
longer one. Each element is the exact result on the elements at its position, the shorter vector
being repeated, and it is missing if one of these is or if the absolute value of the result is above
`2 ^ 31 - 1`; it is never the number that stands for a missing one. -/
theorem operate_integers (hop : OnIntegers op f) (ha : a.wholeNumbers? = some xs)
    (hb : b.wholeNumbers? = some ys) :
    ∃ v, operate op a b = .ok (integer v) ∧
      v.length = (if a.length = 0 ∨ b.length = 0 then 0 else max a.length b.length) ∧
      (∀ i r, v[i]? = some r → ∃ x y, xs[i % a.length]? = some x ∧ ys[i % b.length]? = some y ∧
        r.map Int32.toInt = exactOrMissing f x y) ∧
      ∀ n, some n ∈ v → n ≠ Int32.minValue := by
  obtain ⟨ms, hms, rfl, hlena⟩ := exists_integers? ha
  obtain ⟨ns, hns, rfl, hlenb⟩ := exists_integers? hb
  have helement : ∀ i r, (recycle (both fun m n => fit? (f m.toInt n.toInt)) ms ns)[i]? = some r →
      ∃ x y, (ms.map (·.map Int32.toInt))[i % a.length]? = some x ∧
        (ns.map (·.map Int32.toInt))[i % b.length]? = some y ∧
        r.map Int32.toInt = exactOrMissing f x y := by
    intro i r hr
    obtain ⟨m, n, hm, hn, rfl⟩ := exists_of_getElem?_recycle hr
    refine ⟨m.map Int32.toInt, n.map Int32.toInt, ?_, ?_, map_toInt_both f m n⟩
    · rw [hlena, List.getElem?_map, hm, Option.map_some]
    · rw [hlenb, List.getElem?_map, hn, Option.map_some]
  refine ⟨_, ?_, ?_, helement, fun n hn => ?_⟩
  · rw [hop.operate, arith, hms, hns, hop.integerOp?]
  · rw [length_recycle, hlena, hlenb]
  · obtain ⟨i, hi⟩ := List.getElem?_of_mem hn
    obtain ⟨x, y, -, -, hxy⟩ := helement i (some n) hi
    exact ne_minValue_of_exactOrMissing hxy

theorem operate_integers_overflow :
    OnIntegers .sub (· - ·) ∧
      wholeNumbers? (integer [some (-2147483647), none, some 5]) =
        some [some (-2147483647), none, some 5] ∧
      wholeNumbers? (logical [some true, some false]) = some [some 1, some 0] ∧
      ∃ v, operate .sub (integer [some (-2147483647), none, some 5])
          (logical [some true, some false]) = .ok (integer v) ∧
        v.length = 3 ∧
        (∀ i r, v[i]? = some r → ∃ x y, [some (-2147483647), none, some 5][i % 3]? = some x ∧
          [some 1, some 0][i % 2]? = some y ∧ r.map Int32.toInt = exactOrMissing (· - ·) x y) ∧
        ∀ n, some n ∈ v → n ≠ Int32.minValue :=
  have ha : wholeNumbers? (integer [some (-2147483647), none, some 5]) =
      some [some (-2147483647), none, some 5] := rfl
  have hb : wholeNumbers? (logical [some true, some false]) = some [some 1, some 0] := rfl
  ⟨.difference, ha, hb, operate_integers .difference ha hb⟩

end ScriptBridge.RValue
