import ScriptBridge.Proofs.RValue.Combination

/-!
# Vectors in reverse order

The function `rev` takes a value apart and puts its elements together from the end. This is the
vector in reverse order if it is atomic and has an element (`rev_of_atomic`): its elements apart go
together to what they were taken from (`combine_split`). Of an empty vector it is null. And it is
never the list in reverse order if the value is a list (`not_reverses_of_list`): without a list
among its elements these go together to an atomic vector, and a list among them loses its own level.
-/

namespace ScriptBridge.RValue

variable {x y z : RValue} {xs : List RValue}

/-- The second value has the type and the length of the first one, and the elements of the first one
from the last to the first. -/
structure Reverses (x y : RValue) : Prop where
  mode : y.mode? = x.mode?
  length : y.length = x.length
  element : ∀ i < x.length, y.split[i]? = x.split[x.length - 1 - i]?

theorem reverses_iff : Reverses x y ↔ y.mode? = x.mode? ∧ y.split = x.split.reverse := by
  constructor
  · intro h
    refine ⟨h.mode, List.ext_getElem? fun i => ?_⟩
    by_cases hi : i < x.length
    · rw [h.element i hi, List.getElem?_reverse (by rwa [length_split]), length_split]
    · have hx : x.split.reverse.length ≤ i := by
        rw [List.length_reverse, length_split]
        omega
      have hy : y.split.length ≤ i := by
        rw [length_split, h.length]
        omega
      rw [List.getElem?_eq_none hx, List.getElem?_eq_none hy]
  · rintro ⟨hmode, hsplit⟩
    have hlength : y.length = x.length := by
      rw [← length_split, hsplit, List.length_reverse, length_split]
    refine ⟨hmode, hlength, fun i hi => ?_⟩
    rw [hsplit, List.getElem?_reverse (by rwa [length_split]), length_split]

/-! ### Atomic vectors -/

theorem mode?_of_mem_split (hlist : x.mode? ≠ some .list) (hy : y ∈ x.split) :
    y.mode? = x.mode? := by
  cases x with
  | null => cases hy
  | unsupported t => cases hy
  | list values names => exact absurd rfl hlist
  | _ =>
    obtain ⟨e, -, rfl⟩ := List.mem_map.mp hy
    rfl

/-- An atomic vector with an element, and without the integer that stands for a missing one. -/
structure Filled (x : RValue) : Prop where
  atomic : x.mode? ≠ some .list
  length : 0 < x.length
  proper : ∀ v, x = integer v → Proper v

theorem combine_split (h : Filled x) : combine x.split = .ok x := by
  obtain ⟨hatomic, hlength, hproper⟩ := h
  have hne : x.split ≠ [] := by
    rw [← List.length_pos_iff, length_split]
    exact hlength
  have htop {m : Mode} (hm : x.mode? = some m) : joined x.split = together m x.split :=
    joined_of_topMode?
      (topMode?_of_forall hne fun y hy => (mode?_of_mem_split hatomic hy).trans hm)
  rw [combine_eq]
  cases x with
  | null => cases hlength
  | unsupported t => cases hlength
  | list values names => exact absurd rfl hatomic
  | logical v =>
    rw [htop rfl]
    simp [together, split, List.flatMap_map, truthElements]
  | integer v =>
    rw [htop rfl]
    simp only [together, split, List.flatMap_map, wholeElements, List.map_cons, List.map_nil,
      ← List.map_eq_flatMap]
    rw [filter_isProper (hproper v rfl)]
  | double v =>
    rw [htop rfl]
    simp [together, split, List.flatMap_map, doubleElements]
  | character v =>
    rw [htop rfl]
    simp [together, split, List.flatMap_map, atomTexts]

def backwards : RValue → RValue
  | logical v => logical v.reverse
  | integer v => integer v.reverse
  | double v => double v.reverse
  | character v => character v.reverse
  | x => x

theorem reverses_backwards (hlist : x.mode? ≠ some .list) : Reverses x x.backwards := by
  rw [reverses_iff]
  cases x with
  | null => exact ⟨rfl, rfl⟩
  | unsupported t => exact ⟨rfl, rfl⟩
  | list values names => exact absurd rfl hlist
  | _ => exact ⟨rfl, List.map_reverse⟩

theorem backwards_backwards (x : RValue) : x.backwards.backwards = x := by
  cases x <;> simp [backwards]

theorem Filled.backwards (h : Filled x) : Filled x.backwards := by
  have hreverses := reverses_backwards h.atomic
  refine ⟨hreverses.mode ▸ h.atomic, hreverses.length ▸ h.length, fun v hv n hn => ?_⟩
  cases x with
  | integer u =>
    cases hv
    exact h.proper u rfl n (List.mem_reverse.mp hn)
  | _ => cases hv

/-- The elements of an atomic vector from the end are the vector in reverse order. -/
theorem rev_of_atomic (h : Filled x) : rev x = .ok x.backwards := by
  have hsplit := (reverses_iff.mp (reverses_backwards h.atomic)).2
  rw [rev, ← hsplit, combine_split h.backwards]

/-! ### Empty vectors -/

theorem rev_of_empty (h : x.length = 0) : rev x = .ok null := by
  have hsplit : x.split = [] := by
    rw [← List.length_eq_zero_iff, length_split, h]
  rw [rev, hsplit]
  rfl

/-! ### Lists -/

theorem mem_values_of_mem_split (hy : y ∈ x.split) (hlist : y.mode? = some .list) :
    ∃ values names, x = list values names ∧ y ∈ values := by
  by_cases hx : x.mode? = some .list
  · cases x with
    | list values names => exact ⟨values, names, rfl, hy⟩
    | _ => cases hx
  · rw [mode?_of_mem_split hx hy] at hlist
    exact absurd hlist hx

/-- Values among which there is a list are not what the elements of all of them make: a list is
among the elements of a larger list only. -/
theorem flatMap_split_ne (hx : x ∈ xs) (hlist : x.mode? = some .list) : xs.flatMap split ≠ xs := by
  intro heq
  have hlarger : ∀ y ∈ xs, y.mode? = some .list →
      ∃ z ∈ xs, z.mode? = some .list ∧ sizeOf y < sizeOf z := by
    intro y hy hylist
    rw [← heq] at hy
    obtain ⟨z, hz, hyz⟩ := List.mem_flatMap.mp hy
    obtain ⟨values, names, rfl, hvalues⟩ := mem_values_of_mem_split hyz hylist
    have hsize := List.sizeOf_lt_of_mem hvalues
    refine ⟨_, hz, rfl, ?_⟩
    simp only [list.sizeOf_spec]
    omega
  -- So there would be lists of any size among finitely many values.
  have hunbounded : ∀ n, ∃ y ∈ xs, y.mode? = some .list ∧ n ≤ sizeOf y := by
    intro n
    induction n with
    | zero => exact ⟨x, hx, hlist, Nat.zero_le _⟩
    | succ n ih =>
      obtain ⟨y, hy, hylist, hle⟩ := ih
      obtain ⟨z, hz, hzlist, hlt⟩ := hlarger y hy hylist
      exact ⟨z, hz, hzlist, by omega⟩
  obtain ⟨y, hy, -, hle⟩ := hunbounded (sizeOf xs)
  have hlt := List.sizeOf_lt_of_mem hy
  omega

/-- What the elements of a list make from the end is not the list in reverse order. -/
theorem not_reverses_of_list (hlist : x.mode? = some .list) (h : rev x = .ok y) :
    ¬Reverses x y := by
  intro hreverses
  obtain ⟨hmode, hsplit⟩ := reverses_iff.mp hreverses
  rw [hlist] at hmode
  rw [rev, combine_eq] at h
  cases h
  rw [mode?_joined] at hmode
  obtain ⟨z, hz, hzlist⟩ := exists_of_topMode? hmode
  rw [joined_of_topMode? hmode] at hsplit
  exact flatMap_split_ne hz hzlist hsplit

/-! ### Which vectors are reversed -/

/-- `rev` always yields a value. It has the type and the length of the vector and its elements from
the last to the first, and yields the vector again, if the vector is atomic and not empty. It is
null for an empty one, and it is not the list in reverse order for any list. -/
theorem rev_reverses (x : RValue) (hproper : ∀ v, x = integer v → Proper v) :
    ∃ y, rev x = .ok y ∧
      (x.mode? ≠ some .list → 0 < x.length → Reverses x y ∧ rev y = .ok x) ∧
      (x.length = 0 → y = null) ∧
      (x.mode? = some .list → ¬Reverses x y) := by
  obtain ⟨y, hy⟩ : ∃ y, rev x = .ok y := ⟨_, combine_eq _⟩
  refine ⟨y, hy, fun hatomic hlength => ?_, fun hempty => ?_, fun hlist => ?_⟩
  · have hfilled : Filled x := ⟨hatomic, hlength, hproper⟩
    rw [rev_of_atomic hfilled] at hy
    cases hy
    refine ⟨reverses_backwards hatomic, ?_⟩
    rw [rev_of_atomic hfilled.backwards, backwards_backwards]
  · rw [rev_of_empty hempty] at hy
    exact (Except.ok.inj hy).symm
  · exact not_reverses_of_list hlist hy

/-- A vector with a missing integer. -/
theorem rev_reverses_missing :
    let x := integer [some 7, none, some (-3)]
    let y := integer [some (-3), none, some 7]
    (∀ v, x = integer v → Proper v) ∧ rev x = .ok y ∧ Reverses x y ∧ rev y = .ok x := by
  intro x y
  have hproper : ∀ v, x = integer v → Proper v := by
    intro v hv n hn
    obtain rfl := integer.inj hv
    simp only [List.mem_cons, Option.some.injEq, List.not_mem_nil, or_false, reduceCtorEq,
      false_or] at hn
    rcases hn with rfl | rfl <;> decide
  have hy : rev x = .ok y := rfl
  obtain ⟨z, hz, hatomic, -⟩ := rev_reverses x hproper
  rw [hy] at hz
  cases hz
  exact ⟨hproper, hy, hatomic (by decide) (by decide)⟩

/-- The elements of a list of two integers go together to a vector of integers, and a list in a list
is taken apart. -/
theorem rev_list_not_reversed :
    rev (list [ofInt32 1, ofInt32 2] none) = .ok (integer [some 2, some 1]) ∧
    ¬Reverses (list [ofInt32 1, ofInt32 2] none) (integer [some 2, some 1]) ∧
    rev (list [list [ofInt32 1, ofInt32 2] none, ofInt32 3] none) =
      .ok (list [ofInt32 3, ofInt32 1, ofInt32 2] none) ∧
    ¬Reverses (list [list [ofInt32 1, ofInt32 2] none, ofInt32 3] none)
      (list [ofInt32 3, ofInt32 1, ofInt32 2] none) ∧
    rev (integer []) = .ok null ∧ ¬Reverses (integer []) null :=
  ⟨rfl, fun h => absurd h.mode (by decide), rfl, fun h => absurd h.length (by decide), rfl,
    fun h => absurd h.mode (by decide)⟩

end ScriptBridge.RValue
