import Mathlib.Algebra.GroupWithZero.Nat
import ScriptBridge.Proofs.Except
import ScriptBridge.RValue.Combine

/-!
# Numbers of elements

A coercion keeps the number of elements (`length_asCharacter`, …), and so values that are put
together have as many elements as they had apart (`length_combine`). The elements of a value are as
many as its length says (`length_split`), and so are their names if there is one for each
(`length_elementNames`).
-/

namespace ScriptBridge.RValue

variable {x y : RValue} {parts : List RValue}

/-! ### Coercions -/

theorem length_asCharacter {v : List (Option String)} (h : asCharacter x = .ok v) :
    v.length = x.length := by
  cases x with
  | unsupported t => cases h
  | null => cases h; rfl
  | character v => cases h; rfl
  | _ =>
    cases h
    exact List.length_map _

theorem length_numeric {v : List (Option Float)} (h : numeric x = .ok v) :
    v.length = x.length := by
  cases x with
  | null => cases h; rfl
  | double v => cases h; rfl
  | logical v =>
    cases h
    exact List.length_map _
  | integer v =>
    cases h
    exact List.length_map _
  | _ => cases h

/-- A list that is coerced element by element, each of them single. -/
theorem length_singles {α : Type} {read : RValue → Except Fault (List (Option α))}
    {singles : List RValue → Except Fault (List (Option α))} {e : Fault}
    (hnil : singles [] = .ok [])
    (hcons : ∀ x xs, singles (x :: xs) = if x.length = 1 then do
        let a ← read x
        let as ← singles xs
        return a.headD none :: as
      else .error e)
    {v : List (Option α)} (h : singles parts = .ok v) : v.length = parts.length := by
  induction parts generalizing v with
  | nil =>
    rw [hnil] at h
    cases h
    rfl
  | cons x parts ih =>
    rw [hcons] at h
    split at h
    · obtain ⟨a, -, h⟩ := except_bind_eq_ok.mp h
      obtain ⟨as, has, h⟩ := except_bind_eq_ok.mp h
      cases h
      rw [List.length_cons, List.length_cons, ih has]
    · cases h

theorem length_asDouble {v : List (Option Float)} (h : asDouble x = .ok v) :
    v.length = x.length := by
  unfold asDouble at h
  split at h
  · cases h
    exact List.length_map _
  · exact length_singles rfl (fun _ _ => rfl) h
  all_goals exact length_numeric h

theorem length_asInteger {v : List (Option Int32)} (h : asInteger x = .ok v) :
    v.length = x.length := by
  unfold asInteger at h
  split at h
  case h_1 => cases h; rfl
  case h_6 => exact length_singles rfl (fun _ _ => rfl) h
  case h_7 => cases h
  all_goals
    cases h
    exact List.length_map _

theorem length_asLogical {v : List (Option Bool)} (h : asLogical x = .ok v) :
    v.length = x.length := by
  unfold asLogical at h
  split at h
  case h_1 => cases h; rfl
  case h_2 => cases h; rfl
  case h_6 => exact length_singles rfl (fun _ _ => rfl) h
  case h_7 => cases h
  all_goals
    cases h
    exact List.length_map _

/-! ### Values put together -/

theorem length_split (x : RValue) : x.split.length = x.length := by
  cases x with
  | null => rfl
  | unsupported t => rfl
  | list values names => rfl
  | _ => exact List.length_map _

def NamesEach (x : RValue) : Prop := ∀ names ∈ x.names?, names.length = x.length

theorem length_elementNames (h : NamesEach x) : x.elementNames.length = x.length := by
  cases x with
  | null => rfl
  | unsupported t => rfl
  | list values names =>
    cases names with
    | none => exact List.length_map _
    | some ns => exact h ns rfl
  | _ => exact (List.length_map _).trans (length_split _)

/-- Lists that have a name for each element have one for each together. -/
theorem namesEach_combineLists (h : ∀ x ∈ parts, NamesEach x) : NamesEach (combineLists parts) := by
  intro names hnames
  rw [combineLists, names?] at hnames
  split at hnames
  · cases hnames
    rw [combineLists, length, List.length_flatMap, List.length_flatMap]
    refine congrArg List.sum (List.map_congr_left fun x hx => ?_)
    rw [length_elementNames (h x hx), length_split]
  · cases hnames

theorem length_flatten {α : Type} {read : RValue → Except Fault (List α)}
    (hread : ∀ x v, read x = .ok v → v.length = x.length) {v : List α}
    (h : flatten read parts = .ok v) : v.length = (parts.map length).sum := by
  induction parts generalizing v with
  | nil => cases h; rfl
  | cons x parts ih =>
    rw [List.map_cons, List.sum_cons]
    have hcons : (do return (← read x) ++ (← flatten read parts)) = Except.ok v →
        v.length = x.length + (parts.map length).sum := by
      intro h
      obtain ⟨u, hu, h⟩ := except_bind_eq_ok.mp h
      obtain ⟨us, hus, h⟩ := except_bind_eq_ok.mp h
      cases h
      rw [List.length_append, hread x u hu, ih hus]
    cases x with
    | unsupported t => exact (ih h).trans (Nat.zero_add _).symm
    | _ => exact hcons h

theorem length_of_mode?_eq_none (h : x.mode? = none) : x.length = 0 := by
  cases x with
  | null => rfl
  | unsupported t => rfl
  | _ => cases h

theorem laterMode_eq_none {a b : Option Mode} : laterMode a b = none ↔ a = none ∧ b = none := by
  cases a <;> cases b <;> simp [laterMode]

theorem foldl_laterMode_eq_none (m : Option Mode) :
    parts.foldl (fun m x => laterMode m x.mode?) m = none ↔
      m = none ∧ ∀ x ∈ parts, x.mode? = none := by
  induction parts generalizing m with
  | nil => simp
  | cons x parts ih => rw [List.foldl_cons, ih, laterMode_eq_none, List.forall_mem_cons, and_assoc]

/-- Values that are put together have as many elements as they had apart. -/
theorem length_combine (h : combine parts = .ok y) : y.length = (parts.map length).sum := by
  unfold combine at h
  split at h
  · next hnone =>
    cases h
    have hmodes := ((foldl_laterMode_eq_none none).mp hnone).2
    refine (List.sum_eq_zero_iff_forall_eq_nat.mpr fun n hn => ?_).symm
    obtain ⟨x, hx, rfl⟩ := List.mem_map.mp hn
    exact length_of_mode?_eq_none (hmodes x hx)
  · cases h
    rw [combineLists, length, List.length_flatMap]
    exact congrArg List.sum (List.map_congr_left fun x _ => length_split x)
  all_goals
    obtain ⟨v, hv, rfl⟩ := except_map_eq_ok.mp h
  · exact length_flatten (fun x v => length_asCharacter) hv
  · exact length_flatten (fun x v => length_asDouble) hv
  · exact length_flatten (fun x v => length_asInteger) hv
  · exact length_flatten (fun x v => length_asLogical) hv

end ScriptBridge.RValue
