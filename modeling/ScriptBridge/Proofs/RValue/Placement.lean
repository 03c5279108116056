import Mathlib.Data.List.Induction
import Mathlib.Data.List.Nodup
import ScriptBridge.RValue.Replace

/-!
# Items at positions

A replacement puts items at positions, from left to right and repeated, and makes room as it goes.
What comes out is told by its length and by the element at each position (`RValue.Placed`): the item
that was put there last, else what stood there before, else the one that stands for new elements.

- `placed_foldl`: what putting items at positions one after the other makes.
- `Placed.getElem?_of_nodup`: the items at distinct positions.
- `exists_of_replaceAt_list`, `exists_of_replaceAt_vector`: a list and a vector with items at
  positions.
-/

namespace ScriptBridge.RValue

section

variable {α : Type} {old items new xs : List α} {fill item v : α} {ps : List Nat} {i k n p : Nat}

/-! ### Room for positions -/

/-- The number of elements when there is room for each of the positions. -/
def extent (ps : List Nat) (length : Nat) : Nat := ps.foldl (fun n p => max n (p + 1)) length

theorem extent_concat (ps : List Nat) (p n : Nat) :
    extent (ps ++ [p]) n = max (extent ps n) (p + 1) := by
  rw [extent, List.foldl_append]
  rfl

theorem le_extent (ps : List Nat) (n : Nat) : n ≤ extent ps n := by
  induction ps using List.reverseRecOn with
  | nil => exact Nat.le_refl n
  | append_singleton ps p ih =>
    rw [extent_concat]
    omega

theorem lt_extent (h : p ∈ ps) : p < extent ps n := by
  induction ps using List.reverseRecOn with
  | nil => cases h
  | append_singleton ps q ih =>
    rw [extent_concat]
    rcases List.mem_append.mp h with h | h
    · have hp := ih h
      omega
    · rw [List.mem_singleton.mp h]
      omega

theorem extent_le (hn : n ≤ k) (hps : ∀ p ∈ ps, p < k) : extent ps n ≤ k := by
  induction ps using List.reverseRecOn with
  | nil => exact hn
  | append_singleton ps p ih =>
    have hinit := ih fun q hq => hps q (List.mem_append_left _ hq)
    have hp := hps p List.mem_concat_self
    rw [extent_concat]
    omega

theorem extent_of_max? (h : ps.max? = some p) : extent ps n = max n (p + 1) := by
  obtain ⟨hmem, hmax⟩ := List.max?_eq_some_iff.mp h
  have hle : extent ps n ≤ max n (p + 1) := extent_le (by omega) fun q hq => by
    have hq := hmax q hq
    omega
  have hlow := le_extent ps n
  have hhigh : p < extent ps n := lt_extent hmem
  omega

/-! ### One item -/

theorem length_padTo (fill : α) (n : Nat) (xs : List α) :
    (padTo fill n xs).length = max xs.length n := by
  rw [padTo, List.length_append, List.length_replicate]
  omega

theorem length_putAt (fill : α) (xs : List α) (i : Nat) (v : α) :
    (putAt fill xs i v).length = max xs.length (i + 1) := by
  rw [putAt, List.length_set, length_padTo]

theorem getElem?_putAt_self (fill : α) (xs : List α) (i : Nat) (v : α) :
    (putAt fill xs i v)[i]? = some v := by
  rw [putAt, List.getElem?_set_self]
  rw [length_padTo]
  omega

theorem getElem?_putAt_of_ne (h : p ≠ i) (hp : p < (putAt fill xs i v).length) :
    (putAt fill xs i v)[p]? = some (xs[p]?.getD fill) := by
  rw [length_putAt] at hp
  rw [putAt, List.getElem?_set_ne (Ne.symm h), padTo, List.getElem?_append]
  split
  · next hlt => rw [List.getElem?_eq_getElem hlt, Option.getD_some]
  · next hle =>
    rw [List.getElem?_replicate, if_pos (by omega), List.getElem?_eq_none (by omega),
      Option.getD_none]

/-! ### All items -/

/-- `new` is `old` with the items at the positions, from left to right and repeated, `fill` standing
for new elements. -/
structure Placed (old items : List α) (fill : α) (ps : List Nat) (new : List α) : Prop where
  length : new.length = extent ps old.length
  /-- The last item that was put at a position is there. -/
  last : ∀ k p, ps[k]? = some p → (∀ k' > k, ps[k']? ≠ some p) →
    new[p]? = items[k % items.length]?
  /-- At any other position is what stood there before. -/
  kept : ∀ p < new.length, p ∉ ps → new[p]? = some (old[p]?.getD fill)

theorem placed_nil (old items : List α) (fill : α) : Placed old items fill [] old where
  length := rfl
  last k p h := by cases h
  kept p h _ := by rw [List.getElem?_eq_getElem h, Option.getD_some]

theorem Placed.concat (h : Placed old items fill ps new)
    (hitem : items[ps.length % items.length]? = some item) (p : Nat) :
    Placed old items fill (ps ++ [p]) (putAt fill new p item) where
  length := by rw [length_putAt, h.length, extent_concat]
  last k q hk hlast := by
    rcases Nat.lt_trichotomy k ps.length with hlt | rfl | hgt
    · rw [List.getElem?_append_left hlt] at hk
      have hne : q ≠ p := by
        rintro rfl
        exact hlast ps.length hlt List.getElem?_concat_length
      have hmem : q ∈ ps := List.mem_of_getElem? hk
      have hq : q < new.length := by
        rw [h.length]
        exact lt_extent hmem
      have hroom : q < (putAt fill new p item).length := by
        rw [length_putAt]
        omega
      have hearlier : new[q]? = items[k % items.length]? := h.last k q hk fun k' hk' hk'' => by
        have hk'lt : k' < ps.length := (List.getElem?_eq_some_iff.mp hk'').1
        exact hlast k' hk' (by rw [List.getElem?_append_left hk'lt, hk''])
      rw [getElem?_putAt_of_ne hne hroom, ← hearlier, List.getElem?_eq_getElem hq, Option.getD_some]
    · rw [List.getElem?_concat_length] at hk
      cases hk
      rw [getElem?_putAt_self, hitem]
    · have hlength : (ps ++ [p]).length = ps.length + 1 := List.length_append
      rw [List.getElem?_eq_none (by omega)] at hk
      cases hk
  kept q hq hmem := by
    have hne : q ≠ p := fun heq => hmem (by rw [heq]; exact List.mem_concat_self)
    have hps : q ∉ ps := fun hq => hmem (List.mem_append_left _ hq)
    rw [getElem?_putAt_of_ne hne hq]
    by_cases hlt : q < new.length
    · rw [h.kept q hlt hps, Option.getD_some]
    · have hlength := h.length
      have hold := le_extent ps old.length
      rw [List.getElem?_eq_none (Nat.le_of_not_lt hlt), List.getElem?_eq_none (by omega)]

theorem placed_foldl (hitems : items ≠ []) (old : List α) (fill other : α) (ps : List Nat) :
    Placed old items fill ps (ps.zipIdx.foldl
      (fun xs e => putAt fill xs e.1 (items.getD (e.2 % items.length) other)) old) := by
  induction ps using List.reverseRecOn with
  | nil => exact placed_nil old items fill
  | append_singleton ps p ih =>
    have hlt : ps.length % items.length < items.length :=
      Nat.mod_lt _ (List.length_pos_of_ne_nil hitems)
    have hitem : items[ps.length % items.length]? =
        some (items.getD (ps.length % items.length) other) := by
      rw [List.getD_eq_getElem?_getD, List.getElem?_eq_getElem hlt, Option.getD_some]
    rw [List.zipIdx_append, List.foldl_append]
    simpa using ih.concat hitem p

theorem Placed.getElem?_of_nodup (h : Placed old items fill ps new) (hps : ps.Nodup)
    (hk : ps[k]? = some p) : new[p]? = items[k % items.length]? := by
  refine h.last k p hk fun k' hlt hk' => ?_
  have heq : k = k' := (List.getElem?_inj (List.getElem?_eq_some_iff.mp hk).1 hps).mp
    (hk.trans hk'.symm)
  omega

end

/-! ### Lists and vectors -/

variable {x y : RValue} {values items : List RValue} {names : Option (List String)} {ps : List Nat}

/-- The names of a list with items at positions: those of the elements before, and empty ones. -/
theorem padTo_take_names {n : Nat} (hnames : ∀ ns ∈ names, ns.length = values.length)
    (hn : values.length ≤ n) :
    names.map (fun ns => padTo "" n (ns.take n)) =
      names.map (fun ns => ns ++ List.replicate (n - values.length) "") := by
  cases names with
  | none => rfl
  | some ns =>
    have hlength := hnames ns rfl
    rw [Option.map_some, Option.map_some, List.take_of_length_le (by omega), padTo, hlength]

theorem exists_of_replaceAt_list (hitems : items ≠ [])
    (hnames : ∀ ns ∈ names, ns.length = values.length)
    (h : replaceAt (list values names) ps items = .ok y) :
    ∃ new, Placed values items null ps new ∧ values.length ≤ new.length ∧
      y = list new (names.map fun ns => ns ++ List.replicate (new.length - values.length) "") := by
  have hplaced := placed_foldl hitems values null null ps
  have hlength := le_extent ps values.length
  rw [← hplaced.length] at hlength
  cases h
  refine ⟨_, hplaced, hlength, ?_⟩
  rw [← padTo_take_names hnames hlength]
  rfl

theorem exists_of_replaceAt_vector (hitems : items ≠ [])
    (hx : ∀ values names, x ≠ list values names) (h : replaceAt x ps items = .ok y) :
    ∃ new, Placed x.split items (logical [none]) ps new ∧ (∀ e ∈ new, e.length = 1) ∧
      combine new = .ok y := by
  have hplaced := placed_foldl hitems x.split (logical [none]) null ps
  have hcombine : ∀ new, (if new.any (·.length ≠ 1) then .error .longReplacement else combine new) =
      Except.ok y → (∀ e ∈ new, e.length = 1) ∧ combine new = .ok y := by
    intro new hnew
    split at hnew
    · cases hnew
    · next hsingle =>
      refine ⟨fun e he => ?_, hnew⟩
      by_contra hlength
      exact hsingle (List.any_eq_true.mpr ⟨e, he, decide_eq_true hlength⟩)
  refine ⟨_, hplaced, hcombine _ ?_⟩
  cases x with
  | list values names => exact absurd rfl (hx values names)
  | _ => exact h

end ScriptBridge.RValue
