import ScriptBridge.Proofs.RValue.Lengths
import ScriptBridge.Proofs.RValue.Placement

/-!
# Replaced elements

The replacement `x[i] <- v` puts the elements of `v` at the positions that the index names in `x`,
as `Placed` tells. The index names the same positions in the list that comes out, although a mask is
repeated over more elements there and the names have become more (`positions_placed`); so if they
are distinct, `x[i]` reads the elements of `v`, repeated (`setSubset_places`).
-/

namespace ScriptBridge.RValue

variable {x y v index : RValue} {values new : List RValue} {names : Option (List String)}
  {ps : List Nat} {n k p : Nat}

/-! ### The positions of an index -/

theorem mapM_id_eq_some {α : Type} {l : List (Option α)} {l' : List α} :
    l.mapM id = some l' ↔ l = l'.map some := by
  induction l generalizing l' with
  | nil => cases l' <;> simp
  | cons a l ih =>
    cases a with
    | none => cases l' <;> simp
    | some a => cases l' <;> simp [ih, Option.bind_eq_some_iff, and_comm]

/-- A replacement leaves the value as it is, if the index names no position, or puts the elements of
the other value at the positions. -/
theorem exists_of_setSubset (h : x.setSubset index v = .ok y) :
    ∃ ps, x.positions index = .ok (ps.map some) ∧
      (ps = [] → y = x) ∧ (ps ≠ [] → v.split ≠ [] ∧ x.replaceAt ps v.split = .ok y) := by
  obtain ⟨qs, hqs, h⟩ := except_bind_eq_ok.mp h
  split at h
  · cases h
  · next hnil =>
    cases h
    rw [mapM_id_eq_some.mp hnil] at hqs
    exact ⟨[], hqs, fun _ => rfl, fun hne => absurd rfl hne⟩
  · next ps hne hsome =>
    rw [mapM_id_eq_some.mp hsome] at hqs
    refine ⟨ps, hqs, fun hps => absurd hps hne, fun _ => ?_⟩
    split at h
    · cases h
    · next hitems => exact ⟨hitems, h⟩

/-! ### The positions once more -/

def numberedPositions (length : Nat) (numbers : List (Option Float)) :
    Except Fault (List (Option Nat)) :=
  let negative := numbers.any (·.any (· < 0))
  let positive := numbers.any (·.any (0 < ·))
  if negative && positive then .error .mixedSubscripts
  else if negative then remainingPositions length numbers
  else numberPositions numbers

theorem lt_of_mem_remainingPositions {numbers : List (Option Float)} {qs : List (Option Nat)}
    (h : remainingPositions n numbers = .ok qs) (hp : some p ∈ qs) : p < n := by
  obtain ⟨dropped, -, h⟩ := except_bind_eq_ok.mp h
  cases h
  obtain ⟨q, hq, heq⟩ := List.mem_map.mp hp
  cases heq
  exact List.mem_range.mp (List.mem_of_mem_filter hq)

/-- Numbers name the same positions when there is just room for them. -/
theorem numberedPositions_extent {numbers : List (Option Float)}
    (h : numberedPositions n numbers = .ok (ps.map some)) :
    numberedPositions (extent ps n) numbers = .ok (ps.map some) := by
  unfold numberedPositions at h ⊢
  dsimp only at h ⊢
  split at h
  · cases h
  · next hmixed =>
    rw [if_neg hmixed]
    split at h
    · next hnegative =>
      -- What is left over stands among the elements that there are.
      have hroom : extent ps n = n :=
        Nat.le_antisymm (extent_le (Nat.le_refl n) fun p hp =>
          lt_of_mem_remainingPositions h (List.mem_map_of_mem hp)) (le_extent ps n)
      rw [if_pos hnegative, hroom, h]
    · next hnegative => rw [if_neg hnegative, h]

theorem lt_of_mem_maskPositions {mask : List (Option Bool)}
    (h : some p ∈ maskPositions n mask) : p < max n mask.length := by
  cases mask with
  | nil => cases h
  | cons b bs =>
    obtain ⟨i, hi, hp⟩ := List.mem_filterMap.mp h
    rw [List.mem_range, List.size_toArray] at hi
    split at hp <;> cases hp
    exact hi

/-- A mask is repeated over as many elements as there are, or over its own length. -/
theorem maskPositions_congr {m : Nat} {mask : List (Option Bool)}
    (h : max m mask.length = max n mask.length) : maskPositions m mask = maskPositions n mask := by
  cases mask with
  | nil => rfl
  | cons b bs =>
    unfold maskPositions
    simp only [List.size_toArray, h]

theorem maskPositions_extent {mask : List (Option Bool)}
    (h : maskPositions n mask = ps.map some) : maskPositions (extent ps n) mask = ps.map some := by
  have hlow := le_extent ps n
  have hhigh : extent ps n ≤ max n mask.length := extent_le (by omega) fun p hp => by
    refine lt_of_mem_maskPositions ?_
    rw [h]
    exact List.mem_map_of_mem hp
  rw [← h]
  exact maskPositions_congr (by omega)

theorem namePosition?_append {ns more : List String} {key : Option String}
    (h : namePosition? ns key = some p) : namePosition? (ns ++ more) key = some p := by
  obtain ⟨k, rfl, hk⟩ := Option.bind_eq_some_iff.mp h
  rw [namePosition?, Option.bind_some, List.findIdx?_append, hk]
  rfl

theorem map_namePosition?_append {ns more : List String} {keys : List (Option String)}
    (h : keys.map (namePosition? ns) = ps.map some) :
    keys.map (namePosition? (ns ++ more)) = ps.map some := by
  rw [← h]
  refine List.map_congr_left fun key hkey => ?_
  have hmem : namePosition? ns key ∈ ps.map some := h ▸ List.mem_map_of_mem hkey
  obtain ⟨p, -, hp⟩ := List.mem_map.mp hmem
  rw [← hp, namePosition?_append hp.symm]

/-- An index names the same positions in a list in which items were put there. -/
theorem positions_placed (h : positions (list values names) index = .ok (ps.map some))
    (hnew : new.length = extent ps values.length) (more : List String) :
    positions (list new (names.map (· ++ more))) index = .ok (ps.map some) := by
  cases index with
  | null => exact h
  | character keys =>
    have hkeys : keys.map (namePosition? (names.getD [])) = ps.map some := Except.ok.inj h
    refine congrArg Except.ok ?_
    cases names with
    | none => exact hkeys
    | some ns => exact map_namePosition?_append hkeys
  | logical mask =>
    have hmask : maskPositions values.length mask = ps.map some := Except.ok.inj h
    refine congrArg Except.ok ?_
    rw [length, hnew]
    exact maskPositions_extent hmask
  | integer w =>
    have hnumbers :
        numberedPositions values.length (w.map (·.map intToFloat)) = .ok (ps.map some) := h
    show numberedPositions new.length (w.map (·.map intToFloat)) = .ok (ps.map some)
    rw [hnew]
    exact numberedPositions_extent hnumbers
  | double w =>
    have hnumbers : numberedPositions values.length w = .ok (ps.map some) := h
    show numberedPositions new.length w = .ok (ps.map some)
    rw [hnew]
    exact numberedPositions_extent hnumbers
  | _ => cases h

/-! ### Reading -/

theorem subset_of_positions (h : positions (list new names) index = .ok (ps.map some)) :
    ∃ names', (list new names).subset index =
      .ok (list (ps.map fun p => new[p]?.getD null) names') := by
  rw [subset, h]
  refine ⟨_, congrArg Except.ok (congrArg₂ list ?_ rfl)⟩
  rw [List.map_map]
  refine List.map_congr_left fun p _ => ?_
  rw [Function.comp_apply, at?, Option.bind_some, List.getElem?_toArray]

/-! ### Replacing and reading -/

/-- What becomes of a value when items are put at positions: in a list null stands for new elements,
and their names are empty; a vector is put together from its elements, `NA` standing for new
ones. -/
inductive Replaced (items : List RValue) (ps : List Nat) : RValue → RValue → Prop
  | list {values : List RValue} {names : Option (List String)} {new : List RValue}
      (hnew : Placed values items null ps new) :
      Replaced items ps (list values names)
        (list new (names.map (· ++ List.replicate (new.length - values.length) "")))
  | vector {x y : RValue} {new : List RValue} (hx : ∀ values names, x ≠ RValue.list values names)
      (hnew : Placed x.split items (logical [none]) ps new) (hy : combine new = .ok y) :
      Replaced items ps x y

theorem replaced_of_replaceAt {items : List RValue} (hitems : items ≠ [])
    (hnames : ∀ ns ∈ x.names?, ns.length = x.length) (h : x.replaceAt ps items = .ok y) :
    Replaced items ps x y ∧ y.length = extent ps x.length := by
  by_cases hx : ∃ values names, x = list values names
  · obtain ⟨values, names, rfl⟩ := hx
    obtain ⟨new, hnew, -, rfl⟩ := exists_of_replaceAt_list hitems hnames h
    exact ⟨.list hnew, hnew.length⟩
  · have hx : ∀ values names, x ≠ list values names := fun values names heq =>
      hx ⟨values, names, heq⟩
    obtain ⟨new, hnew, hsingle, hy⟩ := exists_of_replaceAt_vector hitems hx h
    refine ⟨.vector hx hnew hy, ?_⟩
    have hones : new.map length = new.map fun _ => 1 := List.map_congr_left hsingle
    rw [length_combine hy, hones, List.map_const', List.sum_replicate_nat, Nat.mul_one,
      hnew.length, length_split]

/-- A replacement puts the elements of `v`, repeated, at the positions that the index names in `x`.
If there are none it changes nothing, else there is room for the greatest of them. In a list, an
index of distinct positions then reads what was put there. -/
theorem setSubset_places (hnames : ∀ ns ∈ x.names?, ns.length = x.length)
    (h : x.setSubset index v = .ok y) :
    ∃ ps, x.positions index = .ok (ps.map some) ∧
      (ps = [] → y = x) ∧
      (ps ≠ [] → v.split ≠ [] ∧ Replaced v.split ps x y) ∧
      (∀ top, ps.max? = some top → y.length = max x.length (top + 1)) ∧
      (∀ values names, x = list values names → ps.Nodup →
        ∃ selected names', y.subset index = .ok (list selected names') ∧
          selected.length = ps.length ∧
          ∀ k < ps.length, selected[k]? = v.split[k % v.split.length]?) := by
  obtain ⟨ps, hps, hnone, hsome⟩ := exists_of_setSubset h
  have hreplaced (hne : ps ≠ []) : Replaced v.split ps x y ∧ y.length = extent ps x.length :=
    replaced_of_replaceAt (hsome hne).1 hnames (hsome hne).2
  refine ⟨ps, hps, hnone, fun hne => ⟨(hsome hne).1, (hreplaced hne).1⟩, fun top htop => ?_, ?_⟩
  · have hne : ps ≠ [] := by
      rintro rfl
      cases htop
    rw [(hreplaced hne).2, extent_of_max? htop]
  · rintro values names rfl hnodup
    by_cases hne : ps = []
    · rw [hnone hne]
      obtain ⟨names', hsubset⟩ := subset_of_positions hps
      refine ⟨_, names', hsubset, List.length_map _, fun k hk => ?_⟩
      rw [hne] at hk
      cases hk
    · obtain ⟨new, hnew, -, rfl⟩ := exists_of_replaceAt_list (hsome hne).1 hnames (hsome hne).2
      obtain ⟨names', hsubset⟩ := subset_of_positions (positions_placed hps hnew.length
        (List.replicate (new.length - values.length) ""))
      refine ⟨_, names', hsubset, List.length_map _, fun k hk => ?_⟩
      have hroom : ps[k] < new.length := hnew.length ▸ lt_extent (List.getElem_mem hk)
      have hk : ps[k]? = some ps[k] := List.getElem?_eq_getElem hk
      rw [List.getElem?_map, hk, Option.map_some, ← hnew.getElem?_of_nodup hnodup hk,
        List.getElem?_eq_getElem hroom, Option.getD_some]

/-- By a mask that is longer than the list, in which the last two elements are new. -/
theorem setSubset_places_mask :
    let x := list [ofInt32 1] (some ["a"])
    let y := list [ofInt32 1, string "u", string "w"] (some ["a", "", ""])
    let mask := logical [some false, some true, some true]
    (x.setSubset mask (strings ["u", "w"]) = .ok y ∧ ["a"].length = x.length) ∧
    x.positions mask = .ok [some 1, some 2] ∧
    Replaced [string "u", string "w"] [1, 2] x y ∧ y.length = max x.length (2 + 1) ∧
    ∃ selected names', y.subset mask = .ok (list selected names') ∧ selected.length = 2 ∧
      ∀ k < 2, selected[k]? = [string "u", string "w"][k % 2]? := by
  intro x y mask
  have hy : x.setSubset mask (strings ["u", "w"]) = .ok y := rfl
  have hnames : ∀ ns ∈ x.names?, ns.length = x.length := fun ns hns => by
    cases hns
    rfl
  obtain ⟨ps, hps, -, hreplaced, hlength, hread⟩ := setSubset_places hnames hy
  obtain rfl : ps = [1, 2] := by
    have hmap : [1, 2].map some = ps.map some := Except.ok.inj hps
    exact (List.map_inj_right fun _ _ => Option.some.inj).mp hmap.symm
  exact ⟨⟨hy, rfl⟩, hps, (hreplaced (List.cons_ne_nil _ _)).2, hlength 2 rfl,
    hread _ _ rfl (by decide)⟩

end ScriptBridge.RValue
