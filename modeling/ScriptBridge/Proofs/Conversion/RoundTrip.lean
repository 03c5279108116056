import ScriptBridge.Proofs.Conversion.Doubles
import ScriptBridge.Proofs.Except

/-!
# Values there and back

`exists_toRValue_iff`: a host value has a script value exactly when it is `Encodable`.
`toValue_of_toRValue`: the script value reads back as the host value it came from.

A list takes one of two ways, a vector or a generic list, and the two never meet: a vector of
another length than one reads back as the list of its elements (`toValue_of_toVector`), and only
lists of another length than one become vectors (`listKind?_eq_some`). Generic lists and maps go
element by element (`itemsToRValues_eq_ok`, `elementsToValues_eq_ok` and their counterparts for
entries).
-/

namespace ScriptBridge

open List (Forall₂)

namespace Value

variable {v : Value} {n : Int64} {items : List Value} {entries : List (String × Value)}
  {kind : VectorKind} {seen : Option VectorKind} {xs : List RValue} {r : RValue}

/-! ### Integers -/

theorem toInt32_eq_ok {i : Int32} :
    toInt32 n = .ok i ↔ Encodable (int n) ∧ Int32.ofInt n.toInt = i := by
  rw [encodable_int, toInt32]
  split
  · next h => simp [h]
  · next h => simp [h]

theorem toInt64_ofInt_toInt (h : Encodable (int n)) : (Int32.ofInt n.toInt).toInt64 = n := by
  obtain ⟨hlow, hhigh⟩ := encodable_int.mp h
  apply Int64.toInt_inj.mp
  rw [Int32.toInt_toInt64]
  exact Int32.toInt_ofInt_of_le (by omega) (by omega)

/-! ### Vectors -/

/-- An item of a list that becomes a vector of a kind. -/
def FitsKind (kind : VectorKind) (v : Value) : Prop := v = null ∨ v.vectorKind? = some kind

theorem commonKindFrom?_eq_some (h : commonKindFrom? seen items = some kind) :
    (∀ k, seen = some k → k = kind) ∧ ∀ v ∈ items, FitsKind kind v := by
  fun_induction commonKindFrom? seen items with
  | case1 seen =>
    refine ⟨fun k hk => ?_, List.forall_mem_nil _⟩
    simpa [hk] using h
  | case2 seen vs ih =>
    exact ⟨(ih h).1, List.forall_mem_cons.mpr ⟨.inl rfl, (ih h).2⟩⟩
  | case3 => cases h
  | case6 => cases h
  | case4 v vs hnull k hk ih =>
    have hkind : k = kind := (ih h).1 k rfl
    exact ⟨fun _ hnone => (nomatch hnone),
      List.forall_mem_cons.mpr ⟨.inr (hkind ▸ hk), (ih h).2⟩⟩
  | case5 v vs hnull k hk ih =>
    have hkind : k = kind := (ih h).1 k rfl
    exact ⟨(ih h).1, List.forall_mem_cons.mpr ⟨.inr (hkind ▸ hk), (ih h).2⟩⟩

theorem listKind?_eq_some (h : listKind? items = some kind) :
    items.length ≠ 1 ∧ ∀ v ∈ items, FitsKind kind v := by
  rw [listKind?] at h
  split at h
  · cases h
  · next hlen => exact ⟨hlen, (commonKindFrom?_eq_some h).2⟩

/-- A vector reads back as the list of its elements, if it has not exactly one. -/
theorem vectorToValue_eq_list {α : Type} {scalar : α → Value} {es : List (Option α)}
    (hlen : items.length ≠ 1) (h : es.map (fun e => (e.map scalar).getD null) = items) :
    RValue.vectorToValue scalar es = list items := by
  rw [RValue.vectorToValue, h]
  split
  · next x => exact absurd rfl hlen
  · rfl

theorem map_eq_self {f : Value → Value} (h : ∀ v ∈ items, f v = v) : items.map f = items :=
  (List.map_congr_left h).trans (List.map_id _)

/-- The elements of an integer vector, and the items that they read back as. -/
theorem integerElement_eq_ok {e : Option Int32} (hv : FitsKind .integer v)
    (h : integerElement v = .ok e) :
    Encodable v ∧ (e.map fun i => int i.toInt64).getD null = v := by
  obtain rfl | hv := hv
  · cases h
    exact ⟨encodable_null, rfl⟩
  · cases v with
    | int n =>
      obtain ⟨i, hi, rfl⟩ := except_map_eq_ok.mp h
      obtain ⟨hn, rfl⟩ := toInt32_eq_ok.mp hi
      exact ⟨hn, congrArg int (toInt64_ofInt_toInt hn)⟩
    | _ => cases hv

theorem exists_integerElement (h : Encodable v) : ∃ e, integerElement v = .ok e := by
  cases v with
  | int n => exact ⟨_, except_map_eq_ok.mpr ⟨_, toInt32_eq_ok.mpr ⟨h, rfl⟩, rfl⟩⟩
  | _ => exact ⟨none, rfl⟩

theorem encodable_of_fitsKind (hkind : kind ≠ .integer) (h : FitsKind kind v) : Encodable v := by
  obtain rfl | h := h
  · exact encodable_null
  · cases v with
    | int n => exact absurd (Option.some.inj h).symm hkind
    | bool b => exact encodable_bool b
    | float x => exact encodable_float x
    | str s => exact encodable_str s
    | _ => cases h

theorem exists_toVector_iff (h : ∀ v ∈ items, FitsKind kind v) :
    (∃ r, toVector kind items = .ok r) ↔ ∀ v ∈ items, Encodable v := by
  cases kind with
  | integer =>
    simp only [toVector, except_map_eq_ok, mapM_eq_ok]
    constructor
    · rintro ⟨_, es, hes, rfl⟩ v hv
      obtain ⟨e, he⟩ := exists_forall₂.mp ⟨es, hes⟩ v hv
      exact (integerElement_eq_ok (h v hv) he).1
    · intro henc
      obtain ⟨es, hes⟩ := exists_forall₂.mpr fun v hv => exists_integerElement (henc v hv)
      exact ⟨_, es, hes, rfl⟩
  | _ => exact ⟨fun _ v hv => encodable_of_fitsKind (by decide) (h v hv), fun _ => ⟨_, rfl⟩⟩

theorem toValue_of_toVector (hlen : items.length ≠ 1) (hfits : ∀ v ∈ items, FitsKind kind v)
    (h : toVector kind items = .ok r) : r.toValue = .ok (list items) := by
  cases kind with
  | integer =>
    obtain ⟨es, hes, rfl⟩ := except_map_eq_ok.mp h
    have hboth := (List.forall₂_and_left _ _).mpr ⟨hfits, mapM_eq_ok.mp hes⟩
    have hback := hboth.imp fun v e hv => (integerElement_eq_ok hv.1 hv.2).2
    refine congrArg Except.ok (vectorToValue_eq_list hlen ?_)
    rw [← List.forall₂_eq_eq_eq, List.forall₂_map_left_iff]
    exact hback.flip
  | logical | double | character =>
    cases h
    refine congrArg Except.ok (vectorToValue_eq_list hlen ?_)
    rw [List.map_map]
    refine map_eq_self fun v hv => ?_
    obtain rfl | hv := hfits v hv
    · rfl
    · cases v <;> first | rfl | cases hv

/-! ### Generic lists and maps -/

theorem itemsToRValues_eq_ok {position : Nat} :
    itemsToRValues position items = .ok xs ↔ Forall₂ (fun v x => v.toRValue = .ok x) items xs := by
  induction items generalizing position xs with
  | nil => rw [itemsToRValues, List.forall₂_nil_left_iff, Except.ok.injEq, eq_comm]
  | cons v items ih =>
    simp only [itemsToRValues, except_bind_eq_ok, except_mapError_eq_ok, except_pure_eq_ok, ih,
      List.forall₂_cons_left_iff]
    grind

theorem entriesToRValues_eq_ok :
    entriesToRValues entries = .ok xs ↔
      Forall₂ (fun e x => e.1 ≠ "" ∧ e.2.toRValue = .ok x) entries xs := by
  induction entries generalizing xs with
  | nil => rw [entriesToRValues, List.forall₂_nil_left_iff, Except.ok.injEq, eq_comm]
  | cons e entries ih =>
    rw [entriesToRValues, List.forall₂_cons_left_iff]
    split
    · next hkey => simp [hkey]
    · next hkey =>
      simp only [except_bind_eq_ok, except_mapError_eq_ok, except_pure_eq_ok, ih]
      grind

theorem toRValue_list_generic (h : listKind? items = none) :
    toRValue (list items) = .ok r ↔
      ∃ xs, Forall₂ (fun v x => v.toRValue = .ok x) items xs ∧ RValue.list xs none = r := by
  rw [toRValue, h]
  simp only [except_bind_eq_ok, except_pure_eq_ok, itemsToRValues_eq_ok]

theorem toRValue_list_vector (h : listKind? items = some kind) :
    toRValue (list items) = toVector kind items := by
  rw [toRValue, h]

theorem toRValue_map :
    toRValue (map entries) = .ok r ↔
      ∃ xs, Forall₂ (fun e x => e.1 ≠ "" ∧ e.2.toRValue = .ok x) entries xs ∧
        RValue.list xs (some (entries.map (·.1))) = r := by
  rw [toRValue]
  simp only [except_bind_eq_ok, except_pure_eq_ok, entriesToRValues_eq_ok]

/-! ### Acceptance -/

theorem exists_toRValue_iff (v : Value) : (∃ r, v.toRValue = .ok r) ↔ Encodable v := by
  induction v using byParts with
  | null => exact ⟨fun _ => encodable_null, fun _ => ⟨_, rfl⟩⟩
  | bool b => exact ⟨fun _ => encodable_bool b, fun _ => ⟨_, rfl⟩⟩
  | float x => exact ⟨fun _ => encodable_float x, fun _ => ⟨_, rfl⟩⟩
  | str s => exact ⟨fun _ => encodable_str s, fun _ => ⟨_, rfl⟩⟩
  | int n =>
    simp only [toRValue, except_map_eq_ok, toInt32_eq_ok]
    exact ⟨fun ⟨_, _, hn, _⟩ => hn.1, fun h => ⟨_, _, ⟨h, rfl⟩, rfl⟩⟩
  | list items ih =>
    rw [encodable_list]
    cases hkind : listKind? items with
    | some kind =>
      simp only [toRValue_list_vector hkind]
      exact exists_toVector_iff (listKind?_eq_some hkind).2
    | none =>
      simp only [toRValue_list_generic hkind]
      rw [← forall₂_congr ih, ← exists_forall₂]
      exact ⟨fun ⟨_, xs, hxs, _⟩ => ⟨xs, hxs⟩, fun ⟨xs, hxs⟩ => ⟨_, xs, hxs, rfl⟩⟩
  | map entries ih =>
    simp only [encodable_map, toRValue_map]
    have hentry : ∀ e ∈ entries,
        (∃ x, e.1 ≠ "" ∧ e.2.toRValue = .ok x) ↔ e.1 ≠ "" ∧ Encodable e.2 :=
      fun e he => by rw [exists_and_left, ih e he]
    rw [← forall₂_congr hentry, ← exists_forall₂]
    exact ⟨fun ⟨_, xs, hxs, _⟩ => ⟨xs, hxs⟩, fun ⟨xs, hxs⟩ => ⟨_, xs, hxs, rfl⟩⟩

end Value

namespace RValue

variable {xs : List RValue} {values : List Value} {entries : List (String × Value)}

theorem elementsToValues_eq_ok {position : Nat} :
    elementsToValues position xs = .ok values ↔
      Forall₂ (fun x v => x.toValue = .ok v) xs values := by
  induction xs generalizing position values with
  | nil => rw [elementsToValues, List.forall₂_nil_left_iff, Except.ok.injEq, eq_comm]
  | cons x xs ih =>
    simp only [elementsToValues, except_bind_eq_ok, except_mapError_eq_ok, except_pure_eq_ok, ih,
      List.forall₂_cons_left_iff]
    grind

theorem namedToValues_eq_ok {position : Nat}
    (h : Forall₂ (fun e x => e.1 ≠ "" ∧ x.toValue = .ok e.2) entries xs) :
    namedToValues position (entries.map (·.1)) xs = .ok entries := by
  induction h generalizing position with
  | nil => rfl
  | @cons e x entries xs hhead _ ih =>
    obtain ⟨hkey, hx⟩ := hhead
    simp only [namedToValues, List.map_cons, List.tail_cons, keyAt, if_neg hkey, hx, ih,
      Except.mapError, bind, Except.bind, pure, Except.pure]

end RValue

namespace Value

variable {items : List Value} {entries : List (String × Value)}

/-! ### The way back -/

theorem toValue_of_toRValue (v : Value) (h : v.Ordered) {r : RValue} (hr : v.toRValue = .ok r) :
    r.toValue = .ok v := by
  induction v using byParts generalizing r with
  | null | bool b | float x | str s =>
    cases hr
    rfl
  | int n =>
    obtain ⟨i, hi, rfl⟩ := except_map_eq_ok.mp hr
    obtain ⟨hn, rfl⟩ := toInt32_eq_ok.mp hi
    exact congrArg (fun m => Except.ok (int m)) (toInt64_ofInt_toInt hn)
  | list items ih =>
    cases hkind : listKind? items with
    | some kind =>
      obtain ⟨hlen, hfits⟩ := listKind?_eq_some hkind
      exact toValue_of_toVector hlen hfits (toRValue_list_vector hkind ▸ hr)
    | none =>
      obtain ⟨xs, hxs, rfl⟩ := (toRValue_list_generic hkind).mp hr
      have hback : Forall₂ (fun v x => RValue.toValue x = .ok v) items xs :=
        ((List.forall₂_and_left _ _).mpr ⟨fun v hv => hv, hxs⟩).imp
          fun v x hv => ih v hv.1 (ordered_list.mp h v hv.1) hv.2
      rw [RValue.toValue, RValue.elementsToValues_eq_ok.mpr hback.flip]
      rfl
  | map entries ih =>
    obtain ⟨xs, hxs, rfl⟩ := toRValue_map.mp hr
    obtain ⟨hsorted, hparts⟩ := ordered_map.mp h
    have hback : Forall₂ (fun e x => e.1 ≠ "" ∧ RValue.toValue x = .ok e.2) entries xs :=
      ((List.forall₂_and_left _ _).mpr ⟨fun e he => he, hxs⟩).imp
        fun e x he => ⟨he.2.1, ih e he.1 (hparts e he.1) he.2.2⟩
    rw [RValue.toValue, RValue.namedToValues_eq_ok hback]
    exact congrArg (fun d => Except.ok (map d)) (Dict.ofList_of_sorted hsorted)

theorem toMap_of_toRValue (h : Ordered (map entries)) {r : RValue}
    (hr : (map entries).toRValue = .ok r) : r.toMap = .ok entries := by
  obtain ⟨xs, _, rfl⟩ := toRValue_map.mp hr
  have hback := toValue_of_toRValue (map entries) h hr
  rw [RValue.toValue] at hback
  obtain ⟨es, hes, hmap⟩ := except_bind_eq_ok.mp hback
  rw [except_pure_eq_ok, map.injEq] at hmap
  exact except_map_eq_ok.mpr ⟨es, hes, hmap⟩

/-- The conversion to a script succeeds exactly on the values without an empty key and without an
integer out of range, and what it yields reads back as the value it was given. Both ways carry
doubles without a look at them. -/
theorem toRValue_exact (v : Value) :
    ((∃ r, v.toRValue = .ok r) ↔ v.Encodable) ∧
      (v.Ordered → ∀ r, v.toRValue = .ok r → r.toValue = .ok v) ∧
      ∀ f : Float → Float,
        (v.changeFloats f).toRValue = v.toRValue.map (RValue.mapFloats f) ∧
        ∀ r, v.toRValue = .ok r → (r.mapFloats f).toValue = r.toValue.map (changeFloats f) :=
  ⟨exists_toRValue_iff v, fun h _ hr => toValue_of_toRValue v h hr,
    fun _ => ⟨toRValue_changeFloats v, fun r _ => RValue.toValue_mapFloats r⟩⟩

/-- Empty, missing, single and mixed items, nested in each other. -/
theorem toRValue_exact_nested :
    let v := list [
      map [("a", list []), ("b", list [null, null]), ("c", list [int 2147483647, null])],
      list [list [null]], list [float (0 / 0), float (-0.0)], null]
    v.Ordered ∧ ∃ r, v.toRValue = .ok r ∧ r.toValue = .ok v := by
  intro v
  have hsorted : Dict.Sorted [("a", list []), ("b", list [null, null]),
      ("c", list [int 2147483647, null])] := by
    unfold Dict.Sorted
    decide
  have hordered : v.Ordered := by
    simp [v, ordered_list, ordered_map, hsorted]
  have hvalue : v.toRValue = .ok (.list [.list [.logical [], .logical [none, none],
      .integer [some 2147483647, none]] (some ["a", "b", "c"]), .list [.list [.null] none] none,
      .double [some (0 / 0), some (-0.0)], .null] none) := rfl
  exact ⟨hordered, _, hvalue, (toRValue_exact v).2.1 hordered _ hvalue⟩

end Value

end ScriptBridge
