import Mathlib.Data.Nat.Find
import ScriptBridge.Proofs.Conversion.Readback
import ScriptBridge.Proofs.RValue.NamedList

/-!
# Which element a name stands for

A script that reads a list by a name gets the first element of that name. The host, which puts the
elements into a map one after the other, keeps the last one under a key, where an element without a
name counts under its position. `RValue.toValue_named` says which elements these are and that the
two sides agree exactly if both read back as the same; they differ on a name that occurs twice and
on a name that is the position of a later element without one (`RValue.toValue_named_differs`).
-/

namespace ScriptBridge.RValue

open List (Forall₂)

variable {k : String} {values : List RValue} {names : List String} {m : Dict Value} {i j : Nat}
  {entries : List (String × Value)}

/-! ### Keys of elements -/

/-- The key of the element at a position, from zero: its name, or its position from one if it has
none. -/
def keyOf (names : List String) (i : Nat) : String := keyAt (i + 1) (names.drop i)

structure IsLastUnder (k : String) (names : List String) (values : List RValue) (i : Nat) :
    Prop where
  lt : i < values.length
  key : keyOf names i = k
  last : ∀ j, i < j → j < values.length → keyOf names j ≠ k

theorem keyOf_of_getElem? (h : names[i]? = some k) (hk : k ≠ "") : keyOf names i = k := by
  obtain ⟨hi, hname⟩ := List.getElem?_eq_some_iff.mp h
  rw [keyOf, List.drop_eq_getElem_cons hi, keyAt, hname, if_neg hk]

theorem exists_isLastUnder (hi : i < values.length) (hkey : keyOf names i = k) :
    ∃ j, i ≤ j ∧ IsLastUnder k names values j := by
  let last := Nat.findGreatest (fun j => keyOf names j = k) (values.length - 1)
  have hle : i ≤ values.length - 1 := by omega
  have hlast : last ≤ values.length - 1 := Nat.findGreatest_le _
  refine ⟨last, Nat.le_findGreatest hle hkey, by omega, ?_, fun j hj hlt => ?_⟩
  · exact Nat.findGreatest_spec (P := fun j => keyOf names j = k) hle hkey
  · exact Nat.findGreatest_is_greatest hj (by omega)

theorem IsLastUnder.unique (h : IsLastUnder k names values i) (h' : IsLastUnder k names values j) :
    i = j := by
  rcases Nat.lt_trichotomy i j with hlt | heq | hlt
  · exact absurd h'.key (h.last j hlt h'.lt)
  · exact heq
  · exact absurd h.key (h'.last i hlt h.lt)

/-! ### The element that the host keeps -/

/-- The dictionary of the elements holds, under a key, the last element under it. -/
theorem get?_of_isLastUnder (h : namedToValues 1 names values = .ok entries)
    (hlast : IsLastUnder k names values i) : ∃ x v, values[i]? = some x ∧ x.toValue = .ok v ∧
      Dict.get? k (Dict.ofList entries) = some v := by
  obtain ⟨hvalues, hkeys⟩ := of_namedToValues h
  have hkeyOf (j : Nat) (e : String × Value) (he : entries[j]? = some e) :
      e.1 = keyOf names j := by
    rw [hkeys j e he, keyOf, Nat.add_comm]
  have hlength : i < entries.length := hvalues.length_eq ▸ hlast.lt
  obtain ⟨⟨key, v⟩, he⟩ : ∃ e, entries[i]? = some e := ⟨_, List.getElem?_eq_getElem hlength⟩
  obtain ⟨x, hx, hxv⟩ := forall₂_getElem? hvalues he
  obtain rfl : key = k := (hkeyOf i _ he).trans hlast.key
  have hafter : ∀ e ∈ entries.drop (i + 1), e.1 ≠ key := by
    intro e he
    obtain ⟨j, hj⟩ := List.mem_iff_getElem?.mp he
    rw [List.getElem?_drop] at hj
    obtain ⟨hlt, -⟩ := List.getElem?_eq_some_iff.mp hj
    rw [hkeyOf _ e hj]
    exact hlast.last _ (by omega) (hvalues.length_eq ▸ hlt)
  have hsplit : entries = entries.take i ++ (key, v) :: entries.drop (i + 1) := by
    obtain ⟨hlt, hentry⟩ := List.getElem?_eq_some_iff.mp he
    rw [← hentry, ← List.drop_eq_getElem_cons hlt, List.take_append_drop]
  refine ⟨x, v, hx, hxv, ?_⟩
  rw [hsplit]
  exact Dict.get?_ofList_of_last hafter v

/-! ### The element that the script reads -/

/-- What a script reads under a name that occurs is the first element of that name. -/
theorem exists_first (hlength : names.length = values.length) (hmem : k ∈ names) :
    ∃ first x, names.findIdx? (· = k) = some first ∧ names[first]? = some k ∧
      values[first]? = some x ∧ (list values (some names)).getNamed? k = some x := by
  cases hfound : names.findIdx? (· = k) with
  | none =>
    have hne := List.findIdx?_eq_none_iff.mp hfound k hmem
    simp at hne
  | some first =>
    obtain ⟨hlt, hname, -⟩ := List.findIdx?_eq_some_iff_getElem.mp hfound
    have hvalue := List.getElem?_eq_getElem (hlength ▸ hlt)
    refine ⟨first, _, rfl, ?_, hvalue, ?_⟩
    · rw [List.getElem?_eq_getElem hlt, of_decide_eq_true hname]
    · rw [getNamed?, lookup_eq hlength, hfound, Option.bind_some, hvalue]

/-! ### Both sides -/

/-- Of a list with a name for each element, the script reads under a name the first element of that
name, and the host has under it what the last element with that key reads back as. The two agree
exactly if both elements read back as the same, and they are one element if no element behind the
first one has the key. -/
theorem toValue_named (hlength : names.length = values.length)
    (h : (list values (some names)).toValue = .ok (.map m)) (hk : k ≠ "") (hmem : k ∈ names) :
    ∃ first last x y, names.findIdx? (· = k) = some first ∧ values[first]? = some x ∧
      (list values (some names)).getNamed? k = some x ∧
      (list values (some names)).dollar k = .ok x ∧
      first ≤ last ∧ IsLastUnder k names values last ∧ values[last]? = some y ∧
      (∃ v, y.toValue = .ok v ∧ m.get? k = some v) ∧
      ((∃ v, x.toValue = .ok v ∧ m.get? k = some v) ↔ x.toValue = y.toValue) ∧
      ((∀ j, first < j → j < values.length → keyOf names j ≠ k) → last = first) := by
  obtain ⟨entries, hentries, hm⟩ := except_bind_eq_ok.mp h
  obtain rfl := Value.map.inj (except_pure_eq_ok.mp hm)
  obtain ⟨first, x, hfirst, hname, hx, hread⟩ := exists_first hlength hmem
  have hkey : keyOf names first = k := keyOf_of_getElem? hname hk
  obtain ⟨hlt, -⟩ := List.getElem?_eq_some_iff.mp hx
  obtain ⟨last, hle, hlast⟩ := exists_isLastUnder hlt hkey
  obtain ⟨y, v, hy, hyv, hget⟩ := get?_of_isLastUnder hentries hlast
  have hdollar : (list values (some names)).dollar k = .ok x := by
    rw [dollar, hread, Option.getD_some]
  refine ⟨first, last, x, y, hfirst, hx, hread, hdollar, hle, hlast, hy, ⟨v, hyv, hget⟩, ?_, ?_⟩
  · rw [hyv]
    constructor
    · rintro ⟨w, hw, hgetw⟩
      rw [hw, Option.some.inj (hgetw.symm.trans hget)]
    · exact fun hxv => ⟨v, hxv, hget⟩
  · exact fun hnone => hlast.unique ⟨hlt, hkey, hnone⟩

/-- A name that occurs twice, with other elements between and behind. -/
theorem toValue_named_repeated :
    let values := [ofInt32 1, ofInt32 7, ofInt32 2, string "x"]
    let names := ["a", "b", "a", ""]
    let m : Dict Value := [("4", .str "x"), ("a", .int 2), ("b", .int 7)]
    (names.length = values.length ∧ (list values (some names)).toValue = .ok (.map m) ∧
      "a" ≠ "" ∧ "a" ∈ names) ∧
    (list values (some names)).dollar "a" = .ok (ofInt32 1) ∧
    ∃ last y v, IsLastUnder "a" names values last ∧ values[last]? = some y ∧
      y.toValue = .ok v ∧ m.get? "a" = some v := by
  intro values names m
  have hvalue : (list values (some names)).toValue = .ok (.map m) := by
    simp only [values, names, m]
    rfl
  have hk : "a" ≠ "" := by decide
  have hmem : "a" ∈ names := List.mem_cons_self
  obtain ⟨first, last, x, y, hfirst, hx, -, hdollar, -, hlast, hy, ⟨v, hv, hget⟩, -, -⟩ :=
    toValue_named (rfl : names.length = values.length) hvalue hk hmem
  cases hfirst
  cases hx
  exact ⟨⟨rfl, hvalue, hk, hmem⟩, hdollar, last, y, v, hlast, hy, hv, hget⟩

/-- The host has another element than the script reads: under a name that occurs twice, and under a
name that is the position of a later element without one. -/
theorem toValue_named_differs :
    let twice := list [ofInt32 1, ofInt32 2] (some ["a", "a"])
    let position := list [ofInt32 1, ofInt32 2] (some ["2", ""])
    (twice.dollar "a" = .ok (ofInt32 1) ∧ twice.toValue = .ok (.map [("a", .int 2)])) ∧
    (position.dollar "2" = .ok (ofInt32 1) ∧ position.toValue = .ok (.map [("2", .int 2)])) ∧
    (ofInt32 1).toValue = .ok (.int 1) ∧ (.int 1 : Value) ≠ .int 2 := by
  refine ⟨⟨rfl, rfl⟩, ⟨rfl, rfl⟩, rfl, fun h => ?_⟩
  have hints : (1 : Int64) = 2 := Value.int.inj h
  exact absurd hints (by decide)

end ScriptBridge.RValue
