import Mathlib.Data.Finset.Card
import ScriptBridge.Proofs.Conversion.NamedElements

/-!
# How many elements of a list come back

A list with names reads back as a map, its elements without a name under their positions. Two
elements that are named differently can still come under one key, if one of them has no name and its
position is the name of the other; the map then holds the later one of the two. `toValue_length`
counts the entries of the map: of a list whose names are distinct, where it has names, each such
clash loses one element, and nothing else loses any. A list of two elements with one entry is
`toValue_loses`.
-/

namespace ScriptBridge

/-! ### The keys of a dictionary -/

namespace Dict

variable {α : Type} {d more entries : Dict α} {k key : String} {v : α}

theorem mem_keys_insert : k ∈ (insert key v d).map (·.1) ↔ k = key ∨ k ∈ d.map (·.1) := by
  induction d with
  | nil => simp [insert]
  | cons e d ih =>
    rw [insert]
    split
    · simp
    · split
      · next heq => simp [heq]
      · rw [List.map_cons, List.mem_cons, ih, List.map_cons, List.mem_cons]
        tauto

theorem mem_keys_merge : k ∈ (merge d more).map (·.1) ↔ k ∈ d.map (·.1) ∨ k ∈ more.map (·.1) := by
  induction more generalizing d with
  | nil => simp [merge]
  | cons e more ih =>
    rw [merge_cons, ih, mem_keys_insert, List.map_cons, List.mem_cons]
    tauto

/-- A dictionary has an entry for each key of the entries that it is made of. -/
theorem length_ofList (entries : List (String × α)) :
    (ofList entries).length = (entries.map (·.1)).toFinset.card := by
  have hkeys : ((ofList entries).map (·.1)).toFinset = (entries.map (·.1)).toFinset := by
    ext k
    rw [List.mem_toFinset, List.mem_toFinset, ofList, mem_keys_merge]
    simp
  rw [← hkeys, List.toFinset_card_of_nodup (sorted_ofList entries).nodup, List.length_map]

end Dict

namespace RValue

variable {values : List RValue} {names : List String} {entries : List (String × Value)}
  {i : Nat}

/-! ### Keys and clashes -/

/-- The elements without a name, counted from zero. -/
def unnamed (names : List String) : Finset Nat :=
  (Finset.range names.length).filter fun i => names[i]? = some ""

/-- The elements with a name, counted from zero. -/
def named (names : List String) : Finset Nat :=
  (Finset.range names.length).filter fun i => ¬names[i]? = some ""

/-- The elements without a name, counted from zero, whose position, counted from one, is the name of
another element. -/
def clashes (names : List String) : Finset Nat :=
  (unnamed names).filter fun i => toString (i + 1) ∈ names

theorem toString_ne_empty (n : Nat) : toString n ≠ "" := by
  have hkey : keyAt n [] ≠ "" := keyAt_ne_empty
  exact hkey

theorem mem_unnamed : i ∈ unnamed names ↔ names[i]? = some "" := by
  rw [unnamed, Finset.mem_filter, Finset.mem_range, and_iff_right_iff_imp]
  exact fun h => (List.getElem?_eq_some_iff.mp h).1

theorem mem_named : i ∈ named names ↔ ∃ k, names[i]? = some k ∧ k ≠ "" := by
  rw [named, Finset.mem_filter, Finset.mem_range]
  constructor
  · rintro ⟨hlt, hne⟩
    rw [List.getElem?_eq_getElem hlt] at hne
    exact ⟨_, List.getElem?_eq_getElem hlt, fun hempty => hne (congrArg some hempty)⟩
  · rintro ⟨k, hname, hk⟩
    refine ⟨(List.getElem?_eq_some_iff.mp hname).1, fun hempty => hk ?_⟩
    exact Option.some.inj (hname.symm.trans hempty)

theorem keyOf_of_unnamed (h : i ∈ unnamed names) : keyOf names i = toString (i + 1) := by
  obtain ⟨hi, hname⟩ := List.getElem?_eq_some_iff.mp (mem_unnamed.mp h)
  rw [keyOf, List.drop_eq_getElem_cons hi, keyAt, hname, if_pos rfl]

theorem map_fst_of_namedToValues (h : namedToValues 1 names values = .ok entries) :
    entries.map (·.1) = (List.range values.length).map (keyOf names) := by
  obtain ⟨hvalues, hkeys⟩ := of_namedToValues h
  apply List.ext_getElem?
  intro i
  rw [List.getElem?_map, List.getElem?_map, hvalues.length_eq]
  by_cases hi : i < entries.length
  · rw [List.getElem?_range hi, List.getElem?_eq_getElem hi, Option.map_some, Option.map_some,
      hkeys i _ (List.getElem?_eq_getElem hi), keyOf, Nat.add_comm]
  · rw [List.getElem?_eq_none (by omega), List.getElem?_eq_none (by simpa using hi)]
    rfl

/-! ### Counting the keys -/

theorem injOn_unnamed : Set.InjOn (keyOf names) (unnamed names) := by
  intro i hi j hj heq
  rw [keyOf_of_unnamed hi, keyOf_of_unnamed hj] at heq
  exact Nat.succ_injective (Nat.repr_injective heq)

/-- Where the names are distinct, no two elements have the same one. -/
theorem injOn_named (hdistinct : (names.filter (· ≠ "")).Nodup) :
    Set.InjOn (keyOf names) (named names) := by
  intro i hi j hj heq
  obtain ⟨k, hik, hk⟩ := mem_named.mp hi
  obtain ⟨l, hjl, hl⟩ := mem_named.mp hj
  rw [keyOf_of_getElem? hik hk, keyOf_of_getElem? hjl hl] at heq
  obtain ⟨hilt, rfl⟩ := List.getElem?_eq_some_iff.mp hik
  obtain ⟨hjlt, rfl⟩ := List.getElem?_eq_some_iff.mp hjl
  have hpairs := List.pairwise_iff_getElem.mp (List.pairwise_filter.mp hdistinct)
  rcases Nat.lt_trichotomy i j with hlt | heq' | hlt
  · exact absurd heq (hpairs i j hilt hjlt hlt (by simpa using hk) (by simpa using hl))
  · exact heq'
  · exact absurd heq.symm (hpairs j i hjlt hilt hlt (by simpa using hl) (by simpa using hk))

/-- The keys that stand for an element with a name and for one without. -/
theorem image_named_inter_image_unnamed :
    (named names).image (keyOf names) ∩ (unnamed names).image (keyOf names) =
      (clashes names).image (keyOf names) := by
  ext k
  simp only [Finset.mem_inter, Finset.mem_image]
  constructor
  · rintro ⟨⟨j, hj, rfl⟩, i, hi, heq⟩
    obtain ⟨k, hjk, hk⟩ := mem_named.mp hj
    refine ⟨i, Finset.mem_filter.mpr ⟨hi, ?_⟩, heq⟩
    rw [← keyOf_of_unnamed hi, heq, keyOf_of_getElem? hjk hk]
    exact List.mem_of_getElem? hjk
  · rintro ⟨i, hi, rfl⟩
    obtain ⟨hi, hmem⟩ := Finset.mem_filter.mp hi
    obtain ⟨j, hj⟩ := List.mem_iff_getElem?.mp hmem
    refine ⟨⟨j, mem_named.mpr ⟨_, hj, toString_ne_empty _⟩, ?_⟩, i, hi, rfl⟩
    rw [keyOf_of_getElem? hj (toString_ne_empty _), keyOf_of_unnamed hi]

/-- Each clash makes one key do for two elements, and each other element has a key of its own. -/
theorem card_keys_add_clashes (hdistinct : (names.filter (· ≠ "")).Nodup) :
    ((Finset.range names.length).image (keyOf names)).card + (clashes names).card =
      names.length := by
  have hall : (Finset.range names.length).image (keyOf names) =
      (named names).image (keyOf names) ∪ (unnamed names).image (keyOf names) := by
    rw [← Finset.image_union, Finset.union_comm, unnamed, named,
      Finset.filter_union_filter_not_eq]
  have hclashes : Set.InjOn (keyOf names) (clashes names) :=
    injOn_unnamed.mono (Finset.coe_subset.mpr (Finset.filter_subset _ _))
  have hparts : (unnamed names).card + (named names).card = names.length := by
    rw [unnamed, named, Finset.card_filter_add_card_filter_not, Finset.card_range]
  -- Elements with a name and elements without one have keys of their own; only keys in common count
  -- twice.
  have hkeys := Finset.card_union_add_card_inter ((named names).image (keyOf names))
    ((unnamed names).image (keyOf names))
  rw [image_named_inter_image_unnamed, ← hall, Finset.card_image_of_injOn hclashes,
    Finset.card_image_of_injOn (injOn_named hdistinct),
    Finset.card_image_of_injOn injOn_unnamed] at hkeys
  omega

theorem clashes_eq_empty :
    clashes names = ∅ ↔ ∀ i, names[i]? = some "" → toString (i + 1) ∉ names := by
  rw [clashes, Finset.filter_eq_empty_iff]
  exact forall_congr' fun i => imp_congr_left mem_unnamed

/-! ### Counting the entries -/

/-- The map of the elements of a list whose names are distinct has an entry for each element that is
not lost in a clash. -/
theorem length_ofList_namedToValues (hlength : names.length = values.length)
    (hdistinct : (names.filter (· ≠ "")).Nodup)
    (h : namedToValues 1 names values = .ok entries) :
    (Dict.ofList entries).length + (clashes names).card = values.length := by
  have hkeys : (entries.map (·.1)).toFinset = (Finset.range names.length).image (keyOf names) := by
    rw [map_fst_of_namedToValues h, ← hlength]
    ext k
    simp
  rw [Dict.length_ofList, hkeys, card_keys_add_clashes hdistinct, hlength]

/-- A list whose names are distinct, where it has names, reads back as a map with as many entries as
the list has elements, less the elements without a name whose position is the name of another one.
So no element is lost exactly if there is no such element. -/
theorem toValue_length (hlength : names.length = values.length)
    (hdistinct : (names.filter (· ≠ "")).Nodup) :
    (∀ v, (list values (some names)).toValue = .ok v → ∃ m : Dict Value, v = .map m ∧
      m.length + (clashes names).card = values.length ∧
      (m.length = values.length ↔ ∀ i, names[i]? = some "" → toString (i + 1) ∉ names)) ∧
    (∀ m, (list values (some names)).toMap = .ok m →
      m.length + (clashes names).card = values.length ∧
      (m.length = values.length ↔ ∀ i, names[i]? = some "" → toString (i + 1) ∉ names)) := by
  have hcount {entries} (h : namedToValues 1 names values = .ok entries) :
      (Dict.ofList entries).length + (clashes names).card = values.length ∧
      ((Dict.ofList entries).length = values.length ↔
        ∀ i, names[i]? = some "" → toString (i + 1) ∉ names) := by
    have hsum := length_ofList_namedToValues hlength hdistinct h
    refine ⟨hsum, ?_⟩
    rw [← clashes_eq_empty, ← Finset.card_eq_zero]
    omega
  constructor
  · intro v h
    obtain ⟨entries, hentries, hv⟩ := except_bind_eq_ok.mp h
    exact ⟨_, (except_pure_eq_ok.mp hv).symm, hcount hentries⟩
  · intro m h
    obtain ⟨entries, hentries, hm⟩ := except_bind_eq_ok.mp h
    obtain rfl := except_pure_eq_ok.mp hm
    exact hcount hentries

/-- Two names, three elements without one, and one of these lost: the fourth element comes under the
name of the second. -/
theorem toValue_length_clash :
    let values := [ofInt32 1, ofInt32 2, ofInt32 3, ofInt32 4, ofInt32 5]
    let names := ["a", "4", "", "", ""]
    let m : Dict Value := [("3", .int 3), ("4", .int 4), ("5", .int 5), ("a", .int 1)]
    (names.length = values.length ∧ (names.filter (· ≠ "")).Nodup ∧
      (list values (some names)).toValue = .ok (.map m) ∧
      (list values (some names)).toMap = .ok m) ∧
    clashes names = {3} ∧ m.length + 1 = values.length := by
  intro values names m
  have hdistinct : (names.filter (· ≠ "")).Nodup := by decide
  have hvalue : (list values (some names)).toValue = .ok (.map m) := by
    simp only [values, names, m]
    rfl
  have hmap : (list values (some names)).toMap = .ok m := by
    simp only [values, names, m]
    rfl
  have hclashes : clashes names = {3} := by decide
  have hcount := ((toValue_length (rfl : names.length = values.length) hdistinct).2 m hmap).1
  rw [hclashes, Finset.card_singleton] at hcount
  exact ⟨⟨rfl, hdistinct, hvalue, hmap⟩, hclashes, hcount⟩

/-- A list of two elements, one of them named, with one entry: the element without a name has taken
the place of the one that is named by its position. -/
theorem toValue_loses :
    let r := list [ofInt32 1, ofInt32 2] (some ["2", ""])
    (["2", ""].filter (· ≠ "")).Nodup ∧
    r.toValue = .ok (.map [("2", .int 2)]) ∧ r.toMap = .ok [("2", .int 2)] ∧
    [("2", Value.int 2)].length ≠ [ofInt32 1, ofInt32 2].length :=
  ⟨by decide, rfl, rfl, by decide⟩

end RValue

end ScriptBridge
