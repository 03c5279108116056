import Mathlib.Data.List.InsertIdx
import ScriptBridge.Proofs.Dict
import ScriptBridge.RValue.Replace

/-!
# Named lists as lists of entries

A list with a name for each element is the `namedList` of its entries, in any order and with names
that may occur more than once. Reading an element by its name is looking up the first entry
(`getNamed?_namedList`), setting one replaces the first entry or adds one at the end (`putEntry`,
`setNamed_namedList`), and setting null removes the first entry (`dropEntry`,
`setNamed_null_namedList`). Indexing by a single text is the same as `$` (`element_string`,
`setElement_string`).
-/

namespace ScriptBridge.RValue

section Entries

variable {α : Type} {k key : String} {v : α} {es : List (String × α)}

/-- Entries with `v` under `key`: in the place of the first entry of the key, else at the end. -/
def putEntry (key : String) (v : α) : List (String × α) → List (String × α)
  | [] => [(key, v)]
  | e :: es => if e.1 = key then (key, v) :: es else e :: putEntry key v es

/-- Entries without the first one of a key. -/
def dropEntry (key : String) : List (String × α) → List (String × α)
  | [] => []
  | e :: es => if e.1 = key then es else e :: dropEntry key es

theorem mem_putEntry {e : String × α} (h : e ∈ putEntry key v es) : e = (key, v) ∨ e ∈ es := by
  induction es with
  | nil => exact .inl (List.mem_singleton.mp h)
  | cons x es ih =>
    rw [putEntry] at h
    split at h
    · exact (List.mem_cons.mp h).imp_right (List.mem_cons_of_mem _)
    · rcases List.mem_cons.mp h with rfl | h
      · exact .inr List.mem_cons_self
      · exact (ih h).imp_right (List.mem_cons_of_mem _)

theorem dropEntry_sublist : (dropEntry key es).Sublist es := by
  induction es with
  | nil => exact .slnil
  | cons e es ih =>
    rw [dropEntry]
    split
    · exact List.sublist_cons_self e es
    · exact ih.cons_cons e

theorem get?_putEntry (k key : String) (v : α) (es : List (String × α)) :
    Dict.get? k (putEntry key v es) = if key = k then some v else Dict.get? k es := by
  induction es with
  | nil => rfl
  | cons e es ih =>
    rw [putEntry]
    split
    · next he => by_cases hk : key = k <;> simp [Dict.get?_cons, he, hk]
    · next he =>
      rw [Dict.get?_cons, ih, Dict.get?_cons]
      by_cases hk : e.1 = k
      · rw [if_pos hk, if_pos hk, if_neg fun heq => he (hk.trans heq.symm)]
      · rw [if_neg hk, if_neg hk]

/-- After the first entry of a key is dropped there is none, if there is only one. -/
theorem get?_dropEntry (h : (es.map (·.1)).Nodup) (k key : String) :
    Dict.get? k (dropEntry key es) = if key = k then none else Dict.get? k es := by
  induction es with
  | nil => simp [dropEntry]
  | cons e es ih =>
    obtain ⟨hhead, htail⟩ := List.nodup_cons.mp h
    rw [dropEntry]
    split
    · next he =>
      by_cases hk : key = k
      · rw [if_pos hk]
        exact Dict.get?_eq_none_of_not_mem (hk ▸ he ▸ hhead)
      · rw [if_neg hk, Dict.get?_cons, if_neg (he ▸ hk)]
    · next he =>
      rw [Dict.get?_cons, ih htail, Dict.get?_cons]
      by_cases hk : e.1 = k
      · rw [if_pos hk, if_pos hk, if_neg fun heq => he (hk.trans heq.symm)]
      · rw [if_neg hk, if_neg hk]

theorem nodup_putEntry (h : (es.map (·.1)).Nodup) (key : String) (v : α) :
    ((putEntry key v es).map (·.1)).Nodup := by
  induction es with
  | nil => exact List.pairwise_singleton _ key
  | cons e es ih =>
    obtain ⟨hhead, htail⟩ := List.nodup_cons.mp h
    rw [putEntry]
    split
    · next he =>
      subst he
      exact h
    · next he =>
      refine List.nodup_cons.mpr ⟨fun hmem => ?_, ih htail⟩
      obtain ⟨x, hx, hxe⟩ := List.mem_map.mp hmem
      rcases mem_putEntry hx with rfl | hx
      · exact he hxe.symm
      · exact hhead (List.mem_map.mpr ⟨x, hx, hxe⟩)

end Entries

variable {k : String} {x v : RValue} {es : List (String × RValue)}

/-! ### Reading -/

/-- What is looked up by a name is the element at the first position of the name. -/
theorem lookup_eq {names : List String} {values : List RValue}
    (hlength : names.length = values.length) :
    lookup k names values = (names.findIdx? (· = k)).bind (values[·]?) := by
  induction names generalizing values with
  | nil => rfl
  | cons name names ih =>
    cases values with
    | nil => cases hlength
    | cons x values =>
      rw [lookup, List.findIdx?_cons]
      by_cases hk : name = k
      · simp [hk]
      · rw [if_neg hk, ih (Nat.succ.inj hlength), if_neg (by simpa using hk), Option.bind_map]
        rfl

theorem getNamed?_namedList (k : String) (es : List (String × RValue)) :
    (namedList es).getNamed? k = Dict.get? k es := by
  change lookup k (es.map (·.1)) (es.map (·.2)) = Dict.get? k es
  induction es with
  | nil => rfl
  | cons e es ih => rw [List.map_cons, List.map_cons, lookup, Dict.get?_cons, ih]

theorem dollar_namedList (k : String) (es : List (String × RValue)) :
    (namedList es).dollar k = .ok ((Dict.get? k es).getD null) := by
  rw [← getNamed?_namedList]
  rfl

/-- The position of the first entry of a key is where it is looked up. -/
theorem getElem?_findIdx? (k : String) (es : List (String × RValue)) :
    ((es.map (·.1)).findIdx? (· = k)).bind ((es.map (·.2))[·]?) = Dict.get? k es := by
  have hlength : (es.map (·.1)).length = (es.map (·.2)).length := by simp
  rw [← lookup_eq hlength, ← getNamed?_namedList]
  rfl

theorem element_string (k : String) (es : List (String × RValue)) :
    (namedList es).element (.string k) = (namedList es).dollar k := by
  have hposition : singlePosition (namedList es) (.string k) =
      .ok ((es.map (·.1)).findIdx? (· = k)) := rfl
  rw [dollar_namedList, ← getElem?_findIdx?]
  rw [namedList] at hposition ⊢
  cases hfound : (es.map (·.1)).findIdx? (· = k) with
  | none =>
    simp only [element, hposition, hfound, bind, Except.bind]
    rfl
  | some i =>
    obtain ⟨hlt, -⟩ := List.findIdx?_eq_some_iff_getElem.mp hfound
    obtain ⟨y, hy⟩ : ∃ y, (es.map (·.2))[i]? = some y :=
      ⟨_, List.getElem?_eq_getElem (by simpa using hlt)⟩
    simp only [element, hposition, hfound, bind, Except.bind, split, hy]
    rw [Option.bind_some, hy]
    rfl

/-! ### Setting and removing -/

theorem putEntry_of_findIdx? {i : Nat} (h : (es.map (·.1)).findIdx? (· = k) = some i) :
    (putEntry k v es).map (·.1) = es.map (·.1) ∧
      (putEntry k v es).map (·.2) = (es.map (·.2)).set i v := by
  induction es generalizing i with
  | nil => cases h
  | cons e es ih =>
    rw [List.map_cons, List.findIdx?_cons] at h
    rw [putEntry]
    by_cases hk : e.1 = k
    · rw [if_pos (by simpa using hk)] at h
      cases h
      rw [if_pos hk]
      exact ⟨by rw [List.map_cons, List.map_cons, hk], rfl⟩
    · rw [if_neg (by simpa using hk)] at h
      obtain ⟨j, hj, rfl⟩ := Option.map_eq_some_iff.mp h
      obtain ⟨hnames, hvalues⟩ := ih hj
      rw [if_neg hk]
      exact ⟨congrArg (e.1 :: ·) hnames, congrArg (e.2 :: ·) hvalues⟩

theorem putEntry_of_forall_ne (h : ∀ e ∈ es, e.1 ≠ k) : putEntry k v es = es ++ [(k, v)] := by
  induction es with
  | nil => rfl
  | cons e es ih =>
    obtain ⟨he, hes⟩ := List.forall_mem_cons.mp h
    rw [putEntry, if_neg he, ih hes]
    rfl

theorem dropEntry_of_findIdx? {i : Nat} (h : (es.map (·.1)).findIdx? (· = k) = some i) :
    dropEntry k es = es.eraseIdx i := by
  induction es generalizing i with
  | nil => cases h
  | cons e es ih =>
    rw [List.map_cons, List.findIdx?_cons] at h
    rw [dropEntry]
    by_cases hk : e.1 = k
    · rw [if_pos (by simpa using hk)] at h
      cases h
      rw [if_pos hk, List.eraseIdx_zero, List.tail_cons]
    · rw [if_neg (by simpa using hk)] at h
      obtain ⟨j, hj, rfl⟩ := Option.map_eq_some_iff.mp h
      rw [if_neg hk, ih hj, List.eraseIdx_cons_succ]

theorem dropEntry_of_forall_ne (h : ∀ e ∈ es, e.1 ≠ k) : dropEntry k es = es := by
  induction es with
  | nil => rfl
  | cons e es ih =>
    obtain ⟨he, hes⟩ := List.forall_mem_cons.mp h
    rw [dropEntry, if_neg he, ih hes]

theorem forall_ne_of_findIdx? (h : (es.map (·.1)).findIdx? (· = k) = none) :
    ∀ e ∈ es, e.1 ≠ k := by
  intro e he
  have hname := List.findIdx?_eq_none_iff.mp h e.1 (List.mem_map_of_mem he)
  simpa using hname

theorem setNamed_namedList (hv : v ≠ null) (k : String) (es : List (String × RValue)) :
    (namedList es).setNamed k v = .ok (namedList (putEntry k v es)) := by
  cases hfound : (es.map (·.1)).findIdx? (· = k) with
  | none =>
    have hset : (namedList es).setNamed k v =
        .ok (list (es.map (·.2) ++ [v]) (some (es.map (·.1) ++ [k]))) := by
      cases v with
      | null => exact absurd rfl hv
      | _ => simp only [namedList, setNamed, hfound]
    rw [hset, putEntry_of_forall_ne (forall_ne_of_findIdx? hfound), namedList, List.map_append,
      List.map_append]
    rfl
  | some i =>
    have hset : (namedList es).setNamed k v =
        .ok (list ((es.map (·.2)).set i v) (some (es.map (·.1)))) := by
      cases v with
      | null => exact absurd rfl hv
      | _ => simp only [namedList, setNamed, hfound]
    obtain ⟨hnames, hvalues⟩ := putEntry_of_findIdx? (v := v) hfound
    rw [hset, namedList, hnames, hvalues]

theorem setNamed_null_namedList (k : String) (es : List (String × RValue)) :
    (namedList es).setNamed k null = .ok (namedList (dropEntry k es)) := by
  cases hfound : (es.map (·.1)).findIdx? (· = k) with
  | none =>
    rw [dropEntry_of_forall_ne (forall_ne_of_findIdx? hfound)]
    simp only [namedList, setNamed, hfound]
  | some i =>
    rw [dropEntry_of_findIdx? hfound]
    simp only [namedList, setNamed, hfound, List.eraseIdx_map]

/-- Replacing an element that is indexed by a text is setting it by its name. -/
theorem setElement_string (k : String) (v : RValue) (es : List (String × RValue)) :
    (namedList es).setElement (.string k) v = (namedList es).setNamed k v := rfl

end ScriptBridge.RValue
