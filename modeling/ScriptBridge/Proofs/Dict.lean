import ScriptBridge.Dict

/-!
# Laws of dictionaries

What `insert`, `erase`, `merge` and `ofList` do to look-ups (`get?_insert`, `get?_erase`,
`get?_merge`, `get?_ofList_of_last`), and that they keep the entries sorted. The entries of a sorted
dictionary laid over nothing or over itself give that dictionary again (`ofList_of_sorted`,
`merge_self`), and sorted dictionaries that answer every look-up alike are the same (`Sorted.ext`).
-/

namespace ScriptBridge.Dict

variable {α : Type} {d more : Dict α} {k key : String} {v value : α}

@[simp] theorem get?_nil (k : String) : get? k ([] : Dict α) = none := rfl

theorem get?_cons (k : String) (e : String × α) (d : Dict α) :
    get? k (e :: d) = if e.1 = k then some e.2 else get? k d := rfl

theorem contains_iff : contains k d ↔ ∃ v, get? k d = some v := Option.isSome_iff_exists

/-! ### Insertion -/

theorem map_insert {β : Type} (f : α → β) (k : String) (v : α) (d : Dict α) :
    (insert k v d).map (Prod.map id f) = insert k (f v) (d.map (Prod.map id f)) := by
  induction d with
  | nil => rfl
  | cons e d ih =>
    obtain ⟨key, w⟩ := e
    rw [List.map_cons, Prod.map_apply, id, insert, insert]
    by_cases hlt : k < key
    · rw [if_pos hlt, if_pos hlt]
      rfl
    · rw [if_neg hlt, if_neg hlt]
      by_cases heq : k = key
      · rw [if_pos heq, if_pos heq]
        rfl
      · rw [if_neg heq, if_neg heq, List.map_cons, ih]
        rfl

theorem get?_insert (k key : String) (v : α) (d : Dict α) :
    get? k (insert key v d) = if key = k then some v else get? k d := by
  induction d with
  | nil => rfl
  | cons e d ih =>
    rw [insert]
    split
    · rfl
    · split
      · next h => by_cases hk : key = k <;> simp [get?_cons, hk, ← h]
      · next h =>
        rw [get?_cons, ih, get?_cons]
        by_cases hk : key = k
        · rw [if_neg (fun he => h (hk.trans he.symm)), if_pos hk, if_pos hk]
        · simp [hk]

@[simp] theorem get?_insert_self (k : String) (v : α) (d : Dict α) :
    get? k (insert k v d) = some v := by
  rw [get?_insert, if_pos rfl]

theorem get?_insert_ne (h : key ≠ k) (v : α) (d : Dict α) :
    get? k (insert key v d) = get? k d := by
  rw [get?_insert, if_neg h]

theorem contains_insert_ne (h : key ≠ k) (v : α) (d : Dict α) :
    contains k (insert key v d) = contains k d := by
  rw [contains, get?_insert_ne h, contains]

theorem mem_insert {e : String × α} (h : e ∈ insert key v d) : e = (key, v) ∨ e ∈ d := by
  induction d with
  | nil => simpa [insert] using h
  | cons x d ih =>
    rw [insert] at h
    split at h
    · simpa using h
    · split at h
      · rcases List.mem_cons.mp h with h | h
        · exact .inl h
        · exact .inr (List.mem_cons_of_mem _ h)
      · rcases List.mem_cons.mp h with h | h
        · exact .inr (h ▸ List.mem_cons_self)
        · exact (ih h).imp_right (List.mem_cons_of_mem _)

theorem Sorted.insert (h : Sorted d) (key : String) (v : α) : Sorted (insert key v d) := by
  induction d with
  | nil => exact List.pairwise_singleton _ _
  | cons e d ih =>
    obtain ⟨hhead, htail⟩ := List.pairwise_cons.mp h
    rw [Dict.insert]
    split
    · next hlt =>
      refine List.pairwise_cons.mpr ⟨fun x hx => ?_, h⟩
      rcases List.mem_cons.mp hx with rfl | hx
      · exact hlt
      · exact String.lt_trans hlt (hhead x hx)
    · next hge =>
      split
      · next heq => exact List.pairwise_cons.mpr ⟨fun x hx => heq ▸ hhead x hx, htail⟩
      · next hne =>
        refine List.pairwise_cons.mpr ⟨fun x hx => ?_, ih htail⟩
        rcases mem_insert hx with rfl | hx
        · exact Std.lt_of_le_of_ne (Std.not_lt.mp hge) (Ne.symm hne)
        · exact hhead x hx

theorem insert_of_forall_lt (h : ∀ e ∈ d, e.1 < k) (v : α) : insert k v d = d ++ [(k, v)] := by
  induction d with
  | nil => rfl
  | cons e d ih =>
    have he : e.1 < k := h e List.mem_cons_self
    rw [insert, if_neg (Std.not_lt.mpr (Std.le_of_lt he)), if_neg (Std.ne_of_lt he).symm,
      ih fun x hx => h x (List.mem_cons_of_mem _ hx)]
    rfl

theorem Sorted.insert_of_mem (h : Sorted d) (hmem : (k, v) ∈ d) : Dict.insert k v d = d := by
  induction d with
  | nil => cases hmem
  | cons e d ih =>
    obtain ⟨hhead, htail⟩ := List.pairwise_cons.mp h
    rcases List.mem_cons.mp hmem with rfl | hmem
    · rw [Dict.insert, if_neg (String.lt_irrefl k), if_pos rfl]
    · have hlt : e.1 < k := hhead (k, v) hmem
      rw [Dict.insert, if_neg (Std.not_lt.mpr (Std.le_of_lt hlt)), if_neg (Std.ne_of_lt hlt).symm,
        ih htail hmem]

/-! ### Removal -/

theorem get?_erase (k key : String) (d : Dict α) :
    get? k (erase key d) = if key = k then none else get? k d := by
  induction d with
  | nil => simp [erase]
  | cons e d ih =>
    rw [erase] at ih ⊢
    by_cases he : e.1 = key
    · rw [List.filter_cons_of_neg (by simpa using he), ih, get?_cons, he]
      split <;> rfl
    · rw [List.filter_cons_of_pos (by simpa using he), get?_cons, ih, get?_cons]
      by_cases hk : key = k
      · rw [if_neg (fun h => he (h.trans hk.symm)), if_pos hk, if_pos hk]
      · simp [hk]

/-! ### Merging -/

@[simp] theorem merge_nil (d : Dict α) : merge d [] = d := rfl

theorem merge_cons (d : Dict α) (e : String × α) (more : Dict α) :
    merge d (e :: more) = merge (insert e.1 e.2 d) more := rfl

theorem get?_eq_none_of_forall_ne (h : ∀ e ∈ d, e.1 ≠ k) : get? k d = none := by
  induction d with
  | nil => rfl
  | cons e d ih =>
    rw [get?_cons, if_neg (h e List.mem_cons_self)]
    exact ih fun x hx => h x (List.mem_cons_of_mem _ hx)

theorem Sorted.nodup (h : Sorted d) : (d.map (·.1)).Nodup :=
  List.pairwise_map.mpr (h.imp fun hlt => Std.ne_of_lt hlt)

theorem get?_eq_none_of_not_mem (h : k ∉ d.map (·.1)) : get? k d = none :=
  get?_eq_none_of_forall_ne fun _ he hk => h (hk ▸ List.mem_map_of_mem he)

theorem get?_eq_some_iff_mem (h : (d.map (·.1)).Nodup) : get? k d = some v ↔ (k, v) ∈ d := by
  induction d with
  | nil => simp
  | cons e d ih =>
    obtain ⟨hhead, htail⟩ := List.nodup_cons.mp h
    rw [get?_cons, List.mem_cons]
    by_cases he : e.1 = k
    · subst he
      have hrest : (e.1, v) ∉ d := fun hmem => hhead (List.mem_map_of_mem (f := (·.1)) hmem)
      simp [hrest, Prod.ext_iff, eq_comm]
    · have hne : (k, v) ≠ e := fun heq => he (heq ▸ rfl)
      rw [if_neg he, ih htail]
      simp [hne]

/-- The entries laid over a dictionary win, if each key has one of them. -/
theorem get?_merge_of_nodup (h : (more.map (·.1)).Nodup) (k : String) (d : Dict α) :
    get? k (merge d more) = (get? k more).or (get? k d) := by
  induction more generalizing d with
  | nil => rfl
  | cons e more ih =>
    obtain ⟨hhead, htail⟩ := List.nodup_cons.mp h
    rw [merge_cons, ih htail, get?_insert, get?_cons]
    by_cases hk : e.1 = k
    · have hnone : get? k more = none := get?_eq_none_of_not_mem (hk ▸ hhead)
      simp [hk, hnone]
    · simp [hk]

theorem get?_merge (h : Sorted more) (k : String) (d : Dict α) :
    get? k (merge d more) = (get? k more).or (get? k d) :=
  get?_merge_of_nodup h.nodup k d

theorem get?_merge_of_forall_ne (h : ∀ e ∈ more, e.1 ≠ k) (d : Dict α) :
    get? k (merge d more) = get? k d := by
  induction more generalizing d with
  | nil => rfl
  | cons e more ih =>
    obtain ⟨he, hmore⟩ := List.forall_mem_cons.mp h
    rw [merge_cons, ih hmore, get?_insert_ne he]

theorem mem_merge {e : String × α} (h : e ∈ merge d more) : e ∈ d ∨ e ∈ more := by
  induction more generalizing d with
  | nil => exact .inl h
  | cons x more ih =>
    rcases ih h with h | h
    · rcases mem_insert h with rfl | h
      · exact .inr List.mem_cons_self
      · exact .inl h
    · exact .inr (List.mem_cons_of_mem _ h)

theorem mem_ofList {e : String × α} {entries : List (String × α)} (h : e ∈ ofList entries) :
    e ∈ entries :=
  (mem_merge h).resolve_left List.not_mem_nil

/-- In a dictionary of entries with one key each, every entry is found. -/
theorem get?_ofList_of_nodup {entries : List (String × α)} (h : (entries.map (·.1)).Nodup)
    (k : String) : get? k (ofList entries) = get? k entries := by
  rw [ofList, get?_merge_of_nodup h, get?_nil, Option.or_none]

/-- In a dictionary of entries, the last entry of a key is found. -/
theorem get?_ofList_of_last {before after : List (String × α)} (h : ∀ e ∈ after, e.1 ≠ k) (v : α) :
    get? k (ofList (before ++ (k, v) :: after)) = some v := by
  have hsplit : ofList (before ++ (k, v) :: after) =
      merge (insert k v (ofList before)) after := by
    rw [ofList, merge, List.foldl_append]
    rfl
  rw [hsplit, get?_merge_of_forall_ne h, get?_insert_self]

theorem Sorted.merge (h : Sorted d) (more : List (String × α)) : Sorted (merge d more) := by
  induction more generalizing d with
  | nil => exact h
  | cons e more ih => exact ih (h.insert e.1 e.2)

theorem sorted_ofList (entries : List (String × α)) : Sorted (ofList entries) :=
  Sorted.merge List.Pairwise.nil entries

theorem merge_of_sorted_append (h : Sorted (d ++ more)) : merge d more = d ++ more := by
  induction more generalizing d with
  | nil => simp
  | cons e more ih =>
    have hlast : ∀ x ∈ d, x.1 < e.1 :=
      fun x hx => (List.pairwise_append.mp h).2.2 x hx e List.mem_cons_self
    rw [merge_cons, insert_of_forall_lt hlast, ih (by simpa using h)]
    simp

theorem map_merge {β : Type} (f : α → β) (d : Dict α) (more : List (String × α)) :
    (merge d more).map (Prod.map id f) =
      merge (d.map (Prod.map id f)) (more.map (Prod.map id f)) := by
  induction more generalizing d with
  | nil => rfl
  | cons e more ih =>
    rw [merge_cons, ih, map_insert, List.map_cons, merge_cons, Prod.map_fst, Prod.map_snd, id]

theorem map_ofList {β : Type} (f : α → β) (entries : List (String × α)) :
    (ofList entries).map (Prod.map id f) = ofList (entries.map (Prod.map id f)) :=
  map_merge f [] entries

theorem ofList_of_sorted (h : Sorted d) : ofList d = d :=
  merge_of_sorted_append (d := []) h

theorem merge_of_subset (h : Sorted d) (hsub : ∀ e ∈ more, e ∈ d) : merge d more = d := by
  induction more with
  | nil => rfl
  | cons e more ih =>
    rw [merge_cons, h.insert_of_mem (hsub e List.mem_cons_self)]
    exact ih fun x hx => hsub x (List.mem_cons_of_mem _ hx)

theorem merge_self (h : Sorted d) : merge d d = d :=
  merge_of_subset h fun _ he => he

/-! ### Properties of all values -/

def All (P : α → Prop) (d : Dict α) : Prop := ∀ e ∈ d, P e.2

variable {P : α → Prop}

theorem all_nil : All P [] := fun _ he => nomatch he

theorem All.insert (h : All P d) (key : String) (hv : P v) : All P (insert key v d) := by
  intro e he
  rcases mem_insert he with rfl | he
  · exact hv
  · exact h e he

theorem All.erase (h : All P d) (key : String) : All P (erase key d) :=
  fun e he => h e (List.mem_filter.mp he).1

theorem All.merge (h : All P d) (hmore : All P more) : All P (merge d more) := by
  induction more generalizing d with
  | nil => exact h
  | cons e more ih =>
    obtain ⟨he, hmore⟩ := List.forall_mem_cons.mp hmore
    exact ih (h.insert e.1 he) hmore

theorem all_ofList (h : All P d) : All P (ofList d) := all_nil.merge h

theorem All.get? (h : All P d) (hv : get? k d = some v) : P v := by
  induction d with
  | nil => cases hv
  | cons e d ih =>
    obtain ⟨he, hd⟩ := List.forall_mem_cons.mp h
    rw [get?_cons] at hv
    split at hv
    · cases hv
      exact he
    · exact ih hd hv

/-! ### Equality -/

theorem Sorted.erase (h : Sorted d) (key : String) : Sorted (erase key d) :=
  List.Pairwise.filter _ h

theorem Sorted.get?_of_lt {e : String × α} (h : Sorted (e :: d)) (hk : k < e.1) :
    get? k (e :: d) = none := by
  obtain ⟨hhead, -⟩ := List.pairwise_cons.mp h
  refine get?_eq_none_of_forall_ne fun x hx => ?_
  rcases List.mem_cons.mp hx with rfl | hx
  · exact (Std.ne_of_lt hk).symm
  · exact (Std.ne_of_lt (String.lt_trans hk (hhead x hx))).symm

theorem Sorted.get?_head {e : String × α} (h : Sorted (e :: d)) : get? e.1 d = none := by
  obtain ⟨hhead, -⟩ := List.pairwise_cons.mp h
  exact get?_eq_none_of_forall_ne fun x hx => (Std.ne_of_lt (hhead x hx)).symm

theorem Sorted.ext {d' : Dict α} (h : Sorted d) (h' : Sorted d')
    (hget : ∀ k, get? k d = get? k d') : d = d' := by
  induction d generalizing d' with
  | nil =>
    cases d' with
    | nil => rfl
    | cons e' d' =>
      have hfirst := hget e'.1
      rw [get?_nil, get?_cons, if_pos rfl] at hfirst
      cases hfirst
  | cons e d ih =>
    cases d' with
    | nil =>
      have hfirst := hget e.1
      rw [get?_nil, get?_cons, if_pos rfl] at hfirst
      cases hfirst
    | cons e' d' =>
      have hfirst := hget e.1
      have hfirst' := hget e'.1
      rw [get?_cons, if_pos rfl] at hfirst
      rw [get?_cons e'.1 e', if_pos rfl] at hfirst'
      have hle : ¬e'.1 < e.1 := fun hlt => by
        rw [h.get?_of_lt hlt] at hfirst'
        cases hfirst'
      have hge : ¬e.1 < e'.1 := fun hlt => by
        rw [h'.get?_of_lt hlt] at hfirst
        cases hfirst
      have hkey : e.1 = e'.1 := Std.le_antisymm (Std.not_lt.mp hle) (Std.not_lt.mp hge)
      have hvalue : e.2 = e'.2 := by
        rw [get?_cons, if_pos hkey.symm] at hfirst
        exact Option.some.inj hfirst
      have htail : d = d' := by
        refine ih (List.pairwise_cons.mp h).2 (List.pairwise_cons.mp h').2 fun k => ?_
        by_cases hk : e.1 = k
        · subst hk
          rw [h.get?_head, hkey, h'.get?_head]
        · have hrest := hget k
          rwa [get?_cons, if_neg hk, get?_cons, if_neg (hkey ▸ hk)] at hrest
      rw [htail, Prod.ext hkey hvalue]

end ScriptBridge.Dict
