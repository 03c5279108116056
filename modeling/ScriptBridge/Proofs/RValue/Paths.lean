import ScriptBridge.Proofs.RValue.NamedList
import ScriptBridge.Proofs.RValue.Parts

/-!
# Paths into lists

A path goes down from a value by names, each step written `$name` or `[["name"]]` (`RValue.Key`).
`RValue.follow` is what a path leads to, and `RValue.replace` the value with another one put there.
The two are a lens: the path then leads to what was put there (`follow_replace`), and a path that
goes another way at some step leads to what it led to before (`follow_replace_of_diverges`). Missing
lists on the way count as empty ones, and elements without a name as elements of the empty name.
-/

namespace ScriptBridge.RValue

/-- A step from a list to one of its elements. -/
inductive Key where
  /-- The step `$name`. -/
  | dollar (name : String)
  /-- The step `[["name"]]`. -/
  | element (name : String)

namespace Key

def name : Key → String
  | dollar n | element n => n

def read (k : Key) (x : RValue) : Except Fault RValue :=
  match k with
  | dollar n => x.dollar n
  | element n => x.element (.string n)

def write (k : Key) (x v : RValue) : Except Fault RValue :=
  match k with
  | dollar n => x.setNamed n v
  | element n => x.setElement (.string n) v

end Key

/-- What a path leads to. -/
def follow : List Key → RValue → Except Fault RValue
  | [], x => .ok x
  | k :: keys, x => do follow keys (← k.read x)

/-- A value with `v` where a path leads to. -/
def replace (v : RValue) : List Key → RValue → Except Fault RValue
  | [], _ => .ok v
  | k :: keys, x => do k.write x (← replace v keys (← k.read x))

/-- The second path goes another way than the first one at some step of both, up to which the names
of their steps are the same. -/
inductive Diverges : List Key → List Key → Prop
  | here {k k' : Key} (hname : k.name ≠ k'.name) (keys others : List Key) :
      Diverges (k :: keys) (k' :: others)
  | later {k k' : Key} {keys others : List Key} (hname : k.name = k'.name)
      (h : Diverges keys others) : Diverges (k :: keys) (k' :: others)

/-- Every list in the value that has names has one for each element. -/
def NamesFit (x : RValue) : Prop :=
  ∀ values names, PartOf (list values (some names)) x → names.length = values.length

variable {x y v p w : RValue} {k : Key} {keys others : List Key} {es : List (String × RValue)}

/-! ### Entries -/

/-- The value stands for a list of the entries, in a replacement by name: null for the empty list,
and a list without names for one of empty names. -/
inductive HasEntries : RValue → List (String × RValue) → Prop
  | null : HasEntries null []
  | unnamed (values : List RValue) : HasEntries (list values none) (values.map fun x => ("", x))
  | named (es : List (String × RValue)) : HasEntries (namedList es) es

theorem get?_map_empty {n : String} (hn : n ≠ "") (values : List RValue) :
    Dict.get? n (values.map fun x => ("", x)) = none := by
  refine Dict.get?_eq_none_of_forall_ne fun e he => ?_
  obtain ⟨x, -, rfl⟩ := List.mem_map.mp he
  exact Ne.symm hn

theorem HasEntries.read (h : HasEntries x es) (hk : k.name ≠ "") :
    k.read x = .ok ((Dict.get? k.name es).getD .null) := by
  cases h with
  | null => cases k <;> rfl
  | unnamed values =>
    rw [get?_map_empty hk]
    cases k <;> rfl
  | named es =>
    cases k with
    | dollar n => exact dollar_namedList n es
    | element n => exact (element_string n es).trans (dollar_namedList n es)

theorem HasEntries.write (h : HasEntries x es) (k : Key) (hv : v ≠ .null) :
    k.write x v = .ok (namedList (putEntry k.name v es)) := by
  have hnames : k.write x v = (namedList es).setNamed k.name v := by
    cases h with
    | null => cases k <;> rfl
    | unnamed values =>
      have hlist : namedList (values.map fun x => ("", x)) =
          list values (some (values.map fun _ => "")) := by
        simp [namedList, Function.comp_def]
      rw [hlist]
      cases k <;> rfl
    | named es => cases k <;> rfl
  rw [hnames, setNamed_namedList hv]

/-- A list with a name for each element, or without names, stands for entries. -/
theorem exists_hasEntries_list {values : List RValue} {names : Option (List String)}
    (hnames : ∀ ns ∈ names, ns.length = values.length) : ∃ es, HasEntries (list values names) es := by
  cases names with
  | none => exact ⟨_, .unnamed values⟩
  | some ns =>
    have hlength := hnames ns rfl
    have hzip : namedList (ns.zip values) = list values (some ns) := by
      rw [namedList, List.map_snd_zip hlength.ge, List.map_fst_zip hlength.le]
    exact ⟨ns.zip values, hzip ▸ .named _⟩

/-- A value without entries has no elements of a name, and none can be put there. -/
theorem exists_hasEntries_or (hx : NamesFit x) : (∃ es, HasEntries x es) ∨
    ∀ k : Key, (∀ p, k.read x ≠ .ok p) ∧ ∀ v y, k.write x v ≠ .ok y := by
  cases x with
  | null => exact .inl ⟨[], .null⟩
  | list values names =>
    refine .inl (exists_hasEntries_list fun ns hns => hx values ns ?_)
    cases hns
    exact .self
  | _ =>
    right
    intro k
    refine ⟨fun p h => ?_, fun v y h => ?_⟩
    · cases k <;> cases h
    · cases k <;> cases h

theorem exists_hasEntries_of_read (hx : NamesFit x) (h : k.read x = .ok p) :
    ∃ es, HasEntries x es :=
  (exists_hasEntries_or hx).resolve_right fun hnone => (hnone k).1 p h

theorem exists_hasEntries_of_write (hx : NamesFit x) (h : k.write x v = .ok y) :
    ∃ es, HasEntries x es :=
  (exists_hasEntries_or hx).resolve_right fun hnone => (hnone k).2 v y h

theorem HasEntries.all_namesFit (h : HasEntries x es) (hx : NamesFit x) : Dict.All NamesFit es := by
  intro e he
  cases h with
  | null => cases he
  | unnamed values =>
    obtain ⟨z, hz, rfl⟩ := List.mem_map.mp he
    exact fun values' names hpart => hx values' names (.element hz hpart)
  | named es =>
    exact fun values names hpart => hx values names (.element (List.mem_map_of_mem he) hpart)

theorem namesFit_null : NamesFit null := fun _ _ h => nomatch h

theorem HasEntries.namesFit_getD (h : HasEntries x es) (hx : NamesFit x) (n : String) :
    NamesFit ((Dict.get? n es).getD .null) := by
  cases hget : Dict.get? n es with
  | none => exact namesFit_null
  | some p => exact (h.all_namesFit hx).get? hget

/-! ### One step -/

theorem ne_null_of_setNamed {n : String} (h : x.setNamed n v = .ok y) : y ≠ null := by
  have hlist (values : List RValue) (names : Option (List String)) :
      list values names ≠ null := RValue.noConfusion
  unfold setNamed at h
  dsimp only at h
  split at h
  · cases h
    split <;> exact hlist _ _
  · cases h
    split <;> exact hlist _ _
  · cases h
    split <;> exact hlist _ _
  · cases h

theorem ne_null_of_write (h : k.write x v = .ok y) : y ≠ null := by
  cases k with
  | dollar n => exact ne_null_of_setNamed h
  | element n =>
    cases x with
    | null => exact ne_null_of_setNamed (x := null) (n := n) h
    | list values names => exact ne_null_of_setNamed (x := list values names) (n := n) h
    | _ => cases h

theorem replace_ne_null (hv : v ≠ null) (h : replace v keys x = .ok y) : y ≠ null := by
  cases keys with
  | nil =>
    cases h
    exact hv
  | cons k keys =>
    obtain ⟨p, -, hp⟩ := except_bind_eq_ok.mp h
    obtain ⟨p', -, hwrite⟩ := except_bind_eq_ok.mp hp
    exact ne_null_of_write hwrite

/-- A replacement goes down one step to a part, replaces what the rest of the path leads to in the
part, and puts it back. The other elements are what they were. -/
theorem replace_cons (hx : NamesFit x) (hv : v ≠ null) (h : replace v (k :: keys) x = .ok y)
    (hk : k.name ≠ "") :
    ∃ p p', NamesFit p ∧ replace v keys p = .ok p' ∧ ∀ k' : Key, k'.name ≠ "" →
      (k.name = k'.name → k'.read x = .ok p ∧ k'.read y = .ok p') ∧
      (k.name ≠ k'.name → k'.read y = k'.read x) := by
  obtain ⟨p, hread, hrest⟩ := except_bind_eq_ok.mp h
  obtain ⟨p', hp', hwrite⟩ := except_bind_eq_ok.mp hrest
  obtain ⟨es, hes⟩ := exists_hasEntries_of_write hx hwrite
  have hy : y = namedList (putEntry k.name p' es) := by
    rw [hes.write k (replace_ne_null hv hp')] at hwrite
    cases hwrite
    rfl
  have hp : p = (Dict.get? k.name es).getD .null := by
    rw [hes.read hk] at hread
    cases hread
    rfl
  refine ⟨p, p', hp ▸ hes.namesFit_getD hx k.name, hp', fun k' hk' => ?_⟩
  have hready : k'.read y = .ok ((Dict.get? k'.name (putEntry k.name p' es)).getD .null) :=
    hy ▸ (HasEntries.named _).read hk'
  rw [hready, hes.read hk', get?_putEntry]
  refine ⟨fun hname => ?_, fun hname => ?_⟩
  · rw [hp, hname, if_pos rfl]
    exact ⟨rfl, rfl⟩
  · rw [if_neg hname]

/-! ### The lens -/

theorem follow_cons (h : k.read x = .ok p) : follow (k :: keys) x = follow keys p := by
  rw [follow, h]
  rfl

theorem follow_replace (hx : NamesFit x) (hv : v ≠ null) (hkeys : ∀ k ∈ keys, k.name ≠ "")
    (h : replace v keys x = .ok y) : follow keys y = .ok v := by
  induction keys generalizing x y with
  | nil =>
    cases h
    rfl
  | cons k keys ih =>
    obtain ⟨hk, hkeys⟩ := List.forall_mem_cons.mp hkeys
    obtain ⟨p, p', hfit, hp', hreads⟩ := replace_cons hx hv h hk
    rw [follow_cons ((hreads k hk).1 rfl).2]
    exact ih hfit hkeys hp'

theorem follow_replace_of_diverges (hx : NamesFit x) (hv : v ≠ null)
    (hkeys : ∀ k ∈ keys, k.name ≠ "") (hothers : ∀ k ∈ others, k.name ≠ "")
    (hd : Diverges keys others) (h : replace v keys x = .ok y) :
    follow others y = follow others x := by
  induction hd generalizing x y with
  | @here k k' hname keys others =>
    obtain ⟨p, p', -, -, hreads⟩ := replace_cons hx hv h (hkeys k List.mem_cons_self)
    rw [follow, follow, (hreads k' (hothers k' List.mem_cons_self)).2 hname]
  | @later k k' keys others hname _ ih =>
    obtain ⟨hk, hkeys⟩ := List.forall_mem_cons.mp hkeys
    obtain ⟨hk', hothers⟩ := List.forall_mem_cons.mp hothers
    obtain ⟨p, p', hfit, hp', hreads⟩ := replace_cons hx hv h hk
    obtain ⟨hreadx, hready⟩ := (hreads k' hk').1 hname
    rw [follow_cons hready, follow_cons hreadx]
    exact ih hfit hkeys hothers hp'

/-! ### From the last step on -/

theorem replace_append (h : follow keys x = .ok p) (v : RValue) (others : List Key) :
    replace v (keys ++ others) x = replace v others p >>= fun w => replace w keys x := by
  induction keys generalizing x with
  | nil =>
    cases h
    exact (bind_pure _).symm
  | cons k keys ih =>
    obtain ⟨q, hq, hp⟩ := except_bind_eq_ok.mp h
    have hstep (w : RValue) : replace w (k :: keys) x = replace w keys q >>= k.write x := by
      rw [replace, hq]
      rfl
    have happend : replace v (k :: keys ++ others) x = replace v (keys ++ others) q >>= k.write x := by
      rw [List.cons_append, replace, hq]
      rfl
    rw [happend, ih hp, bind_assoc]
    simp only [hstep]

theorem namesFit_follow (hx : NamesFit x) (hkeys : ∀ k ∈ keys, k.name ≠ "")
    (h : follow keys x = .ok p) : NamesFit p := by
  induction keys generalizing x with
  | nil =>
    cases h
    exact hx
  | cons k keys ih =>
    obtain ⟨hk, hkeys⟩ := List.forall_mem_cons.mp hkeys
    obtain ⟨q, hq, hp⟩ := except_bind_eq_ok.mp h
    obtain ⟨es, hes⟩ := exists_hasEntries_of_read hx hq
    rw [hes.read hk] at hq
    cases hq
    exact ih (hes.namesFit_getD hx k.name) hkeys hp

/-- To replace what a path leads to is to put another element into the list before the last step,
and then to replace this list. -/
theorem replace_concat (hx : NamesFit x) (hkeys : ∀ k ∈ keys, k.name ≠ "") (hk : k.name ≠ "")
    (hread : follow keys x = .ok p) (hwrite : k.write p v = .ok w) :
    replace v (keys ++ [k]) x = replace w keys x := by
  obtain ⟨es, hes⟩ := exists_hasEntries_of_write (namesFit_follow hx hkeys hread) hwrite
  have hlast : replace v [k] p = .ok w := by
    rw [replace, hes.read hk]
    exact hwrite
  rw [replace_append hread, hlast]
  rfl

end ScriptBridge.RValue
