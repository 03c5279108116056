import Mathlib
import ScriptBridge.Proofs.Bindings

/-!
# Bindings in insertion order

A set of bindings is a map that keeps its names in the order of insertion: what it holds follows
from the operations on it alone. `Records history bs` says which names are listed and in which
order, and what each of them is bound to, by the places of the history at which the name was
inserted and removed. One operation keeps it (`Records.apply`), so it holds after every history
(`records_replay`).

A host has several sets, of which some are copies of others (`Step`). Each of them has a history of
its own, that of a copy starting with the history of what was copied (`sets_eq`).
-/

namespace ScriptBridge.Bindings

variable {bs : Bindings} {n : String} {b : Binding}

/-! ### One operation -/

def names (bs : Bindings) : List String := bs.entries.map (·.1)

theorem fst_insert (bs : Bindings) (name : String) (b : Binding) :
    (bs.insert name b).1 = bs.get? name := by
  obtain ⟨entries⟩ := bs
  induction entries with
  | nil => rfl
  | cons e rest ih =>
    simp only [insert, insertEntry, get?] at ih ⊢
    by_cases he : e.1 = name
    · simp [he]
    · simpa [he] using ih

theorem fst_remove (bs : Bindings) (name : String) : (bs.remove name).1 = bs.get? name := by
  obtain ⟨entries⟩ := bs
  induction entries with
  | nil => rfl
  | cons e rest ih =>
    simp only [remove, removeEntry, get?] at ih ⊢
    by_cases he : e.1 = name
    · simp [he]
    · simpa [he] using ih

theorem names_put_of_mem (h : n ∈ bs.names) : (bs.put n b).names = bs.names := by
  obtain ⟨entries⟩ := bs
  induction entries with
  | nil => cases h
  | cons e rest ih =>
    simp only [names, put, insert, insertEntry] at h ih ⊢
    by_cases he : e.1 = n
    · simp [he]
    · rw [List.map_cons, List.mem_cons] at h
      simp only [if_neg he, List.map_cons, ih (h.resolve_left (Ne.symm he))]

theorem names_put_of_not_mem (h : n ∉ bs.names) : (bs.put n b).names = bs.names ++ [n] := by
  obtain ⟨entries⟩ := bs
  induction entries with
  | nil => rfl
  | cons e rest ih =>
    simp only [names, put, insert, insertEntry] at h ih ⊢
    rw [List.map_cons, List.mem_cons, not_or] at h
    simp only [if_neg (Ne.symm h.1), List.map_cons, ih h.2, List.cons_append]

theorem names_remove (bs : Bindings) (name : String) :
    (bs.remove name).2.names = bs.names.erase name := by
  obtain ⟨entries⟩ := bs
  induction entries with
  | nil => rfl
  | cons e rest ih =>
    simp only [names, remove, removeEntry] at ih ⊢
    by_cases he : e.1 = name
    · simp [he]
    · simp only [if_neg he, List.map_cons, ih, List.erase_cons, beq_iff_eq]

theorem filter_remove {p : String → Bool} {name : String} (h : p name = false) :
    (bs.remove name).2.entries.filter (fun e => p e.1) = bs.entries.filter (fun e => p e.1) := by
  obtain ⟨entries⟩ := bs
  induction entries with
  | nil => rfl
  | cons e rest ih =>
    simp only [remove, removeEntry] at ih ⊢
    by_cases he : e.1 = name
    · simp [he, h]
    · simp only [if_neg he, List.filter_cons, ih]

theorem get?_eq_none_of_not_mem (h : n ∉ bs.names) : bs.get? n = none := by
  rw [get?, Option.map_eq_none_iff, List.find?_eq_none]
  exact fun e he hn => h (of_decide_eq_true hn ▸ List.mem_map_of_mem he)

theorem get?_remove_of_ne {name : String} (h : n ≠ name) :
    (bs.remove name).2.get? n = bs.get? n := by
  obtain ⟨entries⟩ := bs
  induction entries with
  | nil => rfl
  | cons e rest ih =>
    simp only [remove, removeEntry, get?] at ih ⊢
    by_cases he : e.1 = name
    · simp [he, Ne.symm h]
    · simp only [if_neg he]
      by_cases hn : e.1 = n
      · simp [hn]
      · simpa [hn] using ih

theorem get?_remove_self (h : bs.names.Nodup) : (bs.remove n).2.get? n = none := by
  refine get?_eq_none_of_not_mem ?_
  rw [names_remove]
  exact h.not_mem_erase

/-- If no name is listed twice, each entry is what its name is bound to. -/
theorem mem_entries_iff (h : bs.names.Nodup) : (n, b) ∈ bs.entries ↔ bs.get? n = some b := by
  obtain ⟨entries⟩ := bs
  induction entries with
  | nil => simp [get?]
  | cons e rest ih =>
    obtain ⟨hfirst, hrest⟩ := List.nodup_cons.mp h
    have hrest := ih hrest
    simp only [get?] at hrest ⊢
    by_cases he : e.1 = n
    · subst he
      have habsent : (e.1, b) ∉ rest := fun hmem =>
        hfirst (List.mem_map_of_mem (f := (·.1)) hmem)
      simp [habsent, Prod.ext_iff, eq_comm]
    · have hne : (n, b) ≠ e := fun heq => he (heq ▸ rfl)
      simpa [he, hne] using hrest

/-! ### Histories -/

inductive Operation where
  | insert (name : String) (b : Binding)
  | remove (name : String)
  | withArguments (args : List String)
  | withResults (results : List TaskResult)
  | withVariables (map : Nat)
  | withProgress (sink : Nat)
  | withSpace (name : String) (s : Space)

namespace Operation

def name : Operation → String
  | insert name _ | remove name | withSpace name _ => name
  | withArguments _ => argumentsName
  | withResults _ => resultsName
  | withVariables _ => variablesName
  | withProgress _ => progressName

/-- The binding that the operation leaves under its name, none if it removes the name. -/
def binding? : Operation → Option Binding
  | insert _ b => some b
  | remove _ => none
  | withArguments args => some (.arguments args)
  | withResults results => some (.results results)
  | withVariables map => some (.variableMap map)
  | withProgress sink => some (.progress sink)
  | withSpace _ s => some (.space s)

/-- The bindings after the operation. -/
def apply : Operation → Bindings → Bindings
  | insert name b, bs => (bs.insert name b).2
  | remove name, bs => (bs.remove name).2
  | withArguments args, bs => bs.withArguments args
  | withResults results, bs => bs.withResults results
  | withVariables map, bs => bs.withVariables map
  | withProgress sink, bs => bs.withProgress sink
  | withSpace name s, bs => bs.withSpace name s

variable {o : Operation}

theorem apply_of_some (h : o.binding? = some b) (bs : Bindings) :
    o.apply bs = bs.put o.name b := by
  cases o <;> cases h <;> rfl

theorem apply_of_none (h : o.binding? = none) (bs : Bindings) :
    o.apply bs = (bs.remove o.name).2 := by
  cases o <;> cases h
  rfl

theorem filter_apply (o : Operation) (bs : Bindings) :
    (o.apply bs).entries.filter (·.1 ≠ o.name) = bs.entries.filter (·.1 ≠ o.name) := by
  have hdrops : decide (o.name ≠ o.name) = false := decide_eq_false fun h => h rfl
  cases hb : o.binding? with
  | none =>
    rw [apply_of_none hb]
    exact filter_remove (p := fun n => decide (n ≠ o.name)) hdrops
  | some b =>
    rw [apply_of_some hb]
    exact filter_put (p := fun n => decide (n ≠ o.name)) hdrops

end Operation

/-- The operation at a place of the history is about a name and leaves this under it. -/
def Leaves (history : List Operation) (name : String) (i : Nat) (left : Option Binding) : Prop :=
  ∃ o, history[i]? = some o ∧ o.name = name ∧ o.binding? = left

/-- At this place of the history the name is inserted, and it is not removed later. -/
def Stands (history : List Operation) (name : String) (i : Nat) : Prop :=
  (∃ b, Leaves history name i (some b)) ∧ ∀ j, i < j → ¬ Leaves history name j none

/-- This place of the history is the first insertion of the name since its last removal. -/
def Entered (history : List Operation) (name : String) (i : Nat) : Prop :=
  Stands history name i ∧ ∀ j, Stands history name j → i ≤ j

/-- At this place of the history the name is bound to `b`, and it is neither inserted nor removed
later. -/
def LastBound (history : List Operation) (name : String) (b : Binding) : Prop :=
  ∃ i, Leaves history name i (some b) ∧ ∀ j left, i < j → ¬ Leaves history name j left

/-- The bindings are what a history of operations makes of none. -/
structure Records (history : List Operation) (bs : Bindings) : Prop where
  nodup : bs.names.Nodup
  listed : ∀ n, n ∈ bs.names ↔ ∃ i, Entered history n i
  ordered : bs.names.Pairwise fun m n => ∀ i j, Entered history m i → Entered history n j → i < j
  bound : ∀ n b, bs.get? n = some b ↔ LastBound history n b
  entries : ∀ n b, (n, b) ∈ bs.entries ↔ bs.get? n = some b

/-! ### One more operation -/

section

variable {history : List Operation} {o : Operation} {i : Nat} {left : Option Binding}

theorem Leaves.lt (h : Leaves history n i left) : i < history.length := by
  obtain ⟨o, ho, -⟩ := h
  exact (List.getElem?_eq_some_iff.mp ho).1

theorem leaves_concat : Leaves (history ++ [o]) n i left ↔
    Leaves history n i left ∨ i = history.length ∧ o.name = n ∧ o.binding? = left := by
  unfold Leaves
  by_cases hi : i < history.length
  · simp [List.getElem?_append_left hi, Nat.ne_of_lt hi]
  · by_cases hlast : i = history.length
    · subst hlast
      simp
    · have hbefore : history[i]? = none := List.getElem?_eq_none (by omega)
      have hafter : (history ++ [o])[i]? = none :=
        List.getElem?_eq_none (by rw [List.length_append, List.length_singleton]; omega)
      simp [hbefore, hafter, hlast]

theorem leaves_concat_of_ne (h : o.name ≠ n) :
    Leaves (history ++ [o]) n i left ↔ Leaves history n i left := by
  simp [leaves_concat, h]

theorem stands_concat_of_ne (h : o.name ≠ n) :
    Stands (history ++ [o]) n i ↔ Stands history n i := by
  simp only [Stands, leaves_concat_of_ne h]

theorem entered_concat_of_ne (h : o.name ≠ n) :
    Entered (history ++ [o]) n i ↔ Entered history n i := by
  simp only [Entered, stands_concat_of_ne h]

theorem lastBound_concat_of_ne (h : o.name ≠ n) :
    LastBound (history ++ [o]) n b ↔ LastBound history n b := by
  simp only [LastBound, leaves_concat_of_ne h]

theorem Stands.lt (h : Stands history n i) : i < history.length := by
  obtain ⟨⟨b, hb⟩, -⟩ := h
  exact hb.lt

theorem stands_concat_of_some (h : o.binding? = some b) :
    Stands (history ++ [o]) o.name i ↔ Stands history o.name i ∨ i = history.length := by
  constructor
  · rintro ⟨⟨b', hb'⟩, hlater⟩
    rcases leaves_concat.mp hb' with hb' | ⟨hi, -, -⟩
    · exact .inl ⟨⟨b', hb'⟩, fun j hj hremoved => hlater j hj (leaves_concat.mpr (.inl hremoved))⟩
    · exact .inr hi
  · rintro (⟨⟨b', hb'⟩, hlater⟩ | rfl)
    · refine ⟨⟨b', leaves_concat.mpr (.inl hb')⟩, fun j hj hremoved => ?_⟩
      rcases leaves_concat.mp hremoved with hremoved | ⟨-, -, hnone⟩
      · exact hlater j hj hremoved
      · rw [h] at hnone
        cases hnone
    · refine ⟨⟨b, leaves_concat.mpr (.inr ⟨rfl, rfl, h⟩)⟩, fun j hj hremoved => ?_⟩
      have hlt := hremoved.lt
      rw [List.length_append, List.length_singleton] at hlt
      omega

theorem not_stands_concat_of_none (h : o.binding? = none) : ¬ Stands (history ++ [o]) o.name i := by
  intro hstands
  have hlt := hstands.lt
  rw [List.length_append, List.length_singleton] at hlt
  have hremoved : Leaves (history ++ [o]) o.name history.length none :=
    leaves_concat.mpr (.inr ⟨rfl, rfl, h⟩)
  rcases Nat.lt_or_eq_of_le (Nat.le_of_lt_succ hlt) with hi | rfl
  · exact hstands.2 _ hi hremoved
  · obtain ⟨b, hb⟩ := hstands.1
    rcases leaves_concat.mp hb with hb | ⟨-, -, hsome⟩
    · exact Nat.lt_irrefl _ hb.lt
    · rw [h] at hsome
      cases hsome

theorem exists_entered (h : Stands history n i) : ∃ k, Entered history n k := by
  classical
  exact ⟨Nat.find ⟨i, h⟩, Nat.find_spec ⟨i, h⟩, fun j hj => Nat.find_min' ⟨i, h⟩ hj⟩

/-- A name that has entered has done so at the same place if it is inserted again. -/
theorem entered_concat_of_entered {k : Nat} (h : o.binding? = some b)
    (hk : Entered history o.name k) :
    Entered (history ++ [o]) o.name i ↔ Entered history o.name i := by
  simp only [Entered, stands_concat_of_some h]
  constructor
  · rintro ⟨hi | rfl, hleast⟩
    · exact ⟨hi, fun j hj => hleast j (.inl hj)⟩
    · exact absurd (hleast k (.inl hk.1)) (Nat.not_le.mpr hk.1.lt)
  · rintro ⟨hi, hleast⟩
    refine ⟨.inl hi, fun j hj => ?_⟩
    rcases hj with hj | rfl
    · exact hleast j hj
    · exact Nat.le_of_lt hi.lt

theorem entered_concat_of_not_entered (h : o.binding? = some b)
    (hnone : ∀ k, ¬ Entered history o.name k) :
    Entered (history ++ [o]) o.name i ↔ i = history.length := by
  have hstands : ∀ j, ¬ Stands history o.name j := fun j hj =>
    (exists_entered hj).elim hnone
  simp only [Entered, stands_concat_of_some h, hstands, false_or]
  exact ⟨fun hi => hi.1, fun hi => ⟨hi, fun j hj => by omega⟩⟩

theorem lastBound_concat_of_some {b' : Binding} (h : o.binding? = some b) :
    LastBound (history ++ [o]) o.name b' ↔ b' = b := by
  have hlast : Leaves (history ++ [o]) o.name history.length (some b) :=
    leaves_concat.mpr (.inr ⟨rfl, rfl, h⟩)
  constructor
  · rintro ⟨i, hi, hlater⟩
    rcases leaves_concat.mp hi with hi | ⟨-, -, hb'⟩
    · exact absurd hlast (hlater _ _ hi.lt)
    · rw [h] at hb'
      exact (Option.some.inj hb').symm
  · rintro rfl
    refine ⟨_, hlast, fun j left hj hleft => ?_⟩
    have hlt := hleft.lt
    rw [List.length_append, List.length_singleton] at hlt
    omega

theorem not_lastBound_concat_of_none (h : o.binding? = none) :
    ¬ LastBound (history ++ [o]) o.name b := by
  rintro ⟨i, hi, hlater⟩
  have hlast : Leaves (history ++ [o]) o.name history.length none :=
    leaves_concat.mpr (.inr ⟨rfl, rfl, h⟩)
  rcases leaves_concat.mp hi with hi | ⟨-, -, hsome⟩
  · exact hlater _ _ hi.lt hlast
  · rw [h] at hsome
    cases hsome

end

namespace Records

variable {history : List Operation} {o : Operation} {i : Nat}

/-- A listed name has entered where it had when a name was inserted. -/
theorem entered_of_mem (h : Records history bs) (hb : o.binding? = some b) (hn : n ∈ bs.names) :
    Entered (history ++ [o]) n i ↔ Entered history n i := by
  by_cases hname : o.name = n
  · subst hname
    obtain ⟨k, hk⟩ := (h.listed _).mp hn
    exact entered_concat_of_entered hb hk
  · exact entered_concat_of_ne hname

theorem put (h : Records history bs) (hb : o.binding? = some b) :
    Records (history ++ [o]) (bs.put o.name b) := by
  have hordered : bs.names.Pairwise fun m n =>
      ∀ i j, Entered (history ++ [o]) m i → Entered (history ++ [o]) n j → i < j :=
    h.ordered.imp_of_mem fun hm hn hlt i j hi hj =>
      hlt i j ((h.entered_of_mem hb hm).mp hi) ((h.entered_of_mem hb hn).mp hj)
  have hbound : ∀ n b', (bs.put o.name b).get? n = some b' ↔ LastBound (history ++ [o]) n b' := by
    intro n b'
    by_cases hname : o.name = n
    · subst hname
      rw [get?_put_self, lastBound_concat_of_some hb, Option.some.injEq, eq_comm]
    · rw [get?_put_of_ne (Ne.symm hname), lastBound_concat_of_ne hname, h.bound]
  by_cases hmem : o.name ∈ bs.names
  · have hnames : (bs.put o.name b).names = bs.names := names_put_of_mem hmem
    have hnodup : (bs.put o.name b).names.Nodup := hnames ▸ h.nodup
    refine ⟨hnodup, fun n => ?_, hnames ▸ hordered, hbound, fun n b' => mem_entries_iff hnodup⟩
    rw [hnames, h.listed]
    by_cases hname : o.name = n
    · subst hname
      obtain ⟨k, hk⟩ := (h.listed _).mp hmem
      simp only [entered_concat_of_entered hb hk]
    · simp only [entered_concat_of_ne hname]
  · have hnames : (bs.put o.name b).names = bs.names ++ [o.name] := names_put_of_not_mem hmem
    have hnone : ∀ k, ¬ Entered history o.name k := fun k hk => hmem ((h.listed _).mpr ⟨k, hk⟩)
    have hlast : ∀ {i}, Entered (history ++ [o]) o.name i ↔ i = history.length :=
      entered_concat_of_not_entered hb hnone
    have hnodup : (bs.put o.name b).names.Nodup := by
      rw [hnames, ← List.concat_eq_append]
      exact h.nodup.concat hmem
    refine ⟨hnodup, fun n => ?_, ?_, hbound, fun n b' => mem_entries_iff hnodup⟩
    · rw [hnames, List.mem_append, List.mem_singleton, h.listed]
      by_cases hname : o.name = n
      · subst hname
        exact ⟨fun _ => ⟨_, hlast.mpr rfl⟩, fun _ => .inr rfl⟩
      · simp only [entered_concat_of_ne hname, Ne.symm hname, or_false]
    · rw [hnames]
      refine List.pairwise_append.mpr ⟨hordered, List.pairwise_singleton _ _, ?_⟩
      intro m hm n hn i j hi hj
      rw [List.mem_singleton] at hn
      subst hn
      have hbefore := ((h.entered_of_mem hb hm).mp hi).1.lt
      rwa [← hlast.mp hj] at hbefore

theorem remove (h : Records history bs) (hb : o.binding? = none) :
    Records (history ++ [o]) (bs.remove o.name).2 := by
  have hnames := names_remove bs o.name
  have hnodup : (bs.remove o.name).2.names.Nodup := hnames ▸ h.nodup.erase _
  have hother : ∀ {m}, m ∈ bs.names.erase o.name → o.name ≠ m := fun hm =>
    Ne.symm (h.nodup.mem_erase_iff.mp hm).1
  refine ⟨hnodup, fun n => ?_, ?_, fun n b => ?_, fun n b => mem_entries_iff hnodup⟩
  · rw [hnames, h.nodup.mem_erase_iff, h.listed]
    by_cases hname : o.name = n
    · subst hname
      refine ⟨fun hn => absurd rfl hn.1, fun ⟨i, hi⟩ => ?_⟩
      exact absurd hi.1 (not_stands_concat_of_none hb)
    · simp only [entered_concat_of_ne hname, Ne.symm hname, ne_eq, not_false_eq_true, true_and]
  · rw [hnames]
    refine (h.ordered.sublist List.erase_sublist).imp_of_mem fun hm hn hlt i j hi hj => ?_
    exact hlt i j ((entered_concat_of_ne (hother hm)).mp hi)
      ((entered_concat_of_ne (hother hn)).mp hj)
  · by_cases hname : o.name = n
    · subst hname
      rw [get?_remove_self h.nodup]
      exact ⟨fun hnone => (nomatch hnone), fun hlast =>
        absurd hlast (not_lastBound_concat_of_none hb)⟩
    · rw [get?_remove_of_ne (Ne.symm hname), lastBound_concat_of_ne hname, h.bound]

theorem apply (h : Records history bs) (o : Operation) :
    Records (history ++ [o]) (o.apply bs) := by
  cases hb : o.binding? with
  | none =>
    rw [Operation.apply_of_none hb]
    exact h.remove hb
  | some b =>
    rw [Operation.apply_of_some hb]
    exact h.put hb

theorem empty : Records [] {} where
  nodup := List.nodup_nil
  listed _ := ⟨fun hn => (nomatch hn), fun ⟨i, hi⟩ => absurd hi.1.lt (Nat.not_lt_zero i)⟩
  ordered := List.Pairwise.nil
  bound _ _ := ⟨fun hb => (nomatch hb), fun ⟨i, hi, _⟩ => absurd hi.lt (Nat.not_lt_zero i)⟩
  entries _ _ := ⟨fun hb => (nomatch hb), fun hb => (nomatch hb)⟩

end Records

/-- The bindings after a history of operations. -/
def replay (history : List Operation) : Bindings := history.foldl (fun bs o => o.apply bs) {}

theorem replay_concat (history : List Operation) (o : Operation) :
    replay (history ++ [o]) = o.apply (replay history) := by
  simp [replay]

theorem records_replay (history : List Operation) : Records history (replay history) := by
  induction history using List.reverseRecOn with
  | nil => exact .empty
  | append_singleton history o ih =>
    rw [replay_concat]
    exact ih.apply o

/-! ### Several sets -/

/-- What a host with several sets of bindings does: it makes a set without bindings, works on a set,
or makes a copy of one. -/
inductive Step where
  | create
  | operate (set : Nat) (o : Operation)
  | clone (set : Nat)

/-- The sets after a step, each being what `act` makes of `fresh`. -/
def Step.run {α : Type} (fresh : α) (act : Operation → α → α) (sets : List α) : Step → List α
  | create => sets ++ [fresh]
  | operate set o => sets.modify set (act o)
  | clone set => sets ++ sets[set]?.toList

/-- The sets after some steps. -/
def sets (steps : List Step) : List Bindings := steps.foldl (Step.run {} Operation.apply) []

/-- The histories of the sets after some steps. -/
def histories (steps : List Step) : List (List Operation) :=
  steps.foldl (Step.run [] fun o history => history ++ [o]) []

theorem sets_eq (steps : List Step) : sets steps = (histories steps).map replay := by
  have hstep : ∀ (known : List (List Operation)) (step : Step),
      Step.run {} Operation.apply (known.map replay) step =
        (Step.run [] (fun o history => history ++ [o]) known step).map replay := by
    intro known step
    cases step with
    | create => simp [Step.run, replay]
    | operate set o =>
      refine List.ext_getElem? fun i => ?_
      simp only [Step.run, List.getElem?_map, List.getElem?_modify]
      cases known[i]? with
      | none => rfl
      | some history =>
        by_cases hi : set = i
        · simp [hi, replay_concat]
        · simp [hi]
    | clone set =>
      cases h : known[set]? with
      | none => simp [Step.run, h]
      | some history => simp [Step.run, h]
  rw [sets, histories, ← List.foldl_hom (List.map replay) hstep, List.map_nil]

/-- A set of bindings is an insertion-ordered map. Whatever a host does with its sets, each of them
is what its own history of operations records: it lists each name at most once, in the order in
which the names were first inserted since they were last removed, and a name is bound to what was
inserted last, unless it was removed after that. An insertion and a removal yield the binding that
was there before, an operation leaves the entries of all other names as they are and in their order,
and it leaves all other sets as they are, copies among them. -/
theorem insertion_ordered (steps : List Step) :
    List.Forall₂ Records (histories steps) (sets steps) ∧
      (∀ (bs : Bindings) (name : String) (b : Binding),
        (bs.insert name b).1 = bs.get? name ∧ (bs.remove name).1 = bs.get? name) ∧
      (∀ (bs : Bindings) (o : Operation),
        (o.apply bs).entries.filter (·.1 ≠ o.name) = bs.entries.filter (·.1 ≠ o.name)) ∧
      ∀ (set : Nat) (o : Operation) (other : Nat),
        (sets (steps ++ [.operate set o]))[other]? =
          if set = other then (sets steps)[other]?.map o.apply else (sets steps)[other]? := by
  refine ⟨?_, fun bs name b => ⟨fst_insert bs name b, fst_remove bs name⟩,
    fun bs o => o.filter_apply bs, fun set o other => ?_⟩
  · rw [sets_eq, List.forall₂_map_right_iff, List.forall₂_same]
    exact fun history _ => records_replay history
  · have hstep : sets (steps ++ [.operate set o]) = (sets steps).modify set o.apply := by
      rw [sets, List.foldl_append]
      rfl
    rw [hstep, List.getElem?_modify]
    split <;> simp

end ScriptBridge.Bindings
