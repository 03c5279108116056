import ScriptBridge.Proofs.Conversion.NamedElements
import ScriptBridge.Proofs.RValue.Parts

/-!
# Where a conversion fails

The error of a conversion is a cause within entries (`ConversionError.within`), whose keys are the
way from the value to the part that is to blame.

To the script, an error names the integer out of range or the map with an empty key, unless the
integer is an item of a list that becomes a vector of integers: then the keys end at the list
(`Value.toRValue_names`). To the host, an error names the first part of an unsupported type
(`RValue.toValue_names`); the parts are listed with their keys in `RValue.parts`, in the order in
which the conversion comes to them (`RValue.errorOf?_toValue`).
-/

namespace ScriptBridge

namespace ConversionError

variable {keys keys' : List String} {cause cause' : ConversionError}

/-- A cause within the entries of these keys, the outermost first. -/
def within (keys : List String) (cause : ConversionError) : ConversionError :=
  keys.foldr .entry cause

/-- An error that is not the error of an entry. -/
def IsCause (e : ConversionError) : Prop := ∀ key cause, e ≠ .entry key cause

theorem within_inj (h : IsCause cause) (h' : IsCause cause')
    (heq : within keys cause = within keys' cause') : keys = keys' ∧ cause = cause' := by
  induction keys generalizing keys' with
  | nil =>
    cases keys' with
    | nil => exact ⟨rfl, heq⟩
    | cons key' keys' => exact absurd heq (h key' _)
  | cons key keys ih =>
    cases keys' with
    | nil => exact absurd heq.symm (h' key _)
    | cons key' keys' =>
      obtain ⟨rfl, hrest⟩ := entry.inj heq
      obtain ⟨rfl, rfl⟩ := ih hrest
      exact ⟨rfl, rfl⟩

end ConversionError

namespace Value

open ConversionError (within)

variable {v w : Value} {e c : ConversionError} {n : Int64} {key : String} {keys : List String}
  {items : List Value} {entries : List (String × Value)} {kind : VectorKind}

/-! ### The way to a part -/

/-- What stands under a key: in a list the item at that position, counted from one. -/
def child? (key : String) : Value → Option Value
  | list items => Dict.get? key (items.mapIdx fun i v => (toString (i + 1), v))
  | map entries => Dict.get? key entries
  | _ => none

/-- What keys lead to, one after the other. -/
def at? (v : Value) (keys : List String) : Option Value := keys.foldlM (fun w key => w.child? key) v

theorem at?_cons (v : Value) (key : String) (keys : List String) :
    v.at? (key :: keys) = (v.child? key).bind (·.at? keys) := rfl

/-- The items of a list are found under their positions, wherever these start. -/
theorem get?_mapIdx (items : List Value) (start i : Nat) :
    Dict.get? (toString (start + i)) (items.mapIdx fun j v => (toString (start + j), v)) =
      items[i]? := by
  induction items generalizing start i with
  | nil => rfl
  | cons v items ih =>
    -- Behind the first item the positions start one later.
    have hshift : (fun j v => (toString (start + (j + 1)), v) : Nat → Value → String × Value) =
        fun j v => (toString (start + 1 + j), v) := by
      funext j v
      rw [Nat.add_right_comm]
      rfl
    rw [List.mapIdx_cons, Dict.get?_cons, hshift]
    cases i with
    | zero => exact if_pos rfl
    | succ i =>
      have hne : toString (start + 0) ≠ toString (start + (i + 1)) := fun h => by
        have heq := Nat.repr_injective h
        omega
      rw [if_neg hne, List.getElem?_cons_succ, ← ih (start + 1) i, Nat.add_right_comm]
      rfl

theorem child?_list (i : Nat) : (list items).child? (toString (i + 1)) = items[i]? := by
  have h := get?_mapIdx items 1 i
  simp only [Nat.add_comm 1] at h
  exact h

theorem child?_map (h : Dict.Sorted entries) (hmem : (key, w) ∈ entries) :
    (map entries).child? key = some w := by
  rw [child?, ← h.insert_of_mem hmem, Dict.get?_insert_self]

theorem partOf_of_child? (h : v.child? key = some w) {u : Value} (hu : PartOf u w) :
    PartOf u v := by
  cases v with
  | list items =>
    have hall : Dict.All (· ∈ items) (items.mapIdx fun i v => (toString (i + 1), v)) := by
      intro x hx
      obtain ⟨i, hi, rfl⟩ := List.mem_mapIdx.mp hx
      exact List.getElem_mem hi
    exact .item (hall.get? h) hu
  | map entries =>
    have hall : Dict.All (fun w => ∃ x ∈ entries, x.2 = w) entries := fun x hx => ⟨x, hx, rfl⟩
    obtain ⟨x, hx, rfl⟩ := hall.get? h
    exact .entry hx hu
  | _ => cases h

theorem partOf_of_at? (h : v.at? keys = some w) : PartOf w v := by
  induction keys generalizing v with
  | nil =>
    cases h
    exact .self
  | cons key keys ih =>
    obtain ⟨u, hu, hw⟩ := Option.bind_eq_some_iff.mp h
    exact partOf_of_child? hu (ih hw)

/-! ### What is to blame -/

/-- No integer of scripts, all of which have 32 bits, or the least of them. -/
def OutOfRange (n : Int64) : Prop := n.toInt ≤ -2147483648 ∨ 2147483647 < n.toInt

/-- The value cannot be converted for a cause of its own. -/
inductive Offends : Value → ConversionError → Prop where
  | int {n : Int64} (range : OutOfRange n) : Offends (int n) (.integerOutOfRange n)
  | map {entries : List (String × Value)} (mem : "" ∈ entries.map (·.1)) :
      Offends (map entries) .emptyKey

/-- The value is a list that would be a vector of integers, and one of its items is out of range. -/
inductive OffendsAsVector : Value → ConversionError → Prop where
  | item {items : List Value} {i : Nat} {n : Int64} (kind : listKind? items = some .integer)
      (item : items[i]? = some (int n)) (range : OutOfRange n) :
      OffendsAsVector (list items) (.integerOutOfRange n)

/-- An error's keys lead to a value that is related to its cause. -/
def Names (R : Value → ConversionError → Prop) (v : Value) (e : ConversionError) : Prop :=
  ∃ keys w cause, e = within keys cause ∧ v.at? keys = some w ∧ R w cause

variable {R : Value → ConversionError → Prop}

theorem Names.here (h : R v e) : Names R v e := ⟨[], v, e, rfl, rfl, h⟩

theorem Names.under (hchild : v.child? key = some w) (h : Names R w c) :
    Names R v (.entry key c) := by
  obtain ⟨keys, u, cause, rfl, hu, hR⟩ := h
  refine ⟨key :: keys, u, cause, rfl, ?_, hR⟩
  rw [at?_cons, hchild, Option.bind_some, hu]

theorem Offends.isCause (h : Offends v e) : e.IsCause := by
  cases h with
  | int | map => nofun

theorem OffendsAsVector.isCause (h : OffendsAsVector v e) : e.IsCause := by
  cases h with
  | item => nofun

theorem not_names_both (h : Names Offends v e) : ¬Names OffendsAsVector v e := by
  rintro ⟨keys', w', cause', heq, hw', hvector⟩
  obtain ⟨keys, w, cause, rfl, hw, hoffends⟩ := h
  obtain ⟨rfl, rfl⟩ := ConversionError.within_inj hoffends.isCause hvector.isCause heq
  obtain rfl : w = w' := Option.some.inj (hw.symm.trans hw')
  cases hvector with
  | item => cases hoffends

/-! ### Failures of the conversion to the script -/

theorem toInt32_eq_error (h : toInt32 n = .error e) : OutOfRange n ∧ e = .integerOutOfRange n := by
  rw [toInt32] at h
  split at h
  · cases h
  · next hrange =>
    cases h
    exact ⟨by unfold OutOfRange; omega, rfl⟩

theorem toVector_eq_error (hkind : listKind? items = some kind)
    (h : toVector kind items = .error e) : OffendsAsVector (list items) e := by
  cases kind with
  | integer =>
    rw [toVector, ← errorOf?_eq_some, errorOf?_map, errorOf?_mapM] at h
    obtain ⟨v, hv, he⟩ := List.exists_of_findSome?_eq_some h
    obtain ⟨i, hi⟩ := List.mem_iff_getElem?.mp hv
    cases v with
    | int n =>
      rw [integerElement, errorOf?_map, errorOf?_eq_some] at he
      obtain ⟨hrange, rfl⟩ := toInt32_eq_error he
      exact .item hkind hi hrange
    | _ => cases he
  | _ => cases h

theorem itemsToRValues_eq_error {position : Nat} (h : itemsToRValues position items = .error e) :
    ∃ i w c, items[i]? = some w ∧ w.toRValue = .error c ∧
      e = .entry (toString (position + i)) c := by
  induction items generalizing position with
  | nil => cases h
  | cons v items ih =>
    rw [itemsToRValues, ← errorOf?_eq_some, errorOf?_seq, errorOf?_mapError,
      Option.or_eq_some_iff] at h
    rcases h with h | ⟨-, h⟩
    · obtain ⟨c, hc, rfl⟩ := Option.map_eq_some_iff.mp h
      exact ⟨0, v, c, rfl, errorOf?_eq_some.mp hc, rfl⟩
    · obtain ⟨i, w, c, hw, hc, rfl⟩ := ih (errorOf?_eq_some.mp h)
      refine ⟨i + 1, w, c, hw, hc, ?_⟩
      rw [Nat.add_right_comm]
      rfl

theorem entriesToRValues_eq_error (h : entriesToRValues entries = .error e) :
    ("" ∈ entries.map (·.1) ∧ e = .emptyKey) ∨
      ∃ key w c, (key, w) ∈ entries ∧ w.toRValue = .error c ∧ e = .entry key c := by
  induction entries with
  | nil => cases h
  | cons x entries ih =>
    obtain ⟨key, v⟩ := x
    rw [entriesToRValues] at h
    split at h
    · next hkey =>
      cases h
      exact .inl ⟨hkey ▸ List.mem_cons_self, rfl⟩
    · rw [← errorOf?_eq_some, errorOf?_seq, errorOf?_mapError, Option.or_eq_some_iff] at h
      rcases h with h | ⟨-, h⟩
      · obtain ⟨c, hc, rfl⟩ := Option.map_eq_some_iff.mp h
        exact .inr ⟨key, v, c, List.mem_cons_self, errorOf?_eq_some.mp hc, rfl⟩
      · rcases ih (errorOf?_eq_some.mp h) with ⟨hmem, rfl⟩ | ⟨key', w, c, hmem, hc, rfl⟩
        · exact .inl ⟨List.mem_cons_of_mem _ hmem, rfl⟩
        · exact .inr ⟨key', w, c, List.mem_cons_of_mem _ hmem, hc, rfl⟩

/-- The error names what is to blame, or the vector that it would be in. -/
theorem names_of_toRValue (hordered : v.Ordered) (h : v.toRValue = .error e) :
    Names Offends v e ∨ Names OffendsAsVector v e := by
  induction v using byParts generalizing e with
  | null | bool | float | str => cases h
  | int n =>
    rw [toRValue, ← errorOf?_eq_some, errorOf?_map, errorOf?_eq_some] at h
    obtain ⟨hrange, rfl⟩ := toInt32_eq_error h
    exact .inl (.here (.int hrange))
  | list items ih =>
    cases hkind : listKind? items with
    | some kind =>
      rw [toRValue_list_vector hkind] at h
      exact .inr (.here (toVector_eq_error hkind h))
    | none =>
      rw [toRValue, hkind, ← errorOf?_eq_some, errorOf?_bind_pure, errorOf?_eq_some] at h
      obtain ⟨i, w, c, hw, hc, rfl⟩ := itemsToRValues_eq_error h
      have hmem : w ∈ items := List.mem_of_getElem? hw
      have hchild : (list items).child? (toString (1 + i)) = some w := by
        rw [Nat.add_comm, child?_list, hw]
      exact (ih w hmem (ordered_list.mp hordered w hmem) hc).imp (.under hchild) (.under hchild)
  | map entries ih =>
    obtain ⟨hsorted, hparts⟩ := ordered_map.mp hordered
    rw [toRValue, ← errorOf?_eq_some, errorOf?_bind_pure, errorOf?_eq_some] at h
    rcases entriesToRValues_eq_error h with ⟨hempty, rfl⟩ | ⟨key, w, c, hmem, hc, rfl⟩
    · exact .inl (.here (.map hempty))
    · have hchild := child?_map hsorted hmem
      exact (ih _ hmem (hparts _ hmem) hc).imp (.under hchild) (.under hchild)

/-- The error of a conversion that fails leads to the integer out of range or the map with an empty
key, unless it leads to a list with the integer that would be a vector of integers. If all these
lists in the value are in range, it is the former. -/
theorem toRValue_names (hordered : v.Ordered) (h : v.toRValue = .error e) :
    (Names Offends v e ↔ ¬Names OffendsAsVector v e) ∧
    ((∀ items n, PartOf (list items) v → listKind? items = some .integer → int n ∈ items →
      ¬OutOfRange n) → Names Offends v e) := by
  have hnames := names_of_toRValue hordered h
  refine ⟨⟨not_names_both, hnames.resolve_right⟩, fun hvectors => hnames.resolve_right ?_⟩
  rintro ⟨keys, w, cause, rfl, hw, hvector⟩
  cases hvector with
  | item hkind hitem hrange =>
    exact hvectors _ _ (partOf_of_at? hw) hkind (List.mem_of_getElem? hitem) hrange

/-- An integer out of range three levels down, with a vector of integers beside it. -/
theorem toRValue_names_nested :
    let n : Int64 := 1099511627776
    let v := map [("a", list [int 1, int 2]), ("b", list [list [int n]])]
    let e := within ["b", "1", "1"] (.integerOutOfRange n)
    v.Ordered ∧ v.toRValue = .error e ∧
    (∀ items n, PartOf (list items) v → listKind? items = some .integer → int n ∈ items →
      ¬OutOfRange n) ∧
    Names Offends v e := by
  intro n v e
  have hsorted : Dict.Sorted [("a", list [int 1, int 2]), ("b", list [list [int n]])] := by
    unfold Dict.Sorted
    decide
  have hordered : v.Ordered := by simp [v, ordered_list, ordered_map, hsorted]
  have herror : v.toRValue = .error e := rfl
  have hvectors : ∀ items n, PartOf (list items) v → listKind? items = some .integer →
      int n ∈ items → ¬OutOfRange n := by
    intro items k hpart hkind hmem
    have hitems : items = [int 1, int 2] ∨ items = [list [int n]] ∨ items = [int n] := by
      simpa [v, partOf_map, partOf_list] using hpart
    rcases hitems with rfl | rfl | rfl
    · have hk : k = 1 ∨ k = 2 := by simpa using hmem
      rcases hk with rfl | rfl <;> unfold OutOfRange <;> decide
    · cases hkind
    · cases hkind
  exact ⟨hordered, herror, hvectors, (toRValue_names hordered herror).2 hvectors⟩

/-- In a list that would be a vector of integers nothing tells which one is out of range. -/
theorem toRValue_names_no_item :
    let n : Int64 := 1099511627776
    let v := list [int 1, int n]
    v.Ordered ∧ v.at? ["2"] = some (int n) ∧ OutOfRange n ∧
    v.toRValue = .error (.integerOutOfRange n) ∧ ¬Names Offends v (.integerOutOfRange n) := by
  intro n v
  have hordered : v.Ordered := by simp [v, ordered_list]
  have hrange : OutOfRange n := .inr (by decide)
  have hvector : OffendsAsVector v (.integerOutOfRange n) := .item (i := 1) rfl rfl hrange
  exact ⟨hordered, rfl, hrange, rfl, fun h => not_names_both h (.here hvector)⟩

end Value

namespace RValue

open ConversionError (within)

variable {x y : RValue} {values : List RValue} {names : Option (List String)}
  {e : ConversionError} {keys : List String} {i : Nat}

/-! ### The parts and the ways to them -/

/-- The key of a list's element at a position, from zero: its name, or its position from one if it
has no name or an empty one. -/
def elementKey (names : Option (List String)) (i : Nat) : String :=
  let name := (names.getD [])[i]?.getD ""
  if name = "" then toString (i + 1) else name

theorem keyOf_eq (names : List String) (i : Nat) : keyOf names i = elementKey (some names) i := by
  rw [keyOf, elementKey, Option.getD_some]
  cases hdrop : names.drop i with
  | nil =>
    have hnone : names[i]? = none := List.getElem?_eq_none (List.drop_eq_nil_iff.mp hdrop)
    rw [hnone]
    rfl
  | cons name rest =>
    have hname : names[i]? = some name := by
      rw [← List.head?_drop, hdrop, List.head?_cons]
    rw [hname]
    rfl

mutual

/-- A value and its parts with the keys that lead to them, each list before its elements. -/
def parts : RValue → List (List String × RValue)
  | list values names => ([], list values names) :: elementParts names 0 values
  | x => [([], x)]

def elementParts (names : Option (List String)) (i : Nat) :
    List RValue → List (List String × RValue)
  | [] => []
  | x :: xs =>
    (parts x).map (fun p => (elementKey names i :: p.1, p.2)) ++ elementParts names (i + 1) xs

end

/-- The type of a value that has no counterpart because of its type. -/
def unsupportedType? : RValue → Option String
  | unsupported t => some t
  | _ => none

/-- The first of some parts that is of an unsupported type: the keys that lead to it, and its
type. -/
def firstUnsupported? (ps : List (List String × RValue)) : Option (List String × String) :=
  ps.findSome? fun p => p.2.unsupportedType?.map (p.1, ·)

theorem exists_mem_elementParts {xs : List RValue} :
    (∃ keys, (keys, y) ∈ elementParts names i xs) ↔ ∃ x ∈ xs, ∃ keys, (keys, y) ∈ x.parts := by
  induction xs generalizing i with
  | nil => simp [elementParts]
  | cons x xs ih =>
    simp only [elementParts, List.mem_append, exists_or, ih, List.mem_cons, exists_eq_or_imp]
    simp

theorem exists_mem_parts (x : RValue) : (∃ keys, (keys, y) ∈ x.parts) ↔ PartOf y x := by
  induction x using byElements with
  | list values names ih =>
    have helements : (∃ x ∈ values, ∃ keys, (keys, y) ∈ x.parts) ↔ ∃ x ∈ values, PartOf y x :=
      exists_congr fun x => and_congr_right fun hx => ih x hx
    simp only [parts, List.mem_cons, exists_or, exists_mem_elementParts, helements, partOf_list]
    simp
  | null | logical | integer | double | character | unsupported =>
    constructor
    · rintro ⟨keys, hmem⟩
      cases List.mem_singleton.mp hmem
      exact .self
    · intro h
      cases h
      exact ⟨[], List.mem_singleton_self _⟩

/-! ### Failures of the conversion to the host -/

/-- The error that the first part of an unsupported type causes. -/
def partsError? (ps : List (List String × RValue)) : Option ConversionError :=
  (firstUnsupported? ps).map fun p => within p.1 (.unsupported p.2)

theorem firstUnsupported?_under (key : String) (ps : List (List String × RValue)) :
    firstUnsupported? (ps.map fun p => (key :: p.1, p.2)) =
      (firstUnsupported? ps).map fun p => (key :: p.1, p.2) := by
  rw [firstUnsupported?, firstUnsupported?, List.findSome?_map, List.map_findSome?]
  congr 1
  funext p
  simp only [Function.comp_apply, Option.map_map]
  rfl

theorem partsError?_elementParts (x : RValue) (xs : List RValue) :
    partsError? (elementParts names i (x :: xs)) =
      ((partsError? x.parts).map (.entry (elementKey names i))).or
        (partsError? (elementParts names (i + 1) xs)) := by
  have happend : firstUnsupported? (elementParts names i (x :: xs)) =
      ((firstUnsupported? x.parts).map fun p => (elementKey names i :: p.1, p.2)).or
        (firstUnsupported? (elementParts names (i + 1) xs)) := by
    rw [elementParts, ← firstUnsupported?_under]
    exact List.findSome?_append
  rw [partsError?, happend, Option.map_or, Option.map_map, partsError?, Option.map_map]
  rfl

section Elements

variable {xs : List RValue} (hxs : ∀ x ∈ xs, errorOf? x.toValue = partsError? x.parts)
include hxs

theorem errorOf?_elementsToValues (i : Nat) :
    errorOf? (elementsToValues (i + 1) xs) = partsError? (elementParts none i xs) := by
  induction xs generalizing i with
  | nil => rfl
  | cons x xs ih =>
    obtain ⟨hx, hxs⟩ := List.forall_mem_cons.mp hxs
    rw [elementsToValues, errorOf?_seq, errorOf?_mapError, hx, ih hxs, partsError?_elementParts]
    rfl

theorem errorOf?_namedToValues (names : List String) (i : Nat) :
    errorOf? (namedToValues (i + 1) (names.drop i) xs) =
      partsError? (elementParts (some names) i xs) := by
  induction xs generalizing i with
  | nil => rfl
  | cons x xs ih =>
    obtain ⟨hx, hxs⟩ := List.forall_mem_cons.mp hxs
    rw [namedToValues, errorOf?_seq, errorOf?_mapError, hx, List.tail_drop, ih hxs,
      partsError?_elementParts, ← keyOf_eq]
    rfl

end Elements

/-- The conversion to the host fails with the error that the first of the parts causes. -/
theorem errorOf?_toValue (x : RValue) : errorOf? x.toValue = partsError? x.parts := by
  induction x using byElements with
  | null | logical | integer | double | character | unsupported => rfl
  | list values names ih =>
    cases names with
    | none =>
      rw [toValue, errorOf?_bind_pure, errorOf?_elementsToValues ih 0]
      rfl
    | some names =>
      have helements := errorOf?_namedToValues ih names 0
      rw [List.drop_zero] at helements
      rw [toValue, errorOf?_bind_pure, helements]
      rfl

theorem toValue_eq_error : x.toValue = .error e ↔
    ∃ keys t, firstUnsupported? x.parts = some (keys, t) ∧ e = within keys (.unsupported t) := by
  rw [← errorOf?_eq_some, errorOf?_toValue, partsError?, Option.map_eq_some_iff]
  constructor
  · rintro ⟨⟨keys, t⟩, hfirst, rfl⟩
    exact ⟨keys, t, hfirst, rfl⟩
  · rintro ⟨keys, t, hfirst, rfl⟩
    exact ⟨(keys, t), hfirst, rfl⟩

theorem exists_firstUnsupported?_iff :
    (∃ p, firstUnsupported? x.parts = some p) ↔ ∃ t, PartOf (unsupported t) x := by
  simp only [← exists_mem_parts]
  constructor
  · rintro ⟨p, hp⟩
    obtain ⟨⟨keys, y⟩, hmem, hy⟩ := List.exists_of_findSome?_eq_some hp
    obtain ⟨t, ht, -⟩ := Option.map_eq_some_iff.mp hy
    cases y with
    | unsupported t => exact ⟨t, keys, hmem⟩
    | _ => cases ht
  · rintro ⟨t, keys, hmem⟩
    refine Option.isSome_iff_exists.mp (List.findSome?_isSome_iff.mpr ⟨_, hmem, rfl⟩)

def IsNamedList (x : RValue) : Prop := ∃ values names, x = list values (some names)

theorem toMap_eq_error : x.toMap = .error e ↔
    (x.IsNamedList ∧ x.toValue = .error e) ∨
      (¬x.IsNamedList ∧ x ≠ list [] none ∧ e = .notAMap x.typeName) := by
  by_cases hnamed : x.IsNamedList
  · have hsame : errorOf? x.toMap = errorOf? x.toValue := by
      obtain ⟨values, names, rfl⟩ := hnamed
      rw [toMap, toValue, errorOf?_map, errorOf?_bind_pure]
    rw [← errorOf?_eq_some, hsame, errorOf?_eq_some]
    simp [hnamed]
  · by_cases hempty : x = list [] none
    · subst hempty
      simp [toMap, hnamed]
    · have hother : x.toMap = .error (.notAMap x.typeName) := by
        rw [toMap]
        · exact fun values names h => hnamed ⟨values, names, h⟩
        · exact hempty
      simp [hother, hnamed, hempty, eq_comm]

/-- The conversion to the host fails exactly if a part is of an unsupported type, and then with the
type of the first such part under the keys that lead to it. The conversion to a map fails in the
same way for a list with names, and with the type of the value for any other but the empty list. -/
theorem toValue_names (x : RValue) :
    ((∃ e, x.toValue = .error e) ↔ ∃ t, PartOf (unsupported t) x) ∧
    (∀ e, x.toValue = .error e ↔
      ∃ keys t, firstUnsupported? x.parts = some (keys, t) ∧ e = within keys (.unsupported t)) ∧
    (∀ e, x.toMap = .error e ↔
      (x.IsNamedList ∧ x.toValue = .error e) ∨
        (¬x.IsNamedList ∧ x ≠ list [] none ∧ e = .notAMap x.typeName)) := by
  refine ⟨?_, fun _ => toValue_eq_error, fun _ => toMap_eq_error⟩
  rw [← exists_firstUnsupported?_iff]
  constructor
  · rintro ⟨e, he⟩
    obtain ⟨keys, t, hfirst, -⟩ := toValue_eq_error.mp he
    exact ⟨(keys, t), hfirst⟩
  · rintro ⟨⟨keys, t⟩, hfirst⟩
    exact ⟨_, toValue_eq_error.mpr ⟨keys, t, hfirst, rfl⟩⟩

/-- The first part of an unsupported type is the second element of a list without a name. -/
example : firstUnsupported? (parts (list [ofInt32 1, list [null, unsupported "closure"] none,
    unsupported "environment"] (some ["a", "", "b"]))) = some (["2", "2"], "closure") := rfl

end RValue

end ScriptBridge
