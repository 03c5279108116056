import ScriptBridge.Proofs.Conversion.RoundTrip
import ScriptBridge.Proofs.RValue.Parts

/-!
# What a script leaves can be set again

A script makes values that the conversion to a script never makes: lists that are named in part or
have names to spare, generic lists of scalars, vectors of one element. Whatever such a value reads
back as, it can be converted to a script again, and reads back as the same then
(`RValue.toValue_settles`).

The values that can be converted there and back are those in which every map is a dictionary with
non-empty keys and every integer fits (`Value.Settled`). Reading a value back makes only such
values: elements without a name are found under their position, which is not empty
(`RValue.keyAt_ne_empty`), and `Dict.ofList` puts the entries in order.
-/

namespace ScriptBridge

open List (Forall₂)

namespace Value

variable {v : Value} {items : List Value} {entries : List (String × Value)}

/-- Every map in the value is a dictionary, and the value has a counterpart among the values of
scripts. -/
structure Settled (v : Value) : Prop where
  ordered : v.Ordered
  encodable : v.Encodable

theorem settled_list (h : ∀ v ∈ items, Settled v) : Settled (list items) where
  ordered := ordered_list.mpr fun v hv => (h v hv).ordered
  encodable := encodable_list.mpr fun v hv => (h v hv).encodable

theorem settled_map (hsorted : Dict.Sorted entries)
    (h : ∀ e ∈ entries, e.1 ≠ "" ∧ Settled e.2) : Settled (map entries) where
  ordered := ordered_map.mpr ⟨hsorted, fun e he => (h e he).2.ordered⟩
  encodable := encodable_map.mpr fun e he => ⟨(h e he).1, (h e he).2.encodable⟩

theorem settled_null : Settled null := ⟨ordered_null, encodable_null⟩

theorem settled_int {n : Int32} (hn : n ≠ Int32.minValue) : Settled (int n.toInt64) where
  ordered := ordered_int _
  encodable := by
    rw [encodable_int, Int32.toInt_toInt64]
    have hlow := RValue.lt_toInt_of_ne hn
    have hhigh := n.toInt_lt
    omega

theorem Settled.exists_toRValue (h : v.Settled) : ∃ x, v.toRValue = .ok x ∧ x.toValue = .ok v := by
  obtain ⟨x, hx⟩ := (exists_toRValue_iff v).mpr h.encodable
  exact ⟨x, hx, toValue_of_toRValue v h.ordered hx⟩

end Value

namespace RValue

open Value (Settled)

variable {x : RValue} {v : Value} {xs : List RValue} {names : List String}
  {entries : List (String × Value)} {position : Nat}

/-! ### Vectors -/

/-- What a vector reads back as is made of null and its elements. -/
theorem settled_vectorToValue {α : Type} {scalar : α → Value} {es : List (Option α)}
    (h : ∀ a, some a ∈ es → Settled (scalar a)) : Settled (vectorToValue scalar es) := by
  have hitems : ∀ w ∈ es.map (fun e => (e.map scalar).getD .null), Settled w := by
    intro w hw
    obtain ⟨e, he, rfl⟩ := List.mem_map.mp hw
    cases e with
    | none => exact Value.settled_null
    | some a => exact h a he
  unfold vectorToValue
  split
  · next w heq => exact hitems w (heq ▸ List.mem_singleton_self w)
  · exact Value.settled_list hitems

/-! ### Named lists -/

theorem keyAt_ne_empty : keyAt position names ≠ "" := by
  have hposition : toString position ≠ "" := by
    intro hempty
    have hdigits := congrArg String.toList hempty
    rw [Nat.toString_eq_ofList_toDigits, String.toList_ofList] at hdigits
    exact Nat.toDigits_ne_nil hdigits
  unfold keyAt
  split
  · exact hposition
  · split
    · exact hposition
    · assumption

/-- The entries of a named list are its elements in their order, each under its key. -/
theorem of_namedToValues (h : namedToValues position names xs = .ok entries) :
    Forall₂ (fun x e => x.toValue = .ok e.2) xs entries ∧
      ∀ i e, entries[i]? = some e → e.1 = keyAt (position + i) (names.drop i) := by
  induction xs generalizing position names entries with
  | nil =>
    cases h
    exact ⟨.nil, fun i e he => by rw [List.getElem?_nil] at he; cases he⟩
  | cons x xs ih =>
    obtain ⟨v, hv, h⟩ := except_bind_eq_ok.mp h
    obtain ⟨es, hes, h⟩ := except_bind_eq_ok.mp h
    obtain rfl := except_pure_eq_ok.mp h
    obtain ⟨hvalues, hkeys⟩ := ih hes
    refine ⟨.cons (except_mapError_eq_ok.mp hv) hvalues, fun i e he => ?_⟩
    cases i with
    | zero =>
      obtain rfl := Option.some.inj he
      rfl
    | succ i =>
      rw [hkeys i e he, List.drop_tail, Nat.add_right_comm, Nat.add_assoc]

/-- What a named list reads back as is settled, if what its elements read back as is. -/
theorem settled_ofList (hxs : ∀ x ∈ xs, ∀ v, x.toValue = .ok v → Settled v)
    (h : namedToValues position names xs = .ok entries) :
    Settled (.map (Dict.ofList entries)) := by
  obtain ⟨hvalues, hkeys⟩ := of_namedToValues h
  refine Value.settled_map (Dict.sorted_ofList entries) fun e he => ?_
  obtain ⟨i, hi⟩ := List.mem_iff_getElem?.mp (Dict.mem_ofList he)
  obtain ⟨x, hx, hxe⟩ := forall₂_getElem? hvalues hi
  have hkey : e.1 ≠ "" := by
    rw [hkeys i e hi]
    exact keyAt_ne_empty
  exact ⟨hkey, hxs x (List.mem_of_getElem? hx) e.2 hxe⟩

/-! ### All values -/

/-- A value without an integer that stands for a missing one reads back as a settled value. -/
theorem settled_of_toValue (x : RValue) (hx : x.Genuine) {v : Value} (h : x.toValue = .ok v) :
    v.Settled := by
  induction x using byElements generalizing v with
  | null =>
    cases h
    exact Value.settled_null
  | logical es =>
    cases h
    exact settled_vectorToValue fun b _ => ⟨Value.ordered_bool b, Value.encodable_bool b⟩
  | integer es =>
    cases h
    exact settled_vectorToValue fun n hn => Value.settled_int (genuine_integer.mp hx n hn)
  | double es =>
    cases h
    exact settled_vectorToValue fun d _ => ⟨Value.ordered_float d, Value.encodable_float d⟩
  | character es =>
    cases h
    exact settled_vectorToValue fun s _ => ⟨Value.ordered_str s, Value.encodable_str s⟩
  | list values names ih =>
    have hvalues : ∀ y ∈ values, ∀ w, y.toValue = .ok w → Settled w :=
      fun y hy w hw => ih y hy (genuine_list.mp hx y hy) hw
    cases names with
    | none =>
      obtain ⟨items, hitems, h⟩ := except_bind_eq_ok.mp h
      obtain rfl := except_pure_eq_ok.mp h
      refine Value.settled_list fun w hw => ?_
      obtain ⟨i, hi⟩ := List.mem_iff_getElem?.mp hw
      obtain ⟨y, hy, hyw⟩ := forall₂_getElem? (elementsToValues_eq_ok.mp hitems) hi
      exact hvalues y (List.mem_of_getElem? hy) w hyw
    | some names =>
      obtain ⟨entries, hentries, h⟩ := except_bind_eq_ok.mp h
      obtain rfl := except_pure_eq_ok.mp h
      exact settled_ofList hvalues hentries
  | unsupported t => cases h

/-- The dictionary that such a value reads back as is a settled map. -/
theorem settled_of_toMap (hx : x.Genuine) {m : Dict Value} (h : x.toMap = .ok m) :
    Settled (.map m) := by
  rw [toMap.eq_def] at h
  split at h
  · obtain ⟨entries, hentries, rfl⟩ := except_map_eq_ok.mp h
    refine settled_ofList (fun y hy w hw => ?_) hentries
    exact settled_of_toValue y (genuine_list.mp hx y hy) hw
  · cases h
    exact Value.settled_map .nil fun e he => nomatch he
  · cases h

/-- Whatever a value without an integer that stands for a missing one reads back as, as a value or
as a dictionary, can be converted to a script, and reads back as the same then. -/
theorem toValue_settles (x : RValue) (hx : x.Genuine) :
    (∀ v, x.toValue = .ok v → ∃ y, v.toRValue = .ok y ∧ y.toValue = .ok v) ∧
    (∀ m, x.toMap = .ok m → ∃ y, (Value.map m).toRValue = .ok y ∧ y.toMap = .ok m) := by
  refine ⟨fun v hv => (settled_of_toValue x hx hv).exists_toRValue, fun m hm => ?_⟩
  have hsettled := settled_of_toMap hx hm
  obtain ⟨y, hy, -⟩ := hsettled.exists_toRValue
  exact ⟨y, hy, Value.toMap_of_toRValue hsettled.ordered hy⟩

/-- A list with a name twice, an element without a name behind one that is named by its position,
and more elements than names. -/
def uneven : RValue :=
  list [integer [some 1, none], list [string "only"] none, logical [none],
    double [some (0 / 0)], list [] none] (some ["2", "", "a", "a"])

/-- It reads back as a map of three entries, which can be set again. -/
theorem toValue_settles_uneven :
    let entries : Dict Value := [("2", .list [.str "only"]), ("5", .list []),
      ("a", .float (0 / 0))]
    uneven.Genuine ∧
    (uneven.toValue = .ok (.map entries) ∧
      ∃ y, (Value.map entries).toRValue = .ok y ∧ y.toValue = .ok (.map entries)) ∧
    uneven.toMap = .ok entries ∧
      ∃ y, (Value.map entries).toRValue = .ok y ∧ y.toMap = .ok entries := by
  intro entries
  have hproper : Proper [some 1, none] :=
    proper_cons (fun n hn => by cases hn; decide) (proper_cons (fun n hn => nomatch hn) proper_nil)
  have hgenuine : uneven.Genuine := by simp [uneven, string, hproper]
  have hvalue : uneven.toValue = .ok (.map entries) := rfl
  have hmap : uneven.toMap = .ok entries := rfl
  obtain ⟨hvalues, hmaps⟩ := toValue_settles uneven hgenuine
  exact ⟨hgenuine, ⟨hvalue, hvalues _ hvalue⟩, hmap, hmaps _ hmap⟩

end RValue

end ScriptBridge
