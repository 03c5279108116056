import ScriptBridge.Proofs.Conversion.RoundTrip
import ScriptBridge.Proofs.RValue.NamedList

/-!
# Lists of scripts as maps of the host

A map of the host reaches a script as a named list. What the script then does to the list by name
is what the host would do to the map by key (`Value.toRValue_access`): reading an element is looking
its key up, setting it is inserting, and setting null is erasing.

After a change the names need not be in order any more, a new one being the last. So the changes are
followed on lists of distinct, non-empty names in any order, whose elements read back as the values
of the map (`RValue.Carries`); setting and removing elements keeps to such lists (`Carries.set`,
`Carries.remove`).
-/

namespace ScriptBridge

open List (Forall₂)

namespace RValue

variable {k : String} {x v r : RValue} {w : Value} {m : Dict Value} {es : List (String × RValue)}
  {ms : List (String × Value)}

/-! ### Entries on both sides -/

/-- An element of a list and an entry of a map: they have the same name, which is not empty, and
their values are related. -/
structure Matched (R : RValue → Value → Prop) (e : String × RValue) (e' : String × Value) :
    Prop where
  key : e.1 = e'.1
  named : e.1 ≠ ""
  value : R e.2 e'.2

variable {R : RValue → Value → Prop}

theorem rel_get? (h : Forall₂ (Matched R) es ms) (k : String) :
    Option.Rel R (Dict.get? k es) (Dict.get? k ms) := by
  induction h with
  | nil => exact .none
  | cons hhead _ ih =>
    rw [Dict.get?_cons, Dict.get?_cons, hhead.key]
    split
    · exact .some hhead.value
    · exact ih

theorem forall₂_putEntry (h : Forall₂ (Matched R) es ms) (hk : k ≠ "") (hv : R v w) :
    Forall₂ (Matched R) (putEntry k v es) (putEntry k w ms) := by
  induction h with
  | nil => exact .cons ⟨rfl, hk, hv⟩ .nil
  | @cons e e' es ms hhead htail ih =>
    rw [putEntry, putEntry, hhead.key]
    split
    · exact .cons ⟨rfl, hk, hv⟩ htail
    · exact .cons hhead ih

theorem forall₂_dropEntry (h : Forall₂ (Matched R) es ms) :
    Forall₂ (Matched R) (dropEntry k es) (dropEntry k ms) := by
  induction h with
  | nil => exact .nil
  | @cons e e' es ms hhead htail ih =>
    rw [dropEntry, dropEntry, hhead.key]
    split
    · exact htail
    · exact .cons hhead ih

theorem ofList_putEntry (h : (ms.map (·.1)).Nodup) (k : String) (w : Value) :
    Dict.ofList (putEntry k w ms) = (Dict.ofList ms).insert k w := by
  refine (Dict.sorted_ofList _).ext ((Dict.sorted_ofList _).insert k w) fun key => ?_
  rw [Dict.get?_ofList_of_nodup (nodup_putEntry h k w), get?_putEntry, Dict.get?_insert,
    Dict.get?_ofList_of_nodup h]

theorem ofList_dropEntry (h : (ms.map (·.1)).Nodup) (k : String) :
    Dict.ofList (dropEntry k ms) = (Dict.ofList ms).erase k := by
  have hdrop : ((dropEntry k ms).map (·.1)).Nodup := (dropEntry_sublist.map _).nodup h
  refine (Dict.sorted_ofList _).ext ((Dict.sorted_ofList _).erase k) fun key => ?_
  rw [Dict.get?_ofList_of_nodup hdrop, get?_dropEntry h, Dict.get?_erase,
    Dict.get?_ofList_of_nodup h]

/-! ### Lists that carry a map -/

/-- The value is a list of distinct, non-empty names, in any order, whose elements read back as the
values of the map. -/
def Carries (m : Dict Value) (r : RValue) : Prop :=
  ∃ (es : List (String × RValue)) (ms : List (String × Value)), r = namedList es ∧
    Forall₂ (Matched fun x w => x.toValue = .ok w) es ms ∧ (ms.map (·.1)).Nodup ∧ Dict.ofList ms = m

theorem Carries.toMap (h : Carries m r) : r.toMap = .ok m := by
  obtain ⟨es, ms, rfl, hreads, -, rfl⟩ := h
  have hnames : es.map (·.1) = ms.map (·.1) := by
    rw [← List.forall₂_eq_eq_eq, List.forall₂_map_left_iff, List.forall₂_map_right_iff]
    exact hreads.imp fun _ _ he => he.key
  have helements : Forall₂ (fun e' x => e'.1 ≠ "" ∧ RValue.toValue x = .ok e'.2) ms
      (es.map (·.2)) := by
    rw [List.forall₂_map_right_iff]
    exact (hreads.imp fun _ _ he => And.intro (he.key ▸ he.named) he.value).flip
  rw [namedList, hnames, RValue.toMap, namedToValues_eq_ok helements]
  rfl

theorem Carries.set (h : Carries m r) (hk : k ≠ "") (hv : v ≠ null) (hw : v.toValue = .ok w) :
    ∃ r', r.setNamed k v = .ok r' ∧ r.setElement (.string k) v = .ok r' ∧
      Carries (m.insert k w) r' := by
  obtain ⟨es, ms, rfl, hreads, hnodup, rfl⟩ := h
  refine ⟨namedList (putEntry k v es), setNamed_namedList hv k es, ?_, putEntry k v es,
    putEntry k w ms, rfl, forall₂_putEntry hreads hk hw, nodup_putEntry hnodup k w,
    ofList_putEntry hnodup k w⟩
  rw [setElement_string, setNamed_namedList hv]

theorem Carries.remove (h : Carries m r) (k : String) :
    ∃ r', r.setNamed k null = .ok r' ∧ r.setElement (.string k) null = .ok r' ∧
      Carries (m.erase k) r' := by
  obtain ⟨es, ms, rfl, hreads, hnodup, rfl⟩ := h
  refine ⟨namedList (dropEntry k es), setNamed_null_namedList k es, ?_, dropEntry k es,
    dropEntry k ms, rfl, forall₂_dropEntry hreads, (dropEntry_sublist.map _).nodup hnodup,
    ofList_dropEntry hnodup k⟩
  rw [setElement_string, setNamed_null_namedList]

end RValue

namespace Value

open RValue (Carries Matched namedList)

variable {k : String} {r : RValue} {m : Dict Value}

/-- A map becomes the named list of the elements that its values become. -/
theorem exists_entries (hr : (map m).toRValue = .ok r) :
    ∃ es, r = namedList es ∧ Forall₂ (Matched fun x w => w.toRValue = .ok x) es m := by
  obtain ⟨xs, hxs, rfl⟩ := toRValue_map.mp hr
  clear hr
  have hentries : ∃ es : List (String × RValue), es.map (·.1) = m.map (·.1) ∧ es.map (·.2) = xs ∧
      Forall₂ (Matched fun x w => w.toRValue = .ok x) es m := by
    induction hxs with
    | nil => exact ⟨[], rfl, rfl, .nil⟩
    | @cons e' x m xs hhead _ ih =>
      obtain ⟨es, hkeys, hvalues, hes⟩ := ih
      exact ⟨(e'.1, x) :: es, congrArg (e'.1 :: ·) hkeys, congrArg (x :: ·) hvalues,
        .cons ⟨rfl, hhead.1, hhead.2⟩ hes⟩
  obtain ⟨es, hkeys, hvalues, hes⟩ := hentries
  exact ⟨es, by rw [namedList, hkeys, hvalues], hes⟩

/-- What is read under a name is what the value under the key becomes, null if there is none. -/
theorem read_of_toRValue (hr : (map m).toRValue = .ok r) (k : String) : ∃ found,
    Option.Rel (fun x w => toRValue w = .ok x) found (m.get? k) ∧
      r.dollar k = .ok (found.getD .null) ∧ r.element (.string k) = .ok (found.getD .null) := by
  obtain ⟨es, rfl, hes⟩ := exists_entries hr
  have hdollar := RValue.dollar_namedList k es
  exact ⟨Dict.get? k es, RValue.rel_get? hes k, hdollar, (RValue.element_string k es).trans hdollar⟩

theorem carries_of_toRValue (hm : Ordered (map m)) (hr : (map m).toRValue = .ok r) :
    Carries m r := by
  obtain ⟨es, rfl, hes⟩ := exists_entries hr
  obtain ⟨hsorted, hparts⟩ := ordered_map.mp hm
  have hback : Forall₂ (fun e' e => Matched (fun x w => x.toValue = .ok w) e e') m es :=
    ((List.forall₂_and_left _ _).mpr ⟨fun e' he' => he', hes.flip⟩).imp fun e' e h =>
      ⟨h.2.key, h.2.named, toValue_of_toRValue e'.2 (hparts e' h.1) h.2.value⟩
  exact ⟨es, m, rfl, hback.flip, hsorted.nodup, Dict.ofList_of_sorted hsorted⟩

/-- A map that has become a list: an element is read under a name as what the value under that key
becomes, or as null if there is none; setting an element inserts what it reads back as, and setting
null erases. All of this holds of `$` and of a single text as the index alike. -/
theorem toRValue_access {m : Dict Value} (hm : Ordered (map m)) {r : RValue}
    (hr : (map m).toRValue = .ok r) {k : String} (hk : k ≠ "") (v : RValue) :
    (∀ w, m.get? k = some w →
      ∃ y, w.toRValue = .ok y ∧ r.dollar k = .ok y ∧ r.element (.string k) = .ok y) ∧
    (m.get? k = none → r.dollar k = .ok .null ∧ r.element (.string k) = .ok .null) ∧
    (v ≠ .null → ∀ w, v.toValue = .ok w → ∃ r', r.setNamed k v = .ok r' ∧
      r.setElement (.string k) v = .ok r' ∧ r'.toMap = .ok (m.insert k w)) ∧
    ∃ r', r.setNamed k .null = .ok r' ∧ r.setElement (.string k) .null = .ok r' ∧
      r'.toMap = .ok (m.erase k) := by
  have hcarries := carries_of_toRValue hm hr
  obtain ⟨found, hfound, hdollar, helement⟩ := read_of_toRValue hr k
  refine ⟨fun w hw => ?_, fun hnone => ?_, fun hv w hw => ?_, ?_⟩
  · rw [hw] at hfound
    cases hfound with
    | some hy => exact ⟨_, hy, hdollar, helement⟩
  · rw [hnone] at hfound
    cases hfound
    exact ⟨hdollar, helement⟩
  · obtain ⟨r', hset, hreplaced, hafter⟩ := hcarries.set hk hv hw
    exact ⟨r', hset, hreplaced, hafter.toMap⟩
  · obtain ⟨r', hset, hreplaced, hafter⟩ := hcarries.remove k
    exact ⟨r', hset, hreplaced, hafter.toMap⟩

/-- A key that looks like a position: it is read, replaced and removed by its name. -/
theorem toRValue_access_position :
    let m : Dict Value := [("2", .int 7), ("a", .list [])]
    let r : RValue := .list [.integer [some 7], .logical []] (some ["2", "a"])
    (Ordered (map m) ∧ (map m).toRValue = .ok r ∧ "2" ≠ "") ∧
    (r.dollar "2" = .ok (.integer [some 7]) ∧ r.element (.string "2") = .ok (.integer [some 7])) ∧
    (∃ r', r.setNamed "2" (.list [] none) = .ok r' ∧
      r'.toMap = .ok [("2", .list []), ("a", .list [])]) ∧
    ∃ r', r.setNamed "2" .null = .ok r' ∧ r'.toMap = .ok [("a", .list [])] := by
  intro m r
  have hsorted : Dict.Sorted m := by
    unfold Dict.Sorted
    decide
  have hm : Ordered (map m) := by simp [m, ordered_map, ordered_list, hsorted]
  have hr : (map m).toRValue = .ok r := rfl
  have hk : "2" ≠ "" := by decide
  obtain ⟨hread, -, hset, r', hremoved, -, hafter⟩ := toRValue_access hm hr hk (.list [] none)
  obtain ⟨y, hy, hdollar, helement⟩ := hread (.int 7) rfl
  obtain ⟨r'', hput, -, hwith⟩ := hset RValue.noConfusion (.list []) rfl
  cases hy
  exact ⟨⟨hm, hr, hk⟩, ⟨hdollar, helement⟩, ⟨r'', hput, hwith⟩, r', hremoved, hafter⟩

end Value

end ScriptBridge
