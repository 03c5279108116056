import ScriptBridge.Value

/-!
# The parts of a host value

`PartOf w v` says that `w` is `v` or stands anywhere inside it. Two properties of a value are
properties of all its parts:

* `Encodable`: no map has an empty key, and every integer is one of 32 bits other than the least;
* `Ordered`: every map is a dictionary, its keys increasing.

Both are equations at each constructor (`encodable_list`, `ordered_map`, …), and `byParts` is the
induction that goes with them. `mapFloats` replaces the doubles wherever they stand.
-/

namespace ScriptBridge.Value

/-- `w` is `v` or stands anywhere inside it. -/
inductive PartOf (w : Value) : Value → Prop where
  | self : PartOf w w
  | item {items : List Value} {v : Value} (mem : v ∈ items) (part : PartOf w v) :
      PartOf w (list items)
  | entry {entries : List (String × Value)} {e : String × Value} (mem : e ∈ entries)
      (part : PartOf w e.2) : PartOf w (map entries)

/-- The value has a counterpart among the values of scripts. -/
structure Encodable (v : Value) : Prop where
  keys : ∀ entries, PartOf (map entries) v → ∀ e ∈ entries, e.1 ≠ ""
  ints : ∀ n, PartOf (int n) v → -2147483648 < n.toInt ∧ n.toInt ≤ 2147483647

/-- Every map in the value is a dictionary. -/
def Ordered (v : Value) : Prop := ∀ entries, PartOf (map entries) v → Dict.Sorted entries

/-- Induction over a value, the parts of lists and maps coming first. -/
@[elab_as_elim]
theorem byParts {P : Value → Prop} (null : P null) (bool : ∀ b, P (bool b)) (int : ∀ n, P (int n))
    (float : ∀ x, P (float x)) (str : ∀ s, P (str s))
    (list : ∀ items, (∀ v ∈ items, P v) → P (list items))
    (map : ∀ entries, (∀ e ∈ entries, P e.2) → P (map entries)) (v : Value) : P v := by
  refine @Value.rec P (fun items => ∀ v ∈ items, P v) (fun entries => ∀ e ∈ entries, P e.2)
    (fun e => P e.2) null bool int float str list map ?_ ?_ ?_ ?_ (fun _ _ h => h) v
  · intro v hv
    cases hv
  · intro x xs hx hxs v hv
    rcases List.mem_cons.mp hv with rfl | hv
    · exact hx
    · exact hxs v hv
  · intro e he
    cases he
  · intro x xs hx hxs e he
    rcases List.mem_cons.mp he with rfl | he
    · exact hx
    · exact hxs e he

variable {w : Value} {items : List Value} {entries : List (String × Value)}

/-! ### Parts by constructor -/

@[simp] theorem partOf_null : PartOf w null ↔ w = null :=
  ⟨fun h => by cases h; rfl, fun h => h ▸ .self⟩

@[simp] theorem partOf_bool {b : Bool} : PartOf w (bool b) ↔ w = bool b :=
  ⟨fun h => by cases h; rfl, fun h => h ▸ .self⟩

@[simp] theorem partOf_int {n : Int64} : PartOf w (int n) ↔ w = int n :=
  ⟨fun h => by cases h; rfl, fun h => h ▸ .self⟩

@[simp] theorem partOf_float {x : Float} : PartOf w (float x) ↔ w = float x :=
  ⟨fun h => by cases h; rfl, fun h => h ▸ .self⟩

@[simp] theorem partOf_str {s : String} : PartOf w (str s) ↔ w = str s :=
  ⟨fun h => by cases h; rfl, fun h => h ▸ .self⟩

theorem partOf_list : PartOf w (list items) ↔ w = list items ∨ ∃ v ∈ items, PartOf w v := by
  constructor
  · rintro (_ | ⟨hmem, hpart⟩)
    · exact .inl rfl
    · exact .inr ⟨_, hmem, hpart⟩
  · rintro (rfl | ⟨v, hmem, hpart⟩)
    · exact .self
    · exact .item hmem hpart

theorem partOf_map : PartOf w (map entries) ↔ w = map entries ∨ ∃ e ∈ entries, PartOf w e.2 := by
  constructor
  · rintro (_ | _ | ⟨hmem, hpart⟩)
    · exact .inl rfl
    · exact .inr ⟨_, hmem, hpart⟩
  · rintro (rfl | ⟨e, hmem, hpart⟩)
    · exact .self
    · exact .entry hmem hpart

/-! ### Values with a counterpart -/

@[simp] theorem encodable_null : Encodable null :=
  ⟨fun _ h => by simp at h, fun _ h => by simp at h⟩

@[simp] theorem encodable_bool (b : Bool) : Encodable (bool b) :=
  ⟨fun _ h => by simp at h, fun _ h => by simp at h⟩

@[simp] theorem encodable_float (x : Float) : Encodable (float x) :=
  ⟨fun _ h => by simp at h, fun _ h => by simp at h⟩

@[simp] theorem encodable_str (s : String) : Encodable (str s) :=
  ⟨fun _ h => by simp at h, fun _ h => by simp at h⟩

theorem encodable_int {n : Int64} :
    Encodable (int n) ↔ -2147483648 < n.toInt ∧ n.toInt ≤ 2147483647 :=
  ⟨fun h => h.ints n .self,
    fun h => ⟨fun _ hp => by simp at hp, fun m hp => by simp at hp; exact hp ▸ h⟩⟩

theorem encodable_list : Encodable (list items) ↔ ∀ v ∈ items, Encodable v := by
  constructor
  · exact fun h v hv => ⟨fun es hp => h.keys es (.item hv hp), fun n hp => h.ints n (.item hv hp)⟩
  · refine fun h => ⟨fun es hp => ?_, fun n hp => ?_⟩
    · obtain hp | ⟨v, hv, hp⟩ := partOf_list.mp hp
      · cases hp
      · exact (h v hv).keys es hp
    · obtain hp | ⟨v, hv, hp⟩ := partOf_list.mp hp
      · cases hp
      · exact (h v hv).ints n hp

theorem encodable_map :
    Encodable (map entries) ↔ ∀ e ∈ entries, e.1 ≠ "" ∧ Encodable e.2 := by
  constructor
  · exact fun h e he => ⟨h.keys entries .self e he,
      fun es hp => h.keys es (.entry he hp), fun n hp => h.ints n (.entry he hp)⟩
  · refine fun h => ⟨fun es hp => ?_, fun n hp => ?_⟩
    · obtain hp | ⟨e, he, hp⟩ := partOf_map.mp hp
      · cases hp
        exact fun e he => (h e he).1
      · exact (h e he).2.keys es hp
    · obtain hp | ⟨e, he, hp⟩ := partOf_map.mp hp
      · cases hp
      · exact (h e he).2.ints n hp

/-! ### Values whose maps are dictionaries -/

@[simp] theorem ordered_null : Ordered null := fun _ h => by simp at h

@[simp] theorem ordered_bool (b : Bool) : Ordered (bool b) := fun _ h => by simp at h

@[simp] theorem ordered_int (n : Int64) : Ordered (int n) := fun _ h => by simp at h

@[simp] theorem ordered_float (x : Float) : Ordered (float x) := fun _ h => by simp at h

@[simp] theorem ordered_str (s : String) : Ordered (str s) := fun _ h => by simp at h

theorem ordered_list : Ordered (list items) ↔ ∀ v ∈ items, Ordered v := by
  constructor
  · exact fun h v hv es hp => h es (.item hv hp)
  · intro h es hp
    obtain hp | ⟨v, hv, hp⟩ := partOf_list.mp hp
    · cases hp
    · exact h v hv es hp

theorem ordered_map :
    Ordered (map entries) ↔ Dict.Sorted entries ∧ ∀ e ∈ entries, Ordered e.2 := by
  constructor
  · exact fun h => ⟨h entries .self, fun e he es hp => h es (.entry he hp)⟩
  · rintro ⟨hsorted, h⟩ es hp
    obtain hp | ⟨e, he, hp⟩ := partOf_map.mp hp
    · cases hp
      exact hsorted
    · exact h e he es hp

/-! ### Values whose doubles are replaced -/

mutual

/-- The value with every double replaced and all else as it is. -/
def mapFloats (g : Float → Value) : Value → Value
  | null => null
  | bool b => bool b
  | int n => int n
  | float x => g x
  | str s => str s
  | list items => list (mapFloatsItems g items)
  | map entries => map (mapFloatsEntries g entries)

def mapFloatsItems (g : Float → Value) : List Value → List Value
  | [] => []
  | v :: vs => mapFloats g v :: mapFloatsItems g vs

def mapFloatsEntries (g : Float → Value) : List (String × Value) → List (String × Value)
  | [] => []
  | (key, v) :: es => (key, mapFloats g v) :: mapFloatsEntries g es

end

theorem keys_mapFloatsEntries (g : Float → Value) (entries : List (String × Value)) :
    (mapFloatsEntries g entries).map (·.1) = entries.map (·.1) := by
  induction entries with
  | nil => rfl
  | cons e es ih => rw [mapFloatsEntries, List.map_cons, List.map_cons, ih]

end ScriptBridge.Value
