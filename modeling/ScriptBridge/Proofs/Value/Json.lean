import ScriptBridge.Proofs.Dict
import ScriptBridge.Proofs.Value.Parts
import ScriptBridge.Value.Json

/-!
# Host values through JSON

The two readers of JSON trees give every tree the same value (`ofJsonByKind?_eq`), and a value that
was written is read as it was, but for doubles that are no numbers of JSON (`ofJson_toJson`).
-/

namespace ScriptBridge.Value

/-! ### The two readers -/

/-- A number is offered as an integer first, and as a double if it is none. -/
theorem ofJsonByKind?_number (n : JsonNumber) :
    ofJsonByKind? (.number n) = some (ofJsonNumber n) := by
  cases n with
  | natural n =>
    have hoffered : ofJsonByKind? (.number (.natural n)) =
        (intOfJson? (.number (.natural n)) <|> some (float n.toFloat)) := rfl
    rw [hoffered, intOfJson?, ofJsonNumber]
    split <;> rfl
  | negative n => rfl
  | double x => rfl

mutual

theorem ofJsonByKind?_eq : ∀ j : Json, ofJsonByKind? j = some (ofJson j)
  | .null => rfl
  | .bool _ => rfl
  | .number n => ofJsonByKind?_number n
  | .string _ => rfl
  | .array items => by
    have hoffered : ofJsonByKind? (.array items) = (itemsByKind? items).map list := rfl
    rw [hoffered, itemsByKind?_eq items, ofJson]
    rfl
  | .object members => by
    have hoffered : ofJsonByKind? (.object members) =
        (membersByKind? members).map fun es => map (Dict.ofList es) := rfl
    rw [hoffered, membersByKind?_eq members, ofJson]
    rfl

theorem itemsByKind?_eq : ∀ items : List Json, itemsByKind? items = some (ofJsonItems items)
  | [] => rfl
  | x :: xs => by
    rw [itemsByKind?, ofJsonByKind?_eq x, itemsByKind?_eq xs]
    rfl

theorem membersByKind?_eq :
    ∀ members : List (String × Json), membersByKind? members = some (ofJsonMembers members)
  | [] => rfl
  | (key, x) :: xs => by
    rw [membersByKind?, ofJsonByKind?_eq x, membersByKind?_eq xs]
    rfl

end

/-! ### Doubles in JSON -/

variable {g : Float → Value}

/-- What becomes of a double in JSON: it stays as it is, or is null if it is no number. -/
def finiteOrNull (x : Float) : Value := if x.isNaN || x.isInf then null else float x

theorem isFinite_eq (x : Float) : x.isFinite = !(x.isNaN || x.isInf) := by
  change x.toModel.unpack.isFinite = !(x.toModel.unpack.isNaN || x.toModel.unpack.isInf)
  cases x.toModel.unpack <;> rfl

/-! ### What was written -/

/-- An integer that is not below zero is written as a natural number, which fits 63 bits. -/
theorem ofJson_intToJson (n : Int64) : ofJson (intToJson n) = int n := by
  unfold intToJson
  split
  · next hn =>
    have hnat : n.toUInt64.toNat = n.toNatClampNeg := Int64.toNat_toUInt64_of_le hn
    have hint : (n.toNatClampNeg : Int) = n.toInt :=
      Int.toNat_of_nonneg (Int64.le_iff_toInt_le.mp hn)
    have hlt : n.toInt < 2 ^ 63 := n.toInt_lt
    have hfits : n.toUInt64.toNat < Nat.pow 2 63 := by
      rw [hnat]
      change n.toNatClampNeg < 2 ^ 63
      omega
    rw [ofJson, ofJsonNumber, if_pos hfits, hnat, hint, Int64.ofInt_toInt]
  · rfl

theorem ofJson_floatToJson (x : Float) : ofJson (floatToJson x) = finiteOrNull x := by
  rw [floatToJson, finiteOrNull, isFinite_eq]
  cases x.isNaN || x.isInf <;> rfl

theorem ofJsonItems_itemsToJson {items : List Value}
    (h : ∀ v ∈ items, ofJson (toJson v) = mapFloats g v) :
    ofJsonItems (itemsToJson items) = mapFloatsItems g items := by
  induction items with
  | nil => rfl
  | cons v vs ih =>
    obtain ⟨hv, hvs⟩ := List.forall_mem_cons.mp h
    rw [itemsToJson, ofJsonItems, mapFloatsItems, hv, ih hvs]

theorem ofJsonMembers_entriesToJson {entries : List (String × Value)}
    (h : ∀ e ∈ entries, ofJson (toJson e.2) = mapFloats g e.2) :
    ofJsonMembers (entriesToJson entries) = mapFloatsEntries g entries := by
  induction entries with
  | nil => rfl
  | cons e es ih =>
    obtain ⟨he, hes⟩ := List.forall_mem_cons.mp h
    rw [entriesToJson, ofJsonMembers, mapFloatsEntries, he, ih hes]

/-- The members of an object that was written are in the order of their keys already. -/
theorem sorted_mapFloatsEntries {entries : List (String × Value)} (h : Dict.Sorted entries) :
    Dict.Sorted (mapFloatsEntries g entries) := by
  have hsorted : (entries.map (·.1)).Pairwise (· < ·) := List.pairwise_map.mpr h
  rw [← keys_mapFloatsEntries g] at hsorted
  exact List.pairwise_map.mp hsorted

theorem ofJson_toJson (v : Value) (h : v.Ordered) :
    ofJson (toJson v) = v.mapFloats finiteOrNull := by
  induction v using byParts with
  | null => rfl
  | bool b => rfl
  | int n => exact ofJson_intToJson n
  | float x => exact ofJson_floatToJson x
  | str s => rfl
  | list items ih =>
    have hitems : ∀ v ∈ items, ofJson (toJson v) = v.mapFloats finiteOrNull :=
      fun v hv => ih v hv (ordered_list.mp h v hv)
    rw [toJson, ofJson, mapFloats, ofJsonItems_itemsToJson hitems]
  | map entries ih =>
    obtain ⟨hsorted, hparts⟩ := ordered_map.mp h
    have hentries : ∀ e ∈ entries, ofJson (toJson e.2) = e.2.mapFloats finiteOrNull :=
      fun e he => ih e he (hparts e he)
    rw [toJson, ofJson, mapFloats, ofJsonMembers_entriesToJson hentries,
      Dict.ofList_of_sorted (sorted_mapFloatsEntries hsorted)]

/-- The two readers agree on every JSON tree, and either of them reads what was written as the value
that it was, with null in the place of each double that is not a number or infinite and nothing else
changed. -/
theorem readers_agree :
    (∀ j : Json, ofJsonByKind? j = some (ofJson j)) ∧
      ∀ v : Value, v.Ordered →
        ofJson (toJson v) = v.mapFloats finiteOrNull ∧
        ofJsonByKind? (toJson v) = some (v.mapFloats finiteOrNull) := by
  refine ⟨ofJsonByKind?_eq, fun v hv => ?_⟩
  rw [ofJsonByKind?_eq, ofJson_toJson v hv]
  exact ⟨rfl, rfl⟩

/-- Integers at both ends of their range, a whole double, minus zero and doubles that are no numbers
of JSON, in a list in a map. -/
theorem readers_agree_nested :
    let numbers := list [int (-9223372036854775808), int 9223372036854775807, float 1,
      float (-0.0), float (0 / 0), float (-1 / 0)]
    let kept := list [int (-9223372036854775808), int 9223372036854775807, float 1,
      float (-0.0), null, null]
    let v := map [("", numbers), ("a", list []), ("b", map []), ("c", null)]
    let w := map [("", kept), ("a", list []), ("b", map []), ("c", null)]
    v.Ordered ∧ ofJson (toJson v) = w ∧ ofJsonByKind? (toJson v) = some w := by
  intro numbers kept v w
  have hsorted : Dict.Sorted [("", numbers), ("a", list []), ("b", map []), ("c", null)] := by
    unfold Dict.Sorted
    decide
  have hempty : Dict.Sorted ([] : Dict Value) := List.Pairwise.nil
  have hordered : v.Ordered := by
    simp [v, numbers, ordered_list, ordered_map, hsorted, hempty]
  have hw : v.mapFloats finiteOrNull = w := rfl
  have hread := readers_agree.2 v hordered
  rw [hw] at hread
  exact ⟨hordered, hread⟩

end ScriptBridge.Value
