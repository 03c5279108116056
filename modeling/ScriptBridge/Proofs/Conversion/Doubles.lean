import ScriptBridge.Conversion
import ScriptBridge.Proofs.Dict
import ScriptBridge.Proofs.Value.Parts

/-!
# Doubles on their way

The conversions look at no double, they only carry it from one place to another: a value whose
doubles were replaced is converted to what the value itself is converted to, with the same doubles
replaced in it, and fails where it fails (`Value.toRValue_changeFloats`,
`RValue.toValue_mapFloats`). So it is of no account to them which doubles count as equal.
-/

namespace ScriptBridge

namespace RValue

mutual

/-- The value with every double replaced and all else as it is. -/
def mapFloats (f : Float → Float) : RValue → RValue
  | double v => double (v.map (·.map f))
  | list values names => list (mapFloatsElements f values) names
  | x => x

def mapFloatsElements (f : Float → Float) : List RValue → List RValue
  | [] => []
  | x :: xs => mapFloats f x :: mapFloatsElements f xs

end

end RValue

namespace Value

variable {f : Float → Float} {seen : Option VectorKind}

/-- The value with every double replaced by another one. -/
def changeFloats (f : Float → Float) : Value → Value := mapFloats fun x => float (f x)

theorem mapFloatsItems_eq (g : Float → Value) (items : List Value) :
    mapFloatsItems g items = items.map (mapFloats g) := by
  induction items with
  | nil => rfl
  | cons v items ih => rw [mapFloatsItems, ih, List.map_cons]

theorem mapFloatsEntries_eq (g : Float → Value) (entries : List (String × Value)) :
    mapFloatsEntries g entries = entries.map (Prod.map id (mapFloats g)) := by
  induction entries with
  | nil => rfl
  | cons e entries ih =>
    rw [mapFloatsEntries, ih]
    rfl

/-! ### To the script -/

theorem commonKindFrom?_changeFloats (items : List Value) :
    commonKindFrom? seen (items.map (changeFloats f)) = commonKindFrom? seen items := by
  induction items generalizing seen with
  | nil => rfl
  | cons v items ih =>
    cases v with
    | null => exact ih
    | _ => simp only [List.map_cons, changeFloats, mapFloats, commonKindFrom?, vectorKind?, ← ih]

theorem listKind?_changeFloats (items : List Value) :
    listKind? (items.map (changeFloats f)) = listKind? items := by
  rw [listKind?, List.length_map, commonKindFrom?_changeFloats, listKind?]

theorem toVector_changeFloats (kind : VectorKind) (items : List Value) :
    toVector kind (items.map (changeFloats f)) =
      (toVector kind items).map (RValue.mapFloats f) := by
  cases kind with
  | logical =>
    have helement (v : Value) : (changeFloats f v).asBool? = v.asBool? := by cases v <;> rfl
    simp only [toVector, List.map_map, Function.comp_def, helement]
    rfl
  | integer =>
    have helements : integerElement ∘ changeFloats f = integerElement :=
      funext fun v => by cases v <;> rfl
    simp only [toVector, List.mapM_map, helements]
    cases items.mapM integerElement <;> rfl
  | double =>
    have helement (v : Value) : doubleElement (changeFloats f v) = (doubleElement v).map f := by
      cases v <;> rfl
    have helements : (items.map (changeFloats f)).map doubleElement =
        (items.map doubleElement).map (·.map f) := by
      rw [List.map_map, List.map_map]
      exact List.map_congr_left fun v _ => helement v
    exact congrArg (fun es => Except.ok (RValue.double es)) helements
  | character =>
    have helement (v : Value) : (changeFloats f v).asStr? = v.asStr? := by cases v <;> rfl
    simp only [toVector, List.map_map, Function.comp_def, helement]
    rfl

mutual

theorem toRValue_changeFloats : ∀ v : Value,
    (v.changeFloats f).toRValue = v.toRValue.map (RValue.mapFloats f)
  | .null | .bool _ | .float _ | .str _ => rfl
  | .int n => by
    rw [changeFloats, mapFloats, toRValue]
    cases toInt32 n <;> rfl
  | .list items => by
    have hitems : changeFloats f (list items) = list (items.map (changeFloats f)) :=
      congrArg list (mapFloatsItems_eq _ items)
    rw [hitems, toRValue, listKind?_changeFloats, toRValue]
    cases listKind? items with
    | some kind => exact toVector_changeFloats kind items
    | none =>
      dsimp only
      rw [itemsToRValues_changeFloats 1 items]
      cases itemsToRValues 1 items <;> rfl
  | .map entries => by
    have hentries : changeFloats f (map entries) =
        map (entries.map (Prod.map id (changeFloats f))) :=
      congrArg map (mapFloatsEntries_eq _ entries)
    have hkeys : (entries.map (Prod.map id (changeFloats f))).map (·.1) = entries.map (·.1) := by
      rw [List.map_map]
      rfl
    rw [hentries, toRValue, hkeys, toRValue, entriesToRValues_changeFloats entries]
    cases entriesToRValues entries <;> rfl

theorem itemsToRValues_changeFloats : ∀ (position : Nat) (items : List Value),
    itemsToRValues position (items.map (changeFloats f)) =
      (itemsToRValues position items).map (RValue.mapFloatsElements f)
  | _, [] => rfl
  | position, v :: items => by
    rw [List.map_cons, itemsToRValues, toRValue_changeFloats v,
      itemsToRValues_changeFloats (position + 1) items, itemsToRValues]
    cases v.toRValue with
    | error e => rfl
    | ok x => cases itemsToRValues (position + 1) items <;> rfl

theorem entriesToRValues_changeFloats : ∀ entries : List (String × Value),
    entriesToRValues (entries.map (Prod.map id (changeFloats f))) =
      (entriesToRValues entries).map (RValue.mapFloatsElements f)
  | [] => rfl
  | (key, v) :: entries => by
    rw [List.map_cons, Prod.map_apply, id, entriesToRValues, toRValue_changeFloats v,
      entriesToRValues_changeFloats entries, entriesToRValues]
    split
    · rfl
    · cases v.toRValue with
      | error e => rfl
      | ok x => cases entriesToRValues entries <;> rfl

end

end Value

namespace RValue

open Value (changeFloats)

variable {f : Float → Float}

/-! ### To the host -/

theorem changeFloats_vectorToValue {α : Type} (scalar : α → Value) (v : List (Option α)) :
    changeFloats f (vectorToValue scalar v) =
      vectorToValue (fun a => changeFloats f (scalar a)) v := by
  have helement (x : Option α) : changeFloats f ((x.map scalar).getD .null) =
      (x.map fun a => changeFloats f (scalar a)).getD .null := by cases x <;> rfl
  rcases v with _ | ⟨x, _ | ⟨y, v⟩⟩
  · rfl
  · exact helement x
  · have helements : ((x :: y :: v).map fun x => (x.map scalar).getD .null).map (changeFloats f) =
        (x :: y :: v).map fun x => (x.map fun a => changeFloats f (scalar a)).getD .null := by
      rw [List.map_map]
      exact List.map_congr_left fun x _ => helement x
    exact congrArg Value.list ((Value.mapFloatsItems_eq _ _).trans helements)

mutual

theorem toValue_mapFloats : ∀ x : RValue,
    (x.mapFloats f).toValue = x.toValue.map (changeFloats f)
  | .null | .unsupported _ => rfl
  | .logical v => congrArg Except.ok (changeFloats_vectorToValue .bool v).symm
  | .integer v =>
    congrArg Except.ok (changeFloats_vectorToValue (fun n : Int32 => .int n.toInt64) v).symm
  | .character v => congrArg Except.ok (changeFloats_vectorToValue .str v).symm
  | .double v => by
    have hvector : vectorToValue .float (v.map (·.map f)) =
        vectorToValue (fun a => changeFloats f (.float a)) v := by
      rw [vectorToValue, vectorToValue, List.map_map]
      simp only [Function.comp_def, Option.map_map]
      rfl
    exact congrArg Except.ok (hvector.trans (changeFloats_vectorToValue .float v).symm)
  | .list values none => by
    rw [mapFloats, toValue, elementsToValues_mapFloats 1 values, toValue]
    cases elementsToValues 1 values with
    | error e => rfl
    | ok items => exact congrArg (Except.ok ∘ Value.list) (Value.mapFloatsItems_eq _ items).symm
  | .list values (some names) => by
    rw [mapFloats, toValue, namedToValues_mapFloats 1 names values, toValue]
    cases namedToValues 1 names values with
    | error e => rfl
    | ok entries =>
      have hentries := Dict.map_ofList (changeFloats f) entries
      exact congrArg (Except.ok ∘ Value.map)
        (hentries.symm.trans (Value.mapFloatsEntries_eq _ (Dict.ofList entries)).symm)

theorem elementsToValues_mapFloats : ∀ (position : Nat) (xs : List RValue),
    elementsToValues position (mapFloatsElements f xs) =
      (elementsToValues position xs).map (List.map (changeFloats f))
  | _, [] => rfl
  | position, x :: xs => by
    rw [mapFloatsElements, elementsToValues, toValue_mapFloats x,
      elementsToValues_mapFloats (position + 1) xs, elementsToValues]
    cases x.toValue with
    | error e => rfl
    | ok v => cases elementsToValues (position + 1) xs <;> rfl

theorem namedToValues_mapFloats : ∀ (position : Nat) (names : List String) (xs : List RValue),
    namedToValues position names (mapFloatsElements f xs) =
      (namedToValues position names xs).map (List.map (Prod.map id (changeFloats f)))
  | _, _, [] => rfl
  | position, names, x :: xs => by
    rw [mapFloatsElements, namedToValues, toValue_mapFloats x,
      namedToValues_mapFloats (position + 1) names.tail xs, namedToValues]
    cases x.toValue with
    | error e => rfl
    | ok v => cases namedToValues (position + 1) names.tail xs <;> rfl

end

end RValue

end ScriptBridge
