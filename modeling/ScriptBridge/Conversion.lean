import ScriptBridge.Error
import ScriptBridge.RValue
import ScriptBridge.Value

/-!
# Carrying values between host and script

`Value.toRValue` gives null, single scalars and maps the script value of the same shape. A list
whose items are null or of one scalar kind becomes an atomic vector, null standing for `NA`, unless
it has exactly one item; any other list becomes a generic list. `RValue.toValue` reads a vector of
one element as a scalar and any other as a list, so lists of one item keep their shape.

- `Value.toRValue`: to the script; fails on integers out of range and on empty keys.
- `RValue.toValue`: to the host; fails on values of unsupported types.
- `RValue.toMap`: a named list to the host.
-/

namespace ScriptBridge

inductive VectorKind where
  | logical
  | integer
  | double
  | character
  deriving DecidableEq

namespace Value

def toInt32 (n : Int64) : Except ConversionError Int32 :=
  if -2147483648 < n.toInt ∧ n.toInt ≤ 2147483647 then .ok (Int32.ofInt n.toInt)
  else .error (.integerOutOfRange n)

def vectorKind? : Value → Option VectorKind
  | bool _ => some .logical
  | int _ => some .integer
  | float _ => some .double
  | str _ => some .character
  | _ => none

/-- The one kind of all items that are not null, `seen` being that of the items before; items that
are all null count as truth values. -/
def commonKindFrom? (seen : Option VectorKind) : List Value → Option VectorKind
  | [] => some (seen.getD .logical)
  | null :: vs => commonKindFrom? seen vs
  | v :: vs =>
    match v.vectorKind?, seen with
    | none, _ => none
    | some k, none => commonKindFrom? (some k) vs
    | some k, some prev => if k = prev then commonKindFrom? (some prev) vs else none

/-- The kind of vector that a list becomes, unless it becomes a generic list. -/
def listKind? (items : List Value) : Option VectorKind :=
  if items.length = 1 then none else commonKindFrom? none items

def integerElement : Value → Except ConversionError (Option Int32)
  | int n => (toInt32 n).map some
  | _ => .ok none

def doubleElement : Value → Option Float
  | float x => some x
  | _ => none

/-- Items of one kind as a vector, every other item as `NA`. -/
def toVector (kind : VectorKind) (items : List Value) : Except ConversionError RValue :=
  match kind with
  | .logical => .ok (.logical (items.map asBool?))
  | .integer => (items.mapM integerElement).map .integer
  | .double => .ok (.double (items.map doubleElement))
  | .character => .ok (.character (items.map asStr?))

mutual

/-- A host value as a script value. -/
def toRValue : Value → Except ConversionError RValue
  | null => .ok .null
  | bool b => .ok (.ofBool b)
  | int n => (toInt32 n).map .ofInt32
  | float x => .ok (.ofFloat x)
  | str s => .ok (.string s)
  | list items =>
    match listKind? items with
    | some kind => toVector kind items
    | none => do
      let values ← itemsToRValues 1 items
      return .list values none
  | map entries => do
    let values ← entriesToRValues entries
    return .list values (some (entries.map (·.1)))

def itemsToRValues (position : Nat) : List Value → Except ConversionError (List RValue)
  | [] => .ok []
  | v :: vs => do
    let x ← (toRValue v).mapError (.entry (toString position))
    let xs ← itemsToRValues (position + 1) vs
    return x :: xs

def entriesToRValues : List (String × Value) → Except ConversionError (List RValue)
  | [] => .ok []
  | (key, v) :: es =>
    if key = "" then .error .emptyKey
    else do
      let x ← (toRValue v).mapError (.entry key)
      let xs ← entriesToRValues es
      return x :: xs

end

end Value

namespace RValue

/-- A vector as a host value: one element as a scalar, any other number as a list. -/
def vectorToValue {α : Type} (scalar : α → Value) (v : List (Option α)) : Value :=
  match v.map (fun x => (x.map scalar).getD .null) with
  | [x] => x
  | xs => .list xs

/-- The key of a list's element: its name, or its position if it has none. -/
def keyAt (position : Nat) (names : List String) : String :=
  match names with
  | [] => toString position
  | name :: _ => if name = "" then toString position else name

mutual

/-- A script value as a host value. -/
def toValue : RValue → Except ConversionError Value
  | null => .ok .null
  | logical v => .ok (vectorToValue .bool v)
  | integer v => .ok (vectorToValue (fun n => .int n.toInt64) v)
  | double v => .ok (vectorToValue .float v)
  | character v => .ok (vectorToValue .str v)
  | list values none => do
    let items ← elementsToValues 1 values
    return .list items
  | list values (some names) => do
    let entries ← namedToValues 1 names values
    return .map (Dict.ofList entries)
  | unsupported t => .error (.unsupported t)

def elementsToValues (position : Nat) : List RValue → Except ConversionError (List Value)
  | [] => .ok []
  | x :: xs => do
    let v ← (toValue x).mapError (.entry (toString position))
    let vs ← elementsToValues (position + 1) xs
    return v :: vs

/-- The elements of a list from a position on, with their keys. -/
def namedToValues (position : Nat) (names : List String) :
    List RValue → Except ConversionError (List (String × Value))
  | [] => .ok []
  | x :: xs => do
    let key := keyAt position names
    let v ← (toValue x).mapError (.entry key)
    let vs ← namedToValues (position + 1) names.tail xs
    return (key, v) :: vs

end

/-- A named list, or an empty list, as a dictionary. -/
def toMap : RValue → Except ConversionError (Dict Value)
  | list values (some names) => (namedToValues 1 names values).map Dict.ofList
  | list [] none => .ok []
  | x => .error (.notAMap x.typeName)

end RValue

end ScriptBridge
