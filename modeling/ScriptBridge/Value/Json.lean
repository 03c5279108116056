import ScriptBridge.Json.Tree
import ScriptBridge.Value

/-!
# Host values as JSON

`Value.toJson` gives every value the JSON of the same shape; a double that is not a number or is
infinite becomes null. There are two readers: `Value.ofJson` looks at what the tree is, and
`Value.ofJsonByKind?` offers it to one kind of value after the other and takes the first that fits.
-/

namespace ScriptBridge.Value

/-- A number as a value: an integer if it fits 64 bits with sign, else a double. -/
def ofJsonNumber : JsonNumber → Value
  | .natural n => if n.toNat < Nat.pow 2 63 then int (Int64.ofInt n.toNat) else float n.toFloat
  | .negative n => int n
  | .double x => float x

mutual

/-- The value of a JSON tree; the last member of a name wins. -/
def ofJson : Json → Value
  | .null => null
  | .bool b => bool b
  | .number n => ofJsonNumber n
  | .string s => str s
  | .array items => list (ofJsonItems items)
  | .object members => map (Dict.ofList (ofJsonMembers members))

def ofJsonItems : List Json → List Value
  | [] => []
  | x :: xs => ofJson x :: ofJsonItems xs

def ofJsonMembers : List (String × Json) → List (String × Value)
  | [] => []
  | (key, x) :: xs => (key, ofJson x) :: ofJsonMembers xs

end

def nullOfJson? : Json → Option Value
  | .null => some null
  | _ => none

def boolOfJson? : Json → Option Value
  | .bool b => some (bool b)
  | _ => none

def intOfJson? : Json → Option Value
  | .number (.natural n) =>
    if n.toNat < Nat.pow 2 63 then some (int (Int64.ofInt n.toNat)) else none
  | .number (.negative n) => some (int n)
  | _ => none

def floatOfJson? : Json → Option Value
  | .number (.natural n) => some (float n.toFloat)
  | .number (.negative n) => some (float n.toFloat)
  | .number (.double x) => some (float x)
  | _ => none

def strOfJson? : Json → Option Value
  | .string s => some (str s)
  | _ => none

mutual

/-- The first kind of value that a tree fits: null, truth value, integer, double, text, list, map.
-/
def ofJsonByKind? (j : Json) : Option Value :=
  nullOfJson? j <|> boolOfJson? j <|> intOfJson? j <|> floatOfJson? j <|> strOfJson? j <|>
    (match j with
      | .array items => (itemsByKind? items).map list
      | .object members => (membersByKind? members).map fun es => map (Dict.ofList es)
      | _ => none)

def itemsByKind? : List Json → Option (List Value)
  | [] => some []
  | x :: xs => do
    let v ← ofJsonByKind? x
    let vs ← itemsByKind? xs
    return v :: vs

def membersByKind? : List (String × Json) → Option (List (String × Value))
  | [] => some []
  | (key, x) :: xs => do
    let v ← ofJsonByKind? x
    let vs ← membersByKind? xs
    return (key, v) :: vs

end

def floatToJson (x : Float) : Json :=
  if x.isFinite then .number (.double x) else .null

def intToJson (n : Int64) : Json :=
  if 0 ≤ n then .number (.natural n.toUInt64) else .number (.negative n)

mutual

def toJson : Value → Json
  | null => .null
  | bool b => .bool b
  | int n => intToJson n
  | float x => floatToJson x
  | str s => .string s
  | list items => .array (itemsToJson items)
  | map entries => .object (entriesToJson entries)

def itemsToJson : List Value → List Json
  | [] => []
  | v :: vs => toJson v :: itemsToJson vs

def entriesToJson : List (String × Value) → List (String × Json)
  | [] => []
  | (key, v) :: es => (key, toJson v) :: entriesToJson es

end

end ScriptBridge.Value
