import ScriptBridge.Decimal.Digits
import ScriptBridge.Dict

/-!
# Host values

What a task hands to a script and gets back from it: scalars, lists, and maps from text to values.
The entries of a map are a dictionary.

- `Value.display`: the value as text.
- `Value.same`: equality of values, doubles being compared as numbers.
-/

namespace ScriptBridge

/-- A value of the host. -/
inductive Value where
  | null
  | bool (b : Bool)
  | int (n : Int64)
  | float (x : Float)
  | str (s : String)
  | list (items : List Value)
  | map (entries : List (String × Value))
  deriving Inhabited

namespace Value

def isNull : Value → Bool
  | null => true
  | _ => false

def asBool? : Value → Option Bool
  | bool b => some b
  | _ => none

def asStr? : Value → Option String
  | str s => some s
  | _ => none

def asMap? : Value → Option (Dict Value)
  | map entries => some entries
  | _ => none

def typeName : Value → String
  | null => "null"
  | bool _ => "bool"
  | int _ => "int"
  | float _ => "float"
  | str _ => "string"
  | list _ => "list"
  | map _ => "map"

def isScalar : Value → Bool
  | bool _ | int _ | float _ | str _ => true
  | _ => false

mutual

/-- The value as text: texts as they are, doubles in the fewest digits that read back. -/
def display : Value → String
  | null => "null"
  | bool true => "true"
  | bool false => "false"
  | int n => toString n.toInt
  | float x => Decimal.plain x
  | str s => s
  | list items => "[" ++ ", ".intercalate (displayItems items) ++ "]"
  | map entries => "\x7b" ++ ", ".intercalate (displayEntries entries) ++ "\x7d"

def displayItems : List Value → List String
  | [] => []
  | v :: vs => display v :: displayItems vs

def displayEntries : List (String × Value) → List String
  | [] => []
  | (key, v) :: es => (key ++ ": " ++ display v) :: displayEntries es

end

mutual

/-- Whether two values are equal; as numbers, a NaN differs from itself and zeros are equal. -/
def same : Value → Value → Bool
  | null, null => true
  | bool a, bool b => a == b
  | int m, int n => m == n
  | float x, float y => x == y
  | str s, str t => s == t
  | list xs, list ys => sameItems xs ys
  | map xs, map ys => sameEntries xs ys
  | _, _ => false

def sameItems : List Value → List Value → Bool
  | [], [] => true
  | x :: xs, y :: ys => same x y && sameItems xs ys
  | _, _ => false

def sameEntries : List (String × Value) → List (String × Value) → Bool
  | [], [] => true
  | (j, x) :: xs, (k, y) :: ys => j == k && same x y && sameEntries xs ys
  | _, _ => false

end

end Value

end ScriptBridge
