import ScriptBridge.Decimal.Reading
import ScriptBridge.Fault
import ScriptBridge.RValue.Show
import ScriptBridge.Text.Blank

/-!
# Coercion

Script values read as vectors of texts, doubles, integers or truth values. A coercion keeps the
number of elements; what an element cannot be becomes missing. A list is coerced element by element,
and only to texts if an element has not exactly one element itself.

- `RValue.asCharacter`, `asDouble`, `asInteger`, `asLogical`.
- `RValue.condition`: a single truth value that is not missing.
-/

namespace ScriptBridge.RValue

/-- The types of vectors, each coerced to the ones after it. -/
inductive Mode where
  | logical
  | integer
  | double
  | character
  | list
  deriving DecidableEq

def Mode.rank : Mode → Nat
  | logical => 0
  | integer => 1
  | double => 2
  | character => 3
  | list => 4

def mode? : RValue → Option Mode
  | logical _ => some .logical
  | integer _ => some .integer
  | double _ => some .double
  | character _ => some .character
  | list _ _ => some .list
  | null | unsupported _ => none

/-- The element of a list as a text: a single element as its text, anything else in one line. -/
def elementText (x : RValue) : Option String :=
  if x.length = 1 ∧ x.mode? ≠ some .list then x.atomTexts.headD none else some x.deparse

def asCharacter : RValue → Except Fault (List (Option String))
  | null => .ok []
  | list values _ => .ok (values.map elementText)
  | unsupported t => .error (.cannotCoerce t "character")
  | x => .ok x.atomTexts

/-- A value as texts, a missing one as `NA`. -/
def texts (x : RValue) : Except Fault (List String) := (asCharacter x).map (·.map orNA)

/-- A truth value that a word stands for. -/
def readLogical? (s : String) : Option Bool :=
  if s ∈ ["TRUE", "true", "T", "True"] then some true
  else if s ∈ ["FALSE", "false", "F", "False"] then some false
  else none

def readDouble? (s : String) : Option Float := Decimal.read? (Text.trim s.toList)

def boolToFloat (b : Bool) : Float := if b then 1 else 0

def intToFloat (n : Int32) : Float :=
  let magnitude := (UInt64.ofNat n.toInt.natAbs).toFloat
  if n.toInt < 0 then -magnitude else magnitude

/-- A value as doubles for arithmetic, which takes no texts and no lists. -/
def numeric : RValue → Except Fault (List (Option Float))
  | null => .ok []
  | logical v => .ok (v.map (·.map boolToFloat))
  | integer v => .ok (v.map (·.map intToFloat))
  | double v => .ok v
  | _ => .error .nonNumericOperand

mutual

def asDouble : RValue → Except Fault (List (Option Float))
  | character v => .ok (v.map (·.bind readDouble?))
  | list values _ => singleDoubles values
  | null => numeric null
  | logical v => numeric (logical v)
  | integer v => numeric (integer v)
  | double v => numeric (double v)
  | unsupported t => numeric (unsupported t)

def singleDoubles : List RValue → Except Fault (List (Option Float))
  | [] => .ok []
  | x :: xs =>
    if x.length = 1 then do
      let d ← asDouble x
      let ds ← singleDoubles xs
      return d.headD none :: ds
    else .error (.listCoercion "double")

end

/-- An integer, if it is one of scripts. -/
def fit? (n : Int) : Option Int32 :=
  if -2147483648 < n ∧ n ≤ 2147483647 then some (Int32.ofInt n) else none

/-- The integer of scripts that a double is without its fraction. -/
def toInteger? (x : Float) : Option Int32 := (Decimal.wholePart? x).bind fit?

def boolToInt (b : Bool) : Int32 := if b then 1 else 0

/-- The integer that stands for a missing one is none itself. -/
def isProper (n : Int32) : Bool := n ≠ -2147483648

mutual

def asInteger : RValue → Except Fault (List (Option Int32))
  | null => .ok []
  | logical v => .ok (v.map (·.map boolToInt))
  | integer v => .ok (v.map (·.filter isProper))
  | double v => .ok (v.map (·.bind toInteger?))
  | character v => .ok (v.map (·.bind fun s => (readDouble? s).bind toInteger?))
  | list values _ => singleIntegers values
  | unsupported _ => .error .nonNumericOperand

def singleIntegers : List RValue → Except Fault (List (Option Int32))
  | [] => .ok []
  | x :: xs =>
    if x.length = 1 then do
      let n ← asInteger x
      let ns ← singleIntegers xs
      return n.headD none :: ns
    else .error (.listCoercion "double")

end

mutual

def asLogical : RValue → Except Fault (List (Option Bool))
  | null => .ok []
  | logical v => .ok v
  | integer v => .ok (v.map (·.map (· ≠ 0)))
  | double v => .ok (v.map fun x => (x.filter (!·.isNaN)).map (· != 0))
  | character v => .ok (v.map (·.bind readLogical?))
  | list values _ => singleLogicals values
  | unsupported t => .error (.cannotCoerce t "logical")

def singleLogicals : List RValue → Except Fault (List (Option Bool))
  | [] => .ok []
  | x :: xs =>
    if x.length = 1 then do
      let b ← asLogical x
      let bs ← singleLogicals xs
      return b.headD none :: bs
    else .error (.listCoercion "logical")

end

/-- The first element as a truth value. -/
def condition (x : RValue) : Except Fault Bool :=
  let uninterpretable := match x with
    | character (s :: _) => (s.bind readLogical?).isNone
    | _ => false
  if x.isEmpty then .error .emptyCondition
  else if uninterpretable then .error .notLogical
  else do
    match (← asLogical x).headD none with
    | some b => return b
    | none => .error .missingCondition

end ScriptBridge.RValue
