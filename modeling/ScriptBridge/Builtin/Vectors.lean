import ScriptBridge.Builtin.Args
import ScriptBridge.RValue.Combine
import ScriptBridge.RValue.Operate

/-!
# Built-in functions on vectors

Making vectors and lists, looking at them, carrying them from one type to another, and sums.
-/

namespace ScriptBridge.Builtin

/-! ## Construction -/

/-- The function `c`: all arguments as one vector. -/
def combineAll (args : Args) : Exec RValue := do
  Exec.ofExcept (RValue.combine (← values (args.map (·.2))))

/-- The function `list`: the arguments as a list, with names if one of them has a name. -/
def makeList (args : Args) : Exec RValue := do
  let xs ← values (args.map (·.2))
  let names := args.map fun a => a.1.getD ""
  return .list xs (if args.any (·.1.isSome) then some names else none)

/-- The integers from one to `n`. -/
def upTo (n : Nat) : RValue :=
  .integer ((List.range n).map fun i => some (Int32.ofNat (i + 1)))

/-- The function `seq_len`: the integers up to a length. -/
def sequence (function : String) (args : Args) : Exec RValue := do
  let x ← required function "length.out" (args.take "length.out").1
  let n := ((← Exec.ofExcept x.asInteger).headD none).getD 0
  return upTo n.toInt.toNat

/-- The function `seq_along`: the positions of a value. -/
def positions (function : String) (args : Args) : Exec RValue := do
  return upTo (← required function "along.with" (args.take "along.with").1).length

def onValue (f : RValue → Except Fault RValue) (function : String) (args : Args) : Exec RValue := do
  Exec.ofExcept (f (← required function "x" (args.take "x").1))

/-! ## Inspection -/

/-- The names of the elements, null without names. -/
def namesOf (x : RValue) : RValue :=
  match x.names? with
  | some names => .strings names
  | none => .null

def isMissing (x : RValue) : Bool :=
  x.length = 1 &&
    match x.asCharacter with
    | .ok (none :: _) => true
    | _ => false

def missingElements : RValue → RValue
  | .logical v => .logical (v.map fun e => some e.isNone)
  | .integer v => .logical (v.map fun e => some e.isNone)
  | .double v => .logical (v.map fun e => some e.isNone)
  | .character v => .logical (v.map fun e => some e.isNone)
  | .list vs _ => .logical (vs.map fun x => some (isMissing x))
  | .null | .unsupported _ => .logical []

/-- The function `is.null`. -/
def isNull (args : Args) : Exec RValue := do
  match (args.take "x").1 with
  | some (.data .null) => return .ofBool true
  | some _ => return .ofBool false
  | none => Exec.fail (.missingArgument "x")

/-- The function `typeof`. -/
def typeName (args : Args) : Exec RValue := do
  match (args.take "x").1 with
  | some (.data x) => return .string x.typeName
  | some (.closure _ _) => return .string "closure"
  | none => Exec.fail (.missingArgument "x")

/-! ## Sums -/

/-- Whether a sum with a value among its parts can be an integer. -/
def isIntegral : RValue → Bool
  | .integer _ | .logical _ | .null => true
  | _ => false

/-- The sum of elements: missing if one of them is, an integer if all parts are integral and it is
small enough. -/
def sumOf (integral : Bool) (elements : List (Option Float)) : RValue :=
  match elements.mapM id with
  | none => if integral then .integer [none] else .double [none]
  | some ds =>
    let total := ds.foldl (· + ·) 0
    if integral && total.abs ≤ 2147483647 then .integer [RValue.toInteger? total]
    else .ofFloat total

def sum (args : Args) : Exec RValue := do
  let parts ← values args.unnamed
  let elements ← parts.mapM fun x => Exec.ofExcept x.asDouble
  return sumOf (parts.all isIntegral) elements.flatten

end ScriptBridge.Builtin
