import ScriptBridge.RValue.Coerce

/-!
# Taking vectors apart and together

- `RValue.split`: the elements of a value, those of an atomic vector as vectors of one element.
- `RValue.combine`: values one after the other, coerced to the last type in order that occurs.
- `RValue.unlist`: the elements of a list at any depth as one vector.
- `RValue.rev`: the elements in reverse order.
-/

namespace ScriptBridge.RValue

def split : RValue → List RValue
  | null | unsupported _ => []
  | logical v => v.map fun x => logical [x]
  | integer v => v.map fun x => integer [x]
  | double v => v.map fun x => double [x]
  | character v => v.map fun x => character [x]
  | list values _ => values

def laterMode : Option Mode → Option Mode → Option Mode
  | none, m => m
  | m, none => m
  | some a, some b => some (if a.rank < b.rank then b else a)

def topMode? (parts : List RValue) : Option Mode :=
  parts.foldl (fun m x => laterMode m x.mode?) none

/-- The elements of values one after the other; a value of an unsupported type has none. -/
def flatten {α : Type} (read : RValue → Except Fault (List α)) :
    List RValue → Except Fault (List α)
  | [] => .ok []
  | unsupported _ :: xs => flatten read xs
  | x :: xs => do
    let v ← read x
    let vs ← flatten read xs
    return v ++ vs

def elementNames : RValue → List String
  | list _ (some names) => names
  | x => x.split.map fun _ => ""

/-- Values as one list; it has names if one of them has. -/
def combineLists (parts : List RValue) : RValue :=
  let names := if parts.any (·.names?.isSome) then some (parts.flatMap elementNames) else none
  list (parts.flatMap split) names

/-- Values one after the other. -/
def combine (parts : List RValue) : Except Fault RValue :=
  match topMode? parts with
  | none => .ok null
  | some .list => .ok (combineLists parts)
  | some .character => (flatten asCharacter parts).map character
  | some .double => (flatten asDouble parts).map double
  | some .integer => (flatten asInteger parts).map integer
  | some .logical => (flatten asLogical parts).map logical

mutual

/-- A list as one vector of all elements at any depth; any other value as it is. -/
def unlist : RValue → Except Fault RValue
  | list values _ => do combine (← unlistAll values)
  | null => .ok null
  | logical v => .ok (logical v)
  | integer v => .ok (integer v)
  | double v => .ok (double v)
  | character v => .ok (character v)
  | unsupported t => .ok (unsupported t)

/-- Values, the lists among them as vectors. -/
def unlistAll : List RValue → Except Fault (List RValue)
  | [] => .ok []
  | x :: xs => do
    let v ← unlist x
    let vs ← unlistAll xs
    return v :: vs

end

def rev (x : RValue) : Except Fault RValue := combine x.split.reverse

end ScriptBridge.RValue
