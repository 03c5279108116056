import ScriptBridge.RValue.Combine

/-!
# Selecting elements

An index names positions by number (from one), by name, or by a mask of truth values. Negative
numbers leave positions out; zeros count for nothing. Next to negative numbers a zero is a
breakdown, and a NaN is one wherever it is taken for a position (`RValue.position`).

- `RValue.positions`: the positions that an index names.
- `RValue.subset`: the elements at the positions, `x[i]`.
- `RValue.element`: the one element at a position, `x[[i]]`.
- `RValue.dollar`: the element under a name, `x$name`.
-/

namespace ScriptBridge.RValue

/-- A double without its fraction and sign as a natural number. -/
def magnitude (d : Float) : Nat := d.abs.toUInt64.toNat

def namePosition? (names : List String) (key : Option String) : Option Nat :=
  key.bind fun k => names.findIdx? (· = k)

/-- The positions at which a mask holds, missing where it is; the mask is repeated over `length`
positions. -/
def maskPositions (length : Nat) (mask : List (Option Bool)) : List (Option Nat) :=
  match mask with
  | [] => []
  | b :: bs =>
    let bits := (b :: bs).toArray
    (List.range (max length bits.size)).filterMap fun i =>
      match bits.getD (i % bits.size) b with
      | some true => some (some i)
      | some false => none
      | none => some none

/-- The position of a number that counts from one. A number below one and a NaN have none, which is
a breakdown. -/
def position (d : Float) : Except Fault Nat :=
  match magnitude d with
  | 0 => .error (.breakdown .beforeFirst)
  | n + 1 => .ok n

/-- The positions that numbers leave over, none of them positive. -/
def remainingPositions (length : Nat) (numbers : List (Option Float)) :
    Except Fault (List (Option Nat)) := do
  let dropped ← numbers.reduceOption.mapM position
  return ((List.range length).filter fun i => !dropped.contains i).map some

/-- Whether a double is zero without its fraction. -/
def isZeroWhole (d : Float) : Bool := magnitude d = 0 && !d.isNaN

/-- The positions that numbers name, none of them negative. -/
def numberPositions (numbers : List (Option Float)) : Except Fault (List (Option Nat)) :=
  (numbers.filter fun d => !d.any isZeroWhole).mapM fun d =>
    match d with
    | none => .ok none
    | some d => (position d).map some

/-- The positions that an index names, from zero; a missing one selects a missing element. -/
def positions (x index : RValue) : Except Fault (List (Option Nat)) :=
  match index with
  | null => .ok []
  | character keys => .ok (keys.map (namePosition? (x.names?.getD [])))
  | logical mask => .ok (maskPositions x.length mask)
  | integer _ | double _ => do
    let numbers ← numeric index
    let negative := numbers.any (·.any (· < 0))
    let positive := numbers.any (·.any (0 < ·))
    if negative && positive then .error .mixedSubscripts
    else if negative then remainingPositions x.length numbers
    else numberPositions numbers
  | list _ _ => .error (.subscriptType "list")
  | unsupported t => .error (.subscriptType t)

def at? {α : Type} (v : Array α) (p : Option Nat) : Option α := p.bind (v[·]?)

def gather {α : Type} (v : List (Option α)) (ps : List (Option Nat)) : List (Option α) :=
  let v := v.toArray
  ps.map fun p => (at? v p).join

/-- The selection `x[i]`. -/
def subset (x index : RValue) : Except Fault RValue := do
  let ps ← positions x index
  match x with
  | null => return null
  | logical v => return logical (gather v ps)
  | integer v => return integer (gather v ps)
  | double v => return double (gather v ps)
  | character v => return character (gather v ps)
  | list values names =>
    let values := values.toArray
    return list (ps.map fun p => (at? values p).getD null)
      (names.map fun ns => ps.map fun p => (at? ns.toArray p).getD "")
  | unsupported t => .error (.notSubsettable t)

/-- The one position that an index names; a name that does not occur has none. -/
def singlePosition (x index : RValue) : Except Fault (Option Nat) :=
  if index.isEmpty then .error .emptySubscript
  else if index.length ≠ 1 then .error .manySubscripts
  else match index with
    | character keys => .ok (namePosition? (x.names?.getD []) (keys.headD none))
    | _ => do
      match (← numeric index).headD none with
      | none => .error .outOfBounds
      | some d => if d < 1 then .error .invalidSubscript else return some (← position d)

/-- The selection `x[[i]]`; a name that does not occur in a list selects null. -/
def element (x index : RValue) : Except Fault RValue :=
  match x with
  | unsupported t => .error (.notSubsettable t)
  | null => .ok null
  | _ => do
    match ← singlePosition x index with
    | some i =>
      match x.split[i]? with
      | some v => return v
      | none => .error .outOfBounds
    | none =>
      if x.mode? = some .list ∧ index.mode? = some .character then
        return null
      else
        .error .outOfBounds

/-- The selection `x$name`. -/
def dollar (x : RValue) (name : String) : Except Fault RValue :=
  match x with
  | null => .ok null
  | list _ _ => .ok ((x.getNamed? name).getD null)
  | _ => .error .dollarOnVector

end ScriptBridge.RValue
