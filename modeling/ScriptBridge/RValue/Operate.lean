import ScriptBridge.RValue.Coerce
import ScriptBridge.Syntax.Expr

/-!
# Operators on vectors

An operator between two vectors works element by element; the shorter vector is repeated, and the
result is empty if one of them is. A missing operand makes a missing result, unless a truth value
decides alone. Sums, differences and products of integers are integers, missing if they do not fit.
-/

namespace ScriptBridge.RValue

/-- The element of a vector at a position, counted from the start again past its end. -/
def cyclic {α : Type} (xs : Array α) (default : α) (i : Nat) : α := xs.getD (i % xs.size) default

/-- `f` on the elements of two vectors, the shorter one repeated. -/
def recycle {α β γ : Type} (f : α → β → γ) (xs : List α) (ys : List β) : List γ :=
  match xs, ys with
  | [], _ => []
  | _, [] => []
  | x :: xs, y :: ys =>
    let left := (x :: xs).toArray
    let right := (y :: ys).toArray
    (List.range (max left.size right.size)).map fun i => f (cyclic left x i) (cyclic right y i)

/-- `f` on elements that are both present. -/
def both {α β γ : Type} (f : α → β → Option γ) : Option α → Option β → Option γ
  | some x, some y => f x y
  | _, _ => none

/-- A vector of integers or truth values as integers. -/
def integers? : RValue → Option (List (Option Int32))
  | logical v => some (v.map (·.map boolToInt))
  | integer v => some v
  | _ => none

def integerOp? : BinaryOp → Option (Int → Int → Int)
  | .add => some (· + ·)
  | .sub => some (· - ·)
  | .mul => some (· * ·)
  | _ => none

def doubleOp (op : BinaryOp) (x y : Float) : Float :=
  match op with
  | .add => x + y
  | .sub => x - y
  | .mul => x * y
  | .div => x / y
  | _ => x.pow y

def doubleArith (op : BinaryOp) (a b : RValue) : Except Fault RValue := do
  let xs ← numeric a
  let ys ← numeric b
  return double (recycle (both fun x y => some (doubleOp op x y)) xs ys)

def arith (op : BinaryOp) (a b : RValue) : Except Fault RValue :=
  match integers? a, integers? b, integerOp? op with
  | some xs, some ys, some f =>
    .ok (integer (recycle (both fun x y => fit? (f x.toInt y.toInt)) xs ys))
  | _, _, _ => doubleArith op a b

/-- The first element of a bound of a range. -/
def bound (x : RValue) : Except Fault Float := do
  match (← numeric x).headD none with
  | some d => return d
  | none => .error .rangeBound

def inIntegers (d : Float) : Bool := -2147483648 < d && d ≤ 2147483647

/-- The whole number at which a range of integers starts, if its bounds make it one. -/
def rangeStart? (first last : Float) : Option Int :=
  if Decimal.isWhole first && inIntegers first && inIntegers last then Decimal.wholePart? first
  else none

/-- How many steps of one lead from one bound to the other, as a machine word holds them. -/
def steps (first last : Float) : Nat := (last - first).abs.toUInt64.toNat

/-- The numbers from one bound to the other in steps of one. Where they are integers, the doubles
that stand for them are exact, and the steps are done on the integers. Where the steps fill a
machine word there is no room to count one element more, which is a breakdown. -/
def range (a b : RValue) : Except Fault RValue := do
  let first ← bound a
  let last ← bound b
  if steps first last + 1 = UInt64.size then .error (.breakdown .uncounted)
  else
    let places := List.range (steps first last + 1)
    match rangeStart? first last with
    | some n =>
      let step : Int := if first ≤ last then 1 else -1
      return integer (places.map fun (i : Nat) => some (Int32.ofIntClamp (n + step * i)))
    | none =>
      let step : Float := if first ≤ last then 1 else -1
      return double (places.map fun i => some (first + step * i.toUInt64.toFloat))

/-- What a comparison says of an order. -/
def comparisonHolds (op : BinaryOp) (o : Ordering) : Bool :=
  match op with
  | .eq => o == .eq
  | .ne => o != .eq
  | .lt => o == .lt
  | .le => o != .gt
  | .gt => o == .gt
  | _ => o != .lt

/-- The order of two doubles, which a NaN has not. -/
def orderDoubles? (x y : Float) : Option Ordering :=
  if x < y then some .lt else if x == y then some .eq else if y < x then some .gt else none

/-- The order of two texts, by code points. -/
def orderTexts (s t : String) : Ordering := if s < t then .lt else if s = t then .eq else .gt

def isList : RValue → Bool
  | list _ _ => true
  | _ => false

def isCharacter : RValue → Bool
  | character _ => true
  | _ => false

/-- A comparison: as texts if one side is a text, else as numbers. -/
def compare (op : BinaryOp) (a b : RValue) : Except Fault RValue :=
  if a.isList || b.isList then .error .notComparable
  else if a.isCharacter || b.isCharacter then do
    let xs ← asCharacter a
    let ys ← asCharacter b
    return logical (recycle (both fun s t => some (comparisonHolds op (orderTexts s t))) xs ys)
  else do
    let xs ← numeric a
    let ys ← numeric b
    return logical (recycle (both fun x y => (orderDoubles? x y).map (comparisonHolds op)) xs ys)

/-- A conjunction of truth values, decided by one that is false. -/
def andElements : Option Bool → Option Bool → Option Bool
  | some false, _ => some false
  | _, some false => some false
  | some true, some true => some true
  | _, _ => none

/-- A disjunction of truth values, decided by one that is true. -/
def orElements : Option Bool → Option Bool → Option Bool
  | some true, _ => some true
  | _, some true => some true
  | some false, some false => some false
  | _, _ => none

/-- A conjunction or disjunction, element by element. -/
def logic (f : Option Bool → Option Bool → Option Bool) (a b : RValue) : Except Fault RValue := do
  let xs ← asLogical a
  let ys ← asLogical b
  return logical (recycle f xs ys)

def operate (op : BinaryOp) (a b : RValue) : Except Fault RValue :=
  match op with
  | .add | .sub | .mul | .div | .pow => arith op a b
  | .range => range a b
  | .eq | .ne | .lt | .le | .gt | .ge => compare op a b
  | .and | .andAnd => logic andElements a b
  | .or | .orOr => logic orElements a b

def negate (x : RValue) : Except Fault RValue :=
  match x.integers?, x with
  | some v, _ => .ok (integer (v.map (·.map (- ·))))
  | none, double v => .ok (double (v.map (·.map (- ·))))
  | none, _ => .error .unaryOperand

/-- The negation of truth values; texts have none. -/
def complement (x : RValue) : Except Fault RValue :=
  if x.isCharacter then .error .argumentType
  else (asLogical x).map fun v => logical (v.map (·.map (!·)))

def operateUnary (op : UnaryOp) (x : RValue) : Except Fault RValue :=
  match op with
  | .neg => negate x
  | .not => complement x

end ScriptBridge.RValue
