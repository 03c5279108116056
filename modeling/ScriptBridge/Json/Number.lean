import ScriptBridge.Decimal.Reading
import ScriptBridge.Json.Tree

/-!
# Numbers in JSON text

An integer that fits 64 bits is kept as an integer, except minus zero. Any other number becomes a
double: a significand of at most 64 bits (further digits only move the power of ten) is converted
and then scaled by a power of ten in floating point, in steps of at most `10 ^ 308`. A number too
large for a double is refused.
-/

namespace ScriptBridge.JsonNumber

def powerOfTen (n : Nat) : Float := Decimal.nearestScaled false 1 n

/-- `x` divided by `10 ^ 308` as often as `places` goes beyond 308, and then by the rest. -/
def divideByPower (x : Float) (places : Nat) : Float :=
  if places ≤ 308 ∨ x == 0 then
    if places ≤ 308 then x / powerOfTen places else x
  else divideByPower (x / powerOfTen 308) (places - 308)
termination_by places
decreasing_by omega

def scale? (negative : Bool) (significand : Nat) (exponent : Int) : Option Float :=
  let x := significand.toUInt64.toFloat
  let apply (y : Float) : Float := if negative then -y else y
  if exponent < 0 then some (apply (divideByPower x (-exponent).toNat))
  else if exponent ≤ 308 then
    let y := x * powerOfTen exponent.toNat
    if y.isInf then none else some (apply y)
  else if x == 0 then some (apply x)
  else none

/-- The power of ten at the end of a number, the marker being read: `starting` is the exponent that
the digits so far need. An exponent beyond 32 bits is out of range, or makes the number zero. -/
def readPower? (negative : Bool) (significand : Nat) (starting : Int) (cs : List Char) :
    Option (Float × List Char) :=
  let (down, cs) := Decimal.takeSign cs
  let ds := cs.takeWhile Char.isDigit
  let rest := cs.dropWhile Char.isDigit
  if ds = [] then none
  else
    let power := Decimal.ofDigits ds
    if power ≤ 2147483647 then
      let exponent := if down then max (starting - power) (-2147483648)
        else min (starting + power) 2147483647
      (scale? negative significand exponent).map (·, rest)
    else if significand ≠ 0 ∧ !down then none
    else some (if negative then -0.0 else 0.0, rest)

/-- What may follow the digits: a power of ten or nothing. -/
def readTail? (negative : Bool) (significand : Nat) (exponent : Int) (cs : List Char) :
    Option (Float × List Char) :=
  match cs with
  | 'e' :: rest => readPower? negative significand exponent rest
  | 'E' :: rest => readPower? negative significand exponent rest
  | _ => (scale? negative significand exponent).map (·, cs)

/-- Digits taken into a significand of 64 bits as long as it holds them: the significand, how many
were taken, and the rest, which starts with a digit only if the significand is full. -/
def takeDigits (significand : Nat) (taken : Nat) : List Char → Nat × Nat × List Char
  | [] => (significand, taken, [])
  | c :: rest =>
    let next := 10 * significand + Decimal.digitValue c
    if c.isDigit ∧ next < Nat.pow 2 64 then takeDigits next (taken + 1) rest
    else (significand, taken, c :: rest)

/-- The digits after the point; those that the significand cannot hold are passed over. -/
def readFraction? (negative : Bool) (significand : Nat) (exponent : Int) (cs : List Char) :
    Option (Float × List Char) :=
  let (full, taken, rest) := takeDigits significand 0 cs
  let overflows := match rest with
    | c :: _ => c.isDigit
    | [] => false
  if overflows then
    readTail? negative full (exponent - taken) (rest.dropWhile Char.isDigit)
  else if taken = 0 then none
  else readTail? negative full (exponent - taken) rest

/-- A number at the start of a text and the text after it; the sign has been read. -/
def readUnsigned? (negative : Bool) (cs : List Char) : Option (JsonNumber × List Char) :=
  let asDouble := Option.map fun ((x, rest) : Float × List Char) => (double x, rest)
  let (significand, rest) : Nat × List Char := match cs with
    | '0' :: rest => (0, rest)
    | _ => let (n, _, rest) := takeDigits 0 0 cs; (n, rest)
  let long := rest.takeWhile Char.isDigit
  let leadingZero := cs.head? = some '0'
  if !(cs.head?.any Char.isDigit) ∨ leadingZero ∧ long ≠ [] then none
  else if long ≠ [] then
    match rest.dropWhile Char.isDigit with
    | '.' :: more => asDouble (readFraction? negative significand long.length more)
    | after => asDouble (readTail? negative significand long.length after)
  else
    match rest with
    | '.' :: more => asDouble (readFraction? negative significand 0 more)
    | 'e' :: _ => asDouble (readTail? negative significand 0 rest)
    | 'E' :: _ => asDouble (readTail? negative significand 0 rest)
    | _ =>
      if !negative then some (natural significand.toUInt64, rest)
      else if significand = 0 ∨ Nat.pow 2 63 < significand then
        some (double (-significand.toUInt64.toFloat), rest)
      else some (.negative (Int64.ofInt (-significand)), rest)

/-- A number at the start of a text and the text after it. -/
def read? (cs : List Char) : Option (JsonNumber × List Char) :=
  match cs with
  | '-' :: rest => readUnsigned? true rest
  | _ => readUnsigned? false cs

end ScriptBridge.JsonNumber
