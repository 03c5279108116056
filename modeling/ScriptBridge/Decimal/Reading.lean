import ScriptBridge.Decimal.Binary

/-!
# Reading decimals

A decimal is an optional sign and then a word for infinity or for no number, in any case, or digits
with an optional point and an optional power of ten. At least one digit stands before or after the
point, and at least one in the power. It is read as the nearest double.
-/

namespace ScriptBridge.Decimal

def digitValue (c : Char) : Nat := c.toNat - '0'.toNat

def ofDigits (cs : List Char) : Nat := cs.foldl (fun n c => 10 * n + digitValue c) 0

def nearestScaled (negative : Bool) (significand : Nat) (exponent : Int) : Float :=
  -- Past these powers of ten every double is infinite or zero.
  let top : Int := ((Nat.toDigits 10 significand).length : Int) + exponent
  if significand = 0 ∨ top < -400 then nearest negative 0 1
  else if 400 < top then nearest negative (Nat.pow 10 400) 1
  else if 0 ≤ exponent then nearest negative (significand * Nat.pow 10 exponent.toNat) 1
  else nearest negative significand (Nat.pow 10 (-exponent).toNat)

def takeSign (cs : List Char) : Bool × List Char :=
  match cs with
  | '-' :: rest => (true, rest)
  | '+' :: rest => (false, rest)
  | _ => (false, cs)

def readPower? (cs : List Char) : Option Int :=
  match cs with
  | [] => some 0
  | c :: rest =>
    if c = 'e' ∨ c = 'E' then
      let (negative, ds) := takeSign rest
      if ds ≠ [] ∧ ds.all Char.isDigit then
        some (if negative then -(ofDigits ds : Int) else ofDigits ds)
      else none
    else none

def read? (cs : List Char) : Option Float :=
  let (negative, cs) := takeSign cs
  let word := cs.map Char.toLower
  if word = "inf".toList ∨ word = "infinity".toList then some (nearest negative (Nat.pow 10 400) 1)
  else if word = "nan".toList then some (Float.ofBits 0x7ff8000000000000)
  else
    let whole := cs.takeWhile Char.isDigit
    let rest := cs.dropWhile Char.isDigit
    let (fraction, rest) := match rest with
      | '.' :: r => (r.takeWhile Char.isDigit, r.dropWhile Char.isDigit)
      | _ => ([], rest)
    if whole = [] ∧ fraction = [] then none
    else do
      let power ← readPower? rest
      return nearestScaled negative (ofDigits (whole ++ fraction)) (power - fraction.length)

end ScriptBridge.Decimal
