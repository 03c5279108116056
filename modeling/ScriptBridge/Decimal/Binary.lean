/-!
# Binary floating point, exactly

A finite double is `± mantissa · 2 ^ exponent` with natural `mantissa`. This module takes a `Float`
apart into these numbers and, the other way, rounds a quotient of natural numbers to the nearest
double, a tie going to the even mantissa.

- `Decimal.shape`: what a `Float` is.
- `Decimal.wholePart?`, `Decimal.isWhole`: a double without its fraction, and whether it has none.
- `Decimal.roundDiv`: a quotient rounded to the nearest natural number.
- `Decimal.nearest`: a quotient rounded to the nearest `Float`.
-/

namespace ScriptBridge.Decimal

/-- What a double stands for. -/
inductive Shape where
  | nan
  | infinite (negative : Bool)
  /-- The number `± mantissa · 2 ^ exponent`. -/
  | finite (negative : Bool) (mantissa : Nat) (exponent : Int)
  deriving DecidableEq

/-- The number a `Float` stands for, read off its bits. -/
def shape (x : Float) : Shape :=
  let bits : Nat := x.toBits.toNat
  let negative := bits / Nat.pow 2 63 == 1
  let biased : Nat := bits / Nat.pow 2 52 % Nat.pow 2 11
  let fraction : Nat := bits % Nat.pow 2 52
  if biased = 2047 then
    if fraction = 0 then .infinite negative else .nan
  else if biased = 0 then .finite negative fraction (-1074)
  else .finite negative (Nat.pow 2 52 + fraction) ((biased : Int) - 1075)

/-- Which way a number half-way between two neighbours goes. -/
inductive Tie where
  | toEven
  | up
  deriving DecidableEq

/-- `num / den` rounded to the nearest natural number. -/
def roundDiv (tie : Tie) (num den : Nat) : Nat :=
  let q := num / den
  let twice := 2 * (num % den)
  if twice < den then q
  else if den < twice then q + 1
  else match tie with
    | .up => q + 1
    | .toEven => if q % 2 = 0 then q else q + 1

/-- `num · 2 ^ e / den` as a pair of natural numbers. -/
def scaleBinary (num den : Nat) (e : Int) : Nat × Nat :=
  if 0 ≤ e then (num * Nat.pow 2 e.toNat, den) else (num, den * Nat.pow 2 (-e).toNat)

def wholePart? (x : Float) : Option Int :=
  match shape x with
  | .finite negative m e =>
    let (num, den) := scaleBinary m 1 e
    some (if negative then -((num / den : Nat) : Int) else (num / den : Nat))
  | _ => none

def isWhole (x : Float) : Bool :=
  match shape x with
  | .finite _ m e =>
    let (num, den) := scaleBinary m 1 e
    num % den = 0
  | _ => false

/-- The double nearest to `num / den`, for positive `den`; infinite when the quotient is too large.
-/
def nearest (negative : Bool) (num den : Nat) : Float :=
  let magnitude : Nat :=
    if num = 0 then 0
    else
      -- `num / den` lies strictly between `2 ^ (guess - 1)` and `2 ^ (guess + 1)`.
      let guess : Int := (num.log2 : Int) - den.log2
      let atLeast (e : Int) : Bool :=
        let (n, d) := scaleBinary num den (-e)
        d ≤ n
      let top := if atLeast guess then guess else guess - 1
      let unit := max (top - 52) (-1074)
      let (n, d) := scaleBinary num den (-unit)
      let mantissa := roundDiv .toEven n d
      -- A mantissa of `2 ^ 53` carries into the exponent field by itself.
      let biased := (unit + 1074).toNat
      let bits := biased * Nat.pow 2 52 + mantissa
      if 2047 * Nat.pow 2 52 ≤ bits then 2047 * Nat.pow 2 52 else bits
  Float.ofBits (UInt64.ofNat (magnitude + if negative then Nat.pow 2 63 else 0))

end ScriptBridge.Decimal
