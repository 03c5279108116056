import ScriptBridge.Decimal.Binary

/-!
# Decimal digits of a double

A decimal is `significand · 10 ^ exponent` with a natural significand.

- `Decimal.shortest`: the fewest digits that read back as the given double, and the nearest to it of
  those.
- `Decimal.fixed`: the text with a given number of places.
- `Decimal.scientific`: the text with a given number of places and a power of ten.
- `Decimal.positional`: a decimal written without a power of ten.
-/

namespace ScriptBridge.Decimal

/-- The number `significand · 10 ^ exponent`. -/
structure Scaled where
  significand : Nat
  exponent : Int
  deriving DecidableEq

def digits (n : Nat) : List Char := Nat.toDigits 10 n

/-- A decimal with the zeros at the end of its significand moved into the exponent; at most `fuel`
of them, and a significand has fewer zeros than digits. -/
def Scaled.trimWith : Nat → Scaled → Scaled
  | 0, d => d
  | fuel + 1, d =>
    if d.significand ≠ 0 ∧ d.significand % 10 = 0 then
      trimWith fuel ⟨d.significand / 10, d.exponent + 1⟩
    else d

/-- A decimal whose significand does not end in zero. -/
def Scaled.trim (d : Scaled) : Scaled := d.trimWith (digits d.significand).length

/-- `num · 10 ^ e / den` as a pair of natural numbers. -/
def scaleDecimal (num den : Nat) (e : Int) : Nat × Nat :=
  if 0 ≤ e then (num * Nat.pow 10 e.toNat, den) else (num, den * Nat.pow 10 (-e).toNat)

/-- The power of ten of the first digit of `num / den`, both positive. -/
def leadingPower (num den : Nat) : Int :=
  if den ≤ num then ((digits (num / den)).length : Int) - 1
  else
    let guess : Int := -((digits (den / num)).length : Int)
    let (n, d) := scaleDecimal num den (-(guess + 1))
    if d ≤ n then guess + 1 else guess

/-- A multiple of `10 ^ e` between `low / den` and `high / den` next to `num / den`: of the two
neighbours of `num / den` the nearer one that lies in the interval. -/
def neighbour? (tie : Tie) (inclusive : Bool) (low num high den : Nat) (e : Int) : Option Scaled :=
  let (n, d) := scaleDecimal num den (-e)
  let (l, _) := scaleDecimal low den (-e)
  let (h, _) := scaleDecimal high den (-e)
  let inside (c : Nat) : Bool :=
    if inclusive then l ≤ c * d && c * d ≤ h else l < c * d && c * d < h
  let below := n / d
  let near := roundDiv tie n d
  let far := if near = below then below + 1 else below
  if inside near then some ⟨near, e⟩ else if inside far then some ⟨far, e⟩ else none

/-- The shortest decimal that reads back as `mantissa · 2 ^ exponent`, the nearest to it of those;
`tie` decides between two that are equally near. -/
def shortest (tie : Tie) (mantissa : Nat) (exponent : Int) : Scaled :=
  if mantissa = 0 then ⟨0, 0⟩
  else
    -- The numbers that round to the double reach half a unit up, and half a unit down or, at a
    -- power of two, a quarter.
    let quarterBelow := mantissa = Nat.pow 2 52 ∧ -1074 < exponent
    let (num, den) := scaleBinary (4 * mantissa) 1 (exponent - 2)
    let (low, _) := scaleBinary (4 * mantissa - if quarterBelow then 1 else 2) 1 (exponent - 2)
    let (high, _) := scaleBinary (4 * mantissa + 2) 1 (exponent - 2)
    let top := leadingPower num den
    let found := (List.range 17).findSome? fun (n : Nat) =>
      neighbour? tie (mantissa % 2 = 0) low num high den (top - n)
    (found.getD ⟨0, 0⟩).trim

def signed (negative : Bool) (magnitude : String) : String :=
  if negative then "-" ++ magnitude else magnitude

/-- `n` written with at least `width` digits. -/
def padDigits (width : Nat) (n : Nat) : List Char :=
  let ds := digits n
  List.replicate (width - ds.length) '0' ++ ds

/-- A decimal without a power of ten: zeros stand in for the places between its digits and the
point. -/
def positional (d : Scaled) : String :=
  if 0 ≤ d.exponent then String.ofList (digits (d.significand * Nat.pow 10 d.exponent.toNat))
  else
    let places := (-d.exponent).toNat
    let ds := padDigits (places + 1) d.significand
    String.ofList (ds.take (ds.length - places) ++ '.' :: ds.drop (ds.length - places))

/-- The magnitude `mantissa · 2 ^ exponent` with `places` digits after the point, a tie going to the
even digit. -/
def fixedMagnitude (places : Nat) (mantissa : Nat) (exponent : Int) : String :=
  let (num, den) := scaleBinary mantissa 1 exponent
  let scaled := roundDiv .toEven (num * Nat.pow 10 places) den
  if places = 0 then String.ofList (digits scaled) else positional ⟨scaled, -places⟩

/-- The magnitude `mantissa · 2 ^ exponent` as one digit, `places` digits after the point and a
power of ten, a tie going to the even digit. The exponent is the second component. -/
def scientificMagnitude (places : Nat) (mantissa : Nat) (exponent : Int) : String × Int :=
  let (num, den) := scaleBinary mantissa 1 exponent
  let top := if mantissa = 0 then 0 else leadingPower num den
  let (n, d) := scaleDecimal num den (places - top)
  let rounded := roundDiv .toEven n d
  let (rounded, top) :=
    if rounded = Nat.pow 10 (places + 1) then (Nat.pow 10 places, top + 1) else (rounded, top)
  let text := if places = 0 then String.ofList (digits rounded) else positional ⟨rounded, -places⟩
  (text, top)

/-- A double with `places` digits after the point. -/
def fixed (places : Nat) (x : Float) : String :=
  match shape x with
  | .nan => "NaN"
  | .infinite negative => signed negative "inf"
  | .finite negative m e => signed negative (fixedMagnitude places m e)

/-- A double as one digit, `places` digits after the point and a power of ten. -/
def scientific (places : Nat) (x : Float) : String :=
  match shape x with
  | .nan => "NaN"
  | .infinite negative => signed negative "inf"
  | .finite negative m e =>
    let (text, power) := scientificMagnitude places m e
    signed negative (text ++ "e" ++ toString power)

/-- A double in the fewest digits that read back, without a power of ten. -/
def plain (x : Float) : String :=
  match shape x with
  | .nan => "NaN"
  | .infinite negative => signed negative "inf"
  | .finite negative m e => signed negative (positional (shortest .up m e))

end ScriptBridge.Decimal
