import ScriptBridge.Decimal.Digits
import ScriptBridge.Text.Quoted
import ScriptBridge.RValue

/-!
# Script values as text

- `RValue.numberText`: a double with seven significant digits.
- `RValue.deparse`: a value in one line, close to the source that makes it.
- `RValue.printed`: a value as it is printed, over several lines.
-/

namespace ScriptBridge.RValue

/-- A decimal without zeros at its end, and without a point there. -/
def trimZeros (s : String) : String :=
  if s.toList.contains '.' then
    let cs := s.toList.reverse.dropWhile (· = '0')
    String.ofList (cs.dropWhile (· = '.')).reverse
  else s

/-- A power of ten with a sign and two digits at least. -/
def powerText (n : Int) : String :=
  (if n < 0 then "-" else "+") ++ String.ofList (Decimal.padDigits 2 n.natAbs)

/-- A finite double as a digit, `places` more and a power of ten; the digits are passed through
`edit`. -/
def scientificText (places : Nat) (edit : String → String) (x : Float) : String :=
  match Decimal.shape x with
  | .finite negative m e =>
    let (mantissa, power) := Decimal.scientificMagnitude places m e
    edit (Decimal.signed negative mantissa) ++ "e" ++ powerText power
  | _ => Decimal.fixed places x

/-- The whole number below `10 ^ 15` that a double is. Its logarithm tells whether it is below, and
is rounded; a number of fourteen digits is below whatever its logarithm is rounded to. -/
def shortWhole? (x : Float) (magnitude : Int) : Option Int :=
  if Decimal.isWhole x then
    (Decimal.wholePart? x).filter fun n => n.natAbs < Nat.pow 10 14 ∨ magnitude < 15
  else none

/-- A double with seven significant digits: positional between `10 ^ -5` and `10 ^ 15`, else with a
power of ten; whole numbers below `10 ^ 15` with all their digits. -/
def numberText (x : Float) : String :=
  if x.isNaN then "NaN"
  else if x.isInf then if 0 < x then "Inf" else "-Inf"
  else if x == 0 then "0"
  else
    let magnitude := x.abs.log10.floor.toInt64.toInt
    match shortWhole? x magnitude with
    | some n => toString n
    | none =>
      if -5 ≤ magnitude ∧ magnitude < 15 then
        trimZeros (Decimal.fixed (min 15 (6 - magnitude)).toNat x)
      else scientificText 6 trimZeros x

def logicalText (b : Bool) : String := if b then "TRUE" else "FALSE"

def atomTexts : RValue → List (Option String)
  | logical v => v.map (·.map logicalText)
  | integer v => v.map (·.map fun n => toString n.toInt)
  | double v => v.map (·.map numberText)
  | character v => v
  | _ => []

/-- An element's text, `NA` if it is missing. -/
def orNA (s : Option String) : String := s.getD "NA"

def quotedText (s : Option String) : String := orNA (s.map Text.quoted)

/-- The elements of an atomic vector as they are printed: texts between quotes. -/
def shownAtoms : RValue → List String
  | character v => v.map quotedText
  | x => x.atomTexts.map orNA

/-- Elements of a vector in one line: a single one as it is, others combined. -/
def deparseAtoms : List String → String
  | [s] => s
  | ss => "c(" ++ ", ".intercalate ss ++ ")"

mutual

/-- A value in one line. -/
def deparse : RValue → String
  | null => "NULL"
  | logical v => deparseAtoms (logical v).shownAtoms
  | integer v => deparseAtoms (integer v).shownAtoms
  | double v => deparseAtoms (double v).shownAtoms
  | character v => deparseAtoms (character v).shownAtoms
  | list values names => "list(" ++ ", ".intercalate (deparseElements (names.getD []) values) ++ ")"
  | unsupported t => "<" ++ t ++ ">"

def deparseElements (names : List String) : List RValue → List String
  | [] => []
  | x :: xs =>
    let name := names.headD ""
    (if name = "" then deparse x else name ++ " = " ++ deparse x) :: deparseElements names.tail xs

end

def printedAtoms (empty : String) (items : List String) : String :=
  if items = [] then empty ++ "(0)\n" else "[1] " ++ " ".intercalate items ++ "\n"

mutual

/-- A value as it is printed. -/
def printed : RValue → String
  | null => "NULL\n"
  | logical v => printedAtoms "logical" (logical v).shownAtoms
  | integer v => printedAtoms "integer" (integer v).shownAtoms
  | double v => printedAtoms "numeric" (double v).shownAtoms
  | character v => printedAtoms "character" (character v).shownAtoms
  | list [] _ => "list()\n"
  | list (x :: xs) names => printedElements 1 (names.getD []) (x :: xs)
  | unsupported t => "<" ++ t ++ ">\n"

/-- The elements of a list from a position on, each after its name or position. -/
def printedElements (position : Nat) (names : List String) : List RValue → String
  | [] => ""
  | x :: xs =>
    let name := names.headD ""
    (if name = "" then s!"[[{position}]]\n" else "$" ++ name ++ "\n") ++ printed x ++ "\n" ++
      printedElements (position + 1) names.tail xs

end

end ScriptBridge.RValue
