import ScriptBridge.Decimal.Digits
import ScriptBridge.Json.Tree

/-!
# Writing JSON text

The text has no blanks. A double has the fewest digits that read back and at least one place after
the point; it has a power of ten below `10 ^ -5` and from `10 ^ 16` on. What is not a number is
written as null.
-/

namespace ScriptBridge.Json

/-- A positive decimal without a trailing zero, as a number of JSON. -/
def decimalText (d : Decimal.Scaled) : String :=
  let ds := Decimal.digits d.significand
  let top : Int := (ds.length : Int) - 1 + d.exponent
  if -5 ≤ top ∧ top < 16 then
    if 0 ≤ d.exponent then Decimal.positional d ++ ".0" else Decimal.positional d
  else
    let mantissa := match ds with
      | [c] => [c]
      | c :: cs => c :: '.' :: cs
      | [] => []
    String.ofList mantissa ++ "e" ++ (if 0 ≤ top then "+" else "") ++ toString top

def doubleText (x : Float) : String :=
  match Decimal.shape x with
  | .finite negative m e =>
    Decimal.signed negative
      (if m = 0 then "0.0" else decimalText (Decimal.shortest .toEven m e))
  | _ => "null"

def escapeChar (c : Char) : List Char :=
  match c with
  | '"' => ['\\', '"']
  | '\\' => ['\\', '\\']
  | '\n' => ['\\', 'n']
  | '\r' => ['\\', 'r']
  | '\t' => ['\\', 't']
  | '\x08' => ['\\', 'b']
  | '\x0c' => ['\\', 'f']
  | c =>
    if c.toNat < 0x20 then
      ['\\', 'u', '0', '0'] ++ [Nat.digitChar (c.toNat / 16), Nat.digitChar (c.toNat % 16)]
    else [c]

def stringText (s : String) : String :=
  String.ofList ('"' :: s.toList.flatMap escapeChar ++ ['"'])

def numberText : JsonNumber → String
  | .natural n => toString n.toNat
  | .negative n => toString n.toInt
  | .double x => doubleText x

mutual

/-- A value of JSON as text. -/
def text : Json → String
  | .null => "null"
  | .bool true => "true"
  | .bool false => "false"
  | .number n => numberText n
  | .string s => stringText s
  | .array items => "[" ++ ",".intercalate (itemTexts items) ++ "]"
  | .object members => "\x7b" ++ ",".intercalate (memberTexts members) ++ "\x7d"

def itemTexts : List Json → List String
  | [] => []
  | x :: xs => text x :: itemTexts xs

def memberTexts : List (String × Json) → List String
  | [] => []
  | (key, x) :: xs => (stringText key ++ ":" ++ text x) :: memberTexts xs

end

end ScriptBridge.Json
