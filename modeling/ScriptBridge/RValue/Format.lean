import ScriptBridge.RValue.Combine
import ScriptBridge.RValue.Operate
import ScriptBridge.Text.Case

/-!
# Format templates

A template is text with placeholders: a percent sign, flags out of `-+ 0#`, a width, a precision
after a point, and a conversion out of `s`, `d`, `i`, `f`, `e`, `g`, `x` and `X`. Two percent signs
stand for one. Each placeholder takes the next argument.

- `Format.spec?`: the placeholder at the start of a text.
- `Format.fill`: a template with its placeholders filled in.
- `RValue.sprintf`: a template filled in for each element of its arguments.
-/

namespace ScriptBridge

/-- A placeholder of a template. -/
structure Format where
  flags : List Char
  width : Nat
  precision : Option Nat
  conversion : Char
  deriving DecidableEq

namespace Format

/-- The number that digits spell, zero if it does not fit 64 bits. -/
def wordOfDigits (ds : List Char) : Nat :=
  let n := Decimal.ofDigits ds
  if n < Nat.pow 2 64 then n else 0

def isFlag (c : Char) : Bool := c = '-' || c = '+' || c = ' ' || c = '0' || c = '#'

/-- The placeholder at the start of a text, the percent sign being read, and the text after it. A
text that ends before the conversion has none. -/
def spec? (cs : List Char) : Option (Format × List Char) :=
  let flags := cs.takeWhile isFlag
  let rest := cs.dropWhile isFlag
  let width := wordOfDigits (rest.takeWhile Char.isDigit)
  let (precision, rest) := match rest.dropWhile Char.isDigit with
    | '.' :: rest =>
      (some (wordOfDigits (rest.takeWhile Char.isDigit)), rest.dropWhile Char.isDigit)
    | rest => (none, rest)
  match rest with
  | [] => none
  | conversion :: rest => some ({ flags, width, precision, conversion }, rest)

/-- A number with the sign that the flags ask for. -/
def withSign (f : Format) (s : String) : String :=
  if s.toList.head? = some '-' then s
  else if f.flags.contains '+' then "+" ++ s
  else if f.flags.contains ' ' then " " ++ s
  else s

/-- A text brought to the width: on the left, with zeros after the sign, or on the right. -/
def pad (f : Format) (body : String) : String :=
  let cs := body.toList
  let missing := f.width - cs.length
  if f.flags.contains '-' then String.ofList (cs ++ List.replicate missing ' ')
  else if f.flags.contains '0' && f.conversion ≠ 's' then
    match cs with
    | '-' :: digits => String.ofList ('-' :: List.replicate missing '0' ++ digits)
    | digits => String.ofList (List.replicate missing '0' ++ digits)
  else String.ofList (List.replicate missing ' ' ++ cs)

/-- The 64 bits of a whole number in hexadecimal. -/
def hexText (d : Float) : String := String.ofList (Nat.toDigits 16 d.toInt64.toUInt64.toNat)

/-- A text, cut to the precision. -/
def textBody (f : Format) (s : String) : String :=
  match f.precision with
  | some p => String.ofList (s.toList.take p)
  | none => s

/-- The first element as a whole number, if it is not missing. -/
def wholeNumber? (f : Format) (x : RValue) : Except Fault (Option Int) :=
  match x with
  | .logical (b :: _) => .ok (b.map fun b => if b then 1 else 0)
  | .integer (n :: _) => .ok (n.map (·.toInt))
  | .character _ => .error (.textForInteger f.conversion)
  | _ => do
    match (← RValue.asDouble x).headD none with
    | none => return none
    | some d =>
      if Decimal.isWhole d then return some d.toInt64.toInt
      else .error (.fractionForInteger f.conversion)

def integerBody (f : Format) (n : Int) : String := f.withSign (toString n)

def doubleBody (x : RValue) (write : Float → String) : Except Fault String := do
  return RValue.orNA (((← RValue.asDouble x).headD none).map write)

/-- The first element as a text. An argument without elements is a breakdown. -/
def firstText (x : RValue) : Except Fault String := do
  match ← RValue.asCharacter x with
  | [] => .error (.breakdown .noFirst)
  | s :: _ => return RValue.orNA s

/-- An argument as its conversion shows it, before it is brought to the width. -/
def body (f : Format) (x : RValue) : Except Fault String :=
  match f.conversion with
  | 's' => (firstText x).map f.textBody
  | 'd' | 'i' => do return RValue.orNA ((← f.wholeNumber? x).map f.integerBody)
  | 'f' => doubleBody x fun d => f.withSign (Decimal.fixed (f.precision.getD 6) d)
  | 'e' => doubleBody x fun d => f.withSign (RValue.scientificText (f.precision.getD 6) id d)
  | 'g' => doubleBody x fun d => f.withSign (RValue.numberText d)
  | 'x' => doubleBody x hexText
  | 'X' => doubleBody x fun d => Text.toUpper (hexText d)
  | c => .error (.unknownFormat ("%" ++ String.singleton c))

/-- A template with its placeholders filled in; each turn takes a character of the template at
least, so its length is `fuel` enough. -/
def fillWith (template : String) : Nat → List Char → List RValue → Except Fault String
  | 0, _, _ => .ok ""
  | _ + 1, [], _ => .ok ""
  | fuel + 1, '%' :: '%' :: rest, args => do
    return "%" ++ (← fillWith template fuel rest args)
  | fuel + 1, '%' :: rest, args =>
    match spec? rest, args with
    | none, _ => .error (.unknownFormat template)
    | some _, [] => .error .tooFewArguments
    | some (f, rest), x :: args => do
      let text := f.pad (← f.body x)
      return text ++ (← fillWith template fuel rest args)
  | fuel + 1, c :: rest, args => do
    return String.singleton c ++ (← fillWith template fuel rest args)

def fill (template : String) (args : List RValue) : Except Fault String :=
  fillWith template (template.toList.length + 1) template.toList args

end Format

namespace RValue

/-- Templates filled in for each element of the arguments, the shorter ones repeated. -/
def sprintf (templates : List String) (args : List RValue) : Except Fault RValue :=
  if templates = [] ∨ args.any isEmpty then .ok (character [])
  else
    let columns := args.map fun x => x.split.toArray
    let templates := templates.toArray
    let rows := (columns.map (·.size)).foldl max templates.size
    ((List.range rows).mapM fun i =>
      Format.fill (cyclic templates "" i) (columns.map fun c => cyclic c null i)).map strings

end RValue

end ScriptBridge
