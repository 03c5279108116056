import ScriptBridge.Json.Number

/-!
# Reading JSON text

A text is one JSON value with blanks around it. Values may be nested 127 deep. A string holds no
control character, and a surrogate escape stands only in a pair.
-/

namespace ScriptBridge.Json

def skipBlanks (cs : List Char) : List Char :=
  cs.dropWhile (fun c => c = ' ' || c = '\n' || c = '\t' || c = '\r')

def hexDigit? (c : Char) : Option Nat :=
  if c.isDigit then some (c.toNat - '0'.toNat)
  else if 'a' ≤ c ∧ c ≤ 'f' then some (c.toNat - 'a'.toNat + 10)
  else if 'A' ≤ c ∧ c ≤ 'F' then some (c.toNat - 'A'.toNat + 10)
  else none

/-- Four hexadecimal digits at the start of a text. -/
def readUnit? : List Char → Option (Nat × List Char)
  | a :: b :: c :: d :: rest => do
    let n := ((← hexDigit? a) * 16 + (← hexDigit? b)) * 256 + (← hexDigit? c) * 16 + (← hexDigit? d)
    return (n, rest)
  | _ => none

/-- The character of an escape whose backslash has been read. -/
def readEscape? : List Char → Option (Char × List Char)
  | '"' :: rest => some ('"', rest)
  | '\\' :: rest => some ('\\', rest)
  | '/' :: rest => some ('/', rest)
  | 'b' :: rest => some ('\x08', rest)
  | 'f' :: rest => some ('\x0c', rest)
  | 'n' :: rest => some ('\n', rest)
  | 'r' :: rest => some ('\r', rest)
  | 't' :: rest => some ('\t', rest)
  | 'u' :: rest => do
    let (unit, rest) ← readUnit? rest
    if 0xd800 ≤ unit ∧ unit < 0xdc00 then
      match rest with
      | '\\' :: 'u' :: rest =>
        let (low, rest) ← readUnit? rest
        if 0xdc00 ≤ low ∧ low < 0xe000 then
          return (Char.ofNat (0x10000 + (unit - 0xd800) * 0x400 + (low - 0xdc00)), rest)
        else none
      | _ => none
    else if 0xdc00 ≤ unit ∧ unit < 0xe000 then none
    else return (Char.ofNat unit, rest)
  | _ => none

/-- The characters up to the closing quote, and the text after it. Each step shortens the text, so
its length is `fuel` enough. -/
def readStringWith? : Nat → List Char → Option (List Char × List Char)
  | 0, _ => none
  | _, [] => none
  | _, '"' :: rest => some ([], rest)
  | fuel + 1, '\\' :: rest => do
    let (c, rest) ← readEscape? rest
    let (cs, rest) ← readStringWith? fuel rest
    return (c :: cs, rest)
  | fuel + 1, c :: rest =>
    if c.toNat < 0x20 then none
    else do
      let (cs, rest) ← readStringWith? fuel rest
      return (c :: cs, rest)

/-- A string whose opening quote has been read. -/
def readString? (cs : List Char) : Option (String × List Char) :=
  (readStringWith? (cs.length + 1) cs).map fun (s, rest) => (String.ofList s, rest)

section containers

variable (item : List Char → Option (Json × List Char))

def readItemsWith? : Nat → List Char → Option (List Json × List Char)
  | 0, _ => none
  | fuel + 1, cs => do
    let (x, rest) ← item (skipBlanks cs)
    match skipBlanks rest with
    | ',' :: rest =>
      let (xs, rest) ← readItemsWith? fuel rest
      return (x :: xs, rest)
    | ']' :: rest => return ([x], rest)
    | _ => none

def readMembersWith? : Nat → List Char → Option (List (String × Json) × List Char)
  | 0, _ => none
  | fuel + 1, cs =>
    match skipBlanks cs with
    | '"' :: rest => do
      let (key, rest) ← readString? rest
      match skipBlanks rest with
      | ':' :: rest =>
        let (x, rest) ← item (skipBlanks rest)
        match skipBlanks rest with
        | ',' :: rest =>
          let (xs, rest) ← readMembersWith? fuel rest
          return ((key, x) :: xs, rest)
        | '\x7d' :: rest => return ([(key, x)], rest)
        | _ => none
      | _ => none
    | _ => none

end containers

/-- A value at the start of a text in which `depth` containers may still open. -/
def readAt? (depth : Nat) (cs : List Char) : Option (Json × List Char) :=
  match depth, cs with
  | _, 'n' :: 'u' :: 'l' :: 'l' :: rest => some (.null, rest)
  | _, 't' :: 'r' :: 'u' :: 'e' :: rest => some (.bool true, rest)
  | _, 'f' :: 'a' :: 'l' :: 's' :: 'e' :: rest => some (.bool false, rest)
  | _, '"' :: rest => (readString? rest).map fun (s, rest) => (.string s, rest)
  | depth + 1, '[' :: rest =>
    match skipBlanks rest with
    | ']' :: rest => some (.array [], rest)
    | _ =>
      (readItemsWith? (readAt? depth) rest.length rest).map fun (xs, rest) => (.array xs, rest)
  | depth + 1, '\x7b' :: rest =>
    match skipBlanks rest with
    | '\x7d' :: rest => some (.object [], rest)
    | _ =>
      (readMembersWith? (readAt? depth) rest.length rest).map fun (xs, rest) => (.object xs, rest)
  | _, cs => (JsonNumber.read? cs).map fun (n, rest) => (.number n, rest)
termination_by structural depth

def maxDepth : Nat := 127

/-- The value that a text spells. -/
def read? (text : String) : Option Json := do
  let (x, rest) ← readAt? maxDepth (skipBlanks text.toList)
  if skipBlanks rest = [] then return x else none

end ScriptBridge.Json
