import ScriptBridge.Decimal.Reading
import ScriptBridge.Syntax.Token
import ScriptBridge.Text.Alphabetic

/-!
# From text to tokens

Blanks and comments separate tokens; a comment runs from a hash sign to the end of its line. A
number has an optional fraction and power of ten; a capital L after it makes it an integer, if it is
one of 32 bits. A text stands between double or single quotes and a backslash takes the character
after it; a text between backquotes is a name.

- `Token.next?`: the first token of a text and the text after it.
- `Token.scan`: all tokens of a text.
-/

namespace ScriptBridge.Token

/-- A text without the blanks and comments at its start. -/
def skipBlanks (cs : List Char) : List Char :=
  match cs.dropWhile (fun c => c = ' ' || c = '\t' || c = '\r') with
  | '#' :: rest => rest.dropWhile (· ≠ '\n')
  | rest => rest

/-- The power of ten at the start of a text and the text after it: the letter, an optional sign and
digits. The letter counts only if a sign or a digit follows it. -/
def takePower (cs : List Char) : List Char × List Char :=
  match cs with
  | e :: c :: rest =>
    if (e = 'e' || e = 'E') && (c.isDigit || c = '+' || c = '-') then
      let sign := if c.isDigit then [] else [c]
      let rest := if c.isDigit then c :: rest else rest
      (e :: sign ++ rest.takeWhile Char.isDigit, rest.dropWhile Char.isDigit)
    else ([], cs)
  | _ => ([], cs)

/-- The fraction at the start of a text and the text after it: the point and digits. -/
def takeFraction (cs : List Char) : List Char × List Char :=
  match cs with
  | '.' :: rest => ('.' :: rest.takeWhile Char.isDigit, rest.dropWhile Char.isDigit)
  | _ => ([], cs)

/-- The integer of 32 bits that digits spell. -/
def readInteger? (cs : List Char) : Option Int32 :=
  if cs ≠ [] ∧ cs.all Char.isDigit ∧ Decimal.ofDigits cs ≤ 2147483647 then
    some (Int32.ofNat (Decimal.ofDigits cs))
  else none

/-- A text that looks like a number and is none. -/
def notANumber : Float := Float.ofBits 0x7ff8000000000000

/-- A number whose first character is `first`, and the text after it. -/
def readNumber (first : Char) (cs : List Char) : Token × List Char :=
  let whole := cs.takeWhile Char.isDigit
  let (fraction, rest) := takeFraction (cs.dropWhile Char.isDigit)
  let (power, rest) := takePower rest
  let spelling := first :: whole ++ fraction ++ power
  let asNumber := number ((Decimal.read? spelling).getD notANumber)
  match rest with
  | 'L' :: rest => (((readInteger? spelling).map integer).getD asNumber, rest)
  | _ => (asNumber, rest)

def unescape (c : Char) : Char :=
  match c with
  | 'n' => '\n'
  | 't' => '\t'
  | 'r' => '\r'
  | '0' => '\x00'
  | c => c

/-- The characters up to the closing quote, and the text after it. -/
def readQuoted? (quote : Char) : List Char → Option (List Char × List Char)
  | [] => none
  | '\\' :: c :: rest => (readQuoted? quote rest).map fun (s, rest) => (unescape c :: s, rest)
  | '\\' :: [] => none
  | c :: rest =>
    if c = quote then some ([], rest)
    else (readQuoted? quote rest).map fun (s, rest) => (c :: s, rest)

def isNameChar (c : Char) : Bool := Text.isLetter c || Text.isNumber c || c = '_' || c = '.'

/-- A word: a keyword or a name. -/
def ofWord (word : String) : Token :=
  match word with
  | "function" => kwFunction
  | "if" => kwIf
  | "else" => kwElse
  | "for" => kwFor
  | "in" => kwIn
  | "TRUE" => kwTrue
  | "FALSE" => kwFalse
  | "NULL" => kwNull
  | "NA" => kwNA
  | word => name word

/-- A token that is a sign, whose first character is `c`, and the text after it. -/
def readSign (c : Char) (rest : List Char) : Token × List Char :=
  match c, rest with
  | '\n', _ => (newline, rest)
  | ';', _ => (semicolon, rest)
  | '+', _ => (plus, rest)
  | '-', _ => (minus, rest)
  | '*', _ => (star, rest)
  | '/', _ => (slash, rest)
  | '^', _ => (caret, rest)
  | ':', _ => (colon, rest)
  | '$', _ => (dollar, rest)
  | ',', _ => (comma, rest)
  | '(', _ => (openParen, rest)
  | ')', _ => (closeParen, rest)
  | '\x7b', _ => (openBrace, rest)
  | '\x7d', _ => (closeBrace, rest)
  | ']', _ => (closeBracket, rest)
  | '[', '[' :: rest => (openElement, rest)
  | '[', _ => (openBracket, rest)
  | '!', '=' :: rest => (ne, rest)
  | '!', _ => (bang, rest)
  | '=', '=' :: rest => (eq, rest)
  | '=', _ => (assign, rest)
  | '<', '=' :: rest => (le, rest)
  | '<', '-' :: rest => (leftAssign, rest)
  | '<', '<' :: '-' :: rest => (superAssign, rest)
  | '<', _ => (lt, rest)
  | '>', '=' :: rest => (ge, rest)
  | '>', _ => (gt, rest)
  | '&', '&' :: rest => (andAnd, rest)
  | '&', _ => (and, rest)
  | '|', '|' :: rest => (orOr, rest)
  | '|', _ => (or, rest)
  | c, _ => (unknown c, rest)

/-- The first token of a text and the text after it, or nothing at the end of the text. -/
def next? (cs : List Char) : Except SyntaxError (Option (Token × List Char)) :=
  match skipBlanks cs with
  | [] => .ok none
  | c :: rest =>
    if c.isDigit || (c = '.' && rest.head?.any Char.isDigit) then .ok (some (readNumber c rest))
    else if c = '"' || c = '\'' || c = '\x60' then
      match readQuoted? c rest with
      | none => .error .unterminatedText
      | some (s, rest) =>
        let s := String.ofList s
        .ok (some (if c = '\x60' then name s else text s, rest))
    else if Text.isLetter c || c = '.' then
      let word := String.ofList (c :: rest.takeWhile isNameChar)
      .ok (some (ofWord word, rest.dropWhile isNameChar))
    else .ok (some (readSign c rest))

/-- The tokens of a text, at most `fuel` of them. -/
def scanWith : Nat → List Char → Except SyntaxError (List Token)
  | 0, _ => .error .exhausted
  | fuel + 1, cs => do
    match ← next? cs with
    | none => return []
    | some (t, rest) => return t :: (← scanWith fuel rest)

/-- The tokens of a text. Each takes a character at least, so the length bounds their number. -/
def scan (source : String) : Except SyntaxError (List Token) :=
  scanWith (source.toList.length + 1) source.toList

end ScriptBridge.Token
