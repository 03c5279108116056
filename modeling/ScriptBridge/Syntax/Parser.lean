import ScriptBridge.Syntax.Expr
import ScriptBridge.Syntax.Lexer

/-!
# From tokens to expressions

From the loosest to the tightest: `<-` and `<<-`, `=`, `||` and `|`, `&&` and `&`, `!`,
comparisons, `+` and `-`, `*` and `/`, `:`, the sign of a number, `^`, and calls and selections.
Assignments and `^` group to the right, the other operators between two operands to the left.

A newline ends an expression unless it stands inside brackets, after an operator, or before the body
of a function, a condition or a loop. Inside braces newlines count again. A call or a selection
starts on the line on which its operand ends; newlines passed on the way to the next token are gone
for good, so inside brackets an operand that ends in an expression may have ended earlier.

- `Expr.readProgram`: the expressions of a text.
-/

namespace ScriptBridge

/-- The operators that group to the left, by how tightly they bind. -/
inductive Tier where
  | or
  | and
  | comparison
  | sum
  | product
  | range
  deriving DecidableEq

def Tier.operator? : Tier → Token → Option BinaryOp
  | .or, .orOr => some .orOr
  | .or, .or => some .or
  | .and, .andAnd => some .andAnd
  | .and, .and => some .and
  | .comparison, .eq => some .eq
  | .comparison, .ne => some .ne
  | .comparison, .lt => some .lt
  | .comparison, .le => some .le
  | .comparison, .gt => some .gt
  | .comparison, .ge => some .ge
  | .sum, .plus => some .add
  | .sum, .minus => some .sub
  | .product, .star => some .mul
  | .product, .slash => some .div
  | .range, .colon => some .range
  | _, _ => none

namespace Expr

/-- An expression and the tokens after it. -/
abbrev ParsedExpr : Type := Except SyntaxError (Expr × List Token)

/-- The arguments of a call and the tokens after them. -/
abbrev ParsedArgs : Type := Except SyntaxError (List (Option String × Expr) × List Token)

abbrev ParsedParams : Type := Except SyntaxError (List (String × Option Expr) × List Token)

abbrev ParsedBlock : Type := Except SyntaxError (List Expr × List Token)

def skipNewlines (toks : List Token) : List Token := toks.dropWhile Token.isNewline

/-- The tokens from the next one that counts: inside brackets newlines do not. -/
def settle (nested : Bool) (toks : List Token) : List Token :=
  if nested then skipNewlines toks else toks

def skipSeparators (toks : List Token) : List Token := toks.dropWhile Token.isSeparator

/-- The tokens after the one that `isSought` tells, or an error that says what was sought. -/
def require (isSought : Token → Bool) (sought : Expectation) (nested : Bool) (toks : List Token) :
    Except SyntaxError (List Token) :=
  match settle nested toks with
  | t :: rest => if isSought t then .ok rest else .error (.missing (some t) sought)
  | [] => .error (.missing none sought)

def requireOpen (sought : Expectation) : Bool → List Token → Except SyntaxError (List Token) :=
  require (fun t => t matches .openParen) sought

def requireClose : Bool → List Token → Except SyntaxError (List Token) :=
  require (fun t => t matches .closeParen) .closeParen

def requireComma : Bool → List Token → Except SyntaxError (List Token) :=
  require (fun t => t matches .comma) .commaOrCloseParen

def requireBracket (sought : Expectation) : Bool → List Token → Except SyntaxError (List Token) :=
  require (fun t => t matches .closeBracket) sought

def requireIn : Bool → List Token → Except SyntaxError (List Token) :=
  require (fun t => t matches .kwIn) .wordIn

/-- An assignment; a text as its target stands for the variable of that name. -/
def makeAssign (target value : Expr) (global : Bool) : Except SyntaxError Expr :=
  match target with
  | name _ | dollar _ _ | element _ _ | index _ _ => .ok (assign target value global)
  | const (.character [s]) => .ok (assign (name (s.getD "")) value global)
  | _ => .error .invalidTarget

mutual

/-- An expression: an assignment by an arrow, or what binds tighter. -/
def parseExpr (fuel : Nat) (nested : Bool) (toks : List Token) : ParsedExpr :=
  match fuel with
  | 0 => .error .exhausted
  | fuel + 1 => do
    let (lhs, toks) ← parseEqual fuel nested toks
    parseArrow fuel nested lhs (settle nested toks)

/-- What follows the left side of an assignment by an arrow. -/
def parseArrow (fuel : Nat) (nested : Bool) (lhs : Expr) (toks : List Token) : ParsedExpr :=
  match fuel with
  | 0 => .error .exhausted
  | fuel + 1 =>
    match toks with
    | .leftAssign :: rest => do
      let (rhs, toks) ← parseExpr fuel nested (skipNewlines rest)
      return (← makeAssign lhs rhs false, toks)
    | .superAssign :: rest => do
      let (rhs, toks) ← parseExpr fuel nested (skipNewlines rest)
      return (← makeAssign lhs rhs true, toks)
    | toks => .ok (lhs, toks)

/-- An assignment by an equals sign, or what binds tighter. -/
def parseEqual (fuel : Nat) (nested : Bool) (toks : List Token) : ParsedExpr :=
  match fuel with
  | 0 => .error .exhausted
  | fuel + 1 => do
    let (lhs, toks) ← parseTier fuel .or nested toks
    match settle nested toks with
    | .assign :: rest =>
      let (rhs, toks) ← parseExpr fuel nested (skipNewlines rest)
      return (← makeAssign lhs rhs false, toks)
    | toks => return (lhs, toks)

/-- Operands of a tier with its operators between them. -/
def parseTier (fuel : Nat) (tier : Tier) (nested : Bool) (toks : List Token) : ParsedExpr :=
  match fuel with
  | 0 => .error .exhausted
  | fuel + 1 => do
    let (lhs, toks) ← parseOperand fuel tier nested toks
    parseTierRest fuel tier nested lhs toks

/-- The operators and operands of a tier that follow `lhs`. -/
def parseTierRest (fuel : Nat) (tier : Tier) (nested : Bool) (lhs : Expr) (toks : List Token) :
    ParsedExpr :=
  match fuel with
  | 0 => .error .exhausted
  | fuel + 1 =>
    match settle nested toks with
    | [] => .ok (lhs, [])
    | t :: rest =>
      match tier.operator? t with
      | none => .ok (lhs, t :: rest)
      | some op => do
        let (rhs, toks) ← parseOperand fuel tier nested (skipNewlines rest)
        parseTierRest fuel tier nested (binary op lhs rhs) toks

def parseOperand (fuel : Nat) (tier : Tier) (nested : Bool) (toks : List Token) : ParsedExpr :=
  match fuel with
  | 0 => .error .exhausted
  | fuel + 1 =>
    match tier with
    | .or => parseTier fuel .and nested toks
    | .and => parseNot fuel nested toks
    | .comparison => parseTier fuel .sum nested toks
    | .sum => parseTier fuel .product nested toks
    | .product => parseTier fuel .range nested toks
    | .range => parseSigned fuel nested toks

/-- A negation of a condition, or a comparison. -/
def parseNot (fuel : Nat) (nested : Bool) (toks : List Token) : ParsedExpr :=
  match fuel with
  | 0 => .error .exhausted
  | fuel + 1 =>
    match settle nested toks with
    | .bang :: rest => do
      let (x, toks) ← parseNot fuel nested rest
      return (unary .not x, toks)
    | toks => parseTier fuel .comparison nested toks

/-- A power with signs before it. -/
def parseSigned (fuel : Nat) (nested : Bool) (toks : List Token) : ParsedExpr :=
  match fuel with
  | 0 => .error .exhausted
  | fuel + 1 =>
    match settle nested toks with
    | .minus :: rest => do
      let (x, toks) ← parseSigned fuel nested rest
      return (unary .neg x, toks)
    | .plus :: rest => parseSigned fuel nested rest
    | toks => parsePower fuel nested toks

/-- A power; its exponent may have a sign. -/
def parsePower (fuel : Nat) (nested : Bool) (toks : List Token) : ParsedExpr :=
  match fuel with
  | 0 => .error .exhausted
  | fuel + 1 => do
    let (base, toks) ← parsePostfix fuel nested toks
    match settle nested toks with
    | .caret :: rest =>
      let (exponent, toks) ← parseSigned fuel nested (skipNewlines rest)
      return (binary .pow base exponent, toks)
    | toks => return (base, toks)

/-- A primary expression with calls and selections after it. -/
def parsePostfix (fuel : Nat) (nested : Bool) (toks : List Token) : ParsedExpr :=
  match fuel with
  | 0 => .error .exhausted
  | fuel + 1 => do
    let (x, toks) ← parsePrimary fuel nested toks
    parsePostfixRest fuel nested x toks

/-- The calls and selections that follow `x`. -/
def parsePostfixRest (fuel : Nat) (nested : Bool) (x : Expr) (toks : List Token) : ParsedExpr :=
  match fuel with
  | 0 => .error .exhausted
  | fuel + 1 =>
    match toks with
    | .openParen :: rest => do
      let (args, toks) ← parseArgs fuel rest
      parsePostfixRest fuel nested (call x args) toks
    | .openBracket :: rest => do
      let (i, toks) ← parseExpr fuel true rest
      let toks ← requireBracket .closeBracket true toks
      parsePostfixRest fuel nested (index x i) toks
    | .openElement :: rest => do
      let (i, toks) ← parseExpr fuel true rest
      let toks ← requireBracket .closeElement true toks
      let toks ← requireBracket .closeElement true toks
      parsePostfixRest fuel nested (element x i) toks
    | .dollar :: rest =>
      match settle nested rest with
      | .name n :: toks => parsePostfixRest fuel nested (dollar x n) toks
      | .text n :: toks => parsePostfixRest fuel nested (dollar x n) toks
      | toks => .error (.afterDollar toks.head?)
    | toks => .ok (x, toks)

/-- The arguments of a call whose opening parenthesis has been read. -/
def parseArgs (fuel : Nat) (toks : List Token) : ParsedArgs :=
  match fuel with
  | 0 => .error .exhausted
  | fuel + 1 =>
    match settle true toks with
    | .closeParen :: rest => .ok ([], rest)
    | toks => parseArgsFrom fuel toks

def parseArgsFrom (fuel : Nat) (toks : List Token) : ParsedArgs :=
  match fuel with
  | 0 => .error .exhausted
  | fuel + 1 => do
    let (label, toks) : Option String × List Token := match settle true toks with
      | .name n :: .assign :: rest => (some n, rest)
      | .text n :: .assign :: rest => (some n, rest)
      | toks => (none, toks)
    let (x, toks) ← parseArgValue fuel toks
    match settle true toks with
    | .closeParen :: rest => return ([(label, x)], rest)
    | toks =>
      let toks ← requireComma true toks
      let (args, toks) ← parseArgsFrom fuel toks
      return ((label, x) :: args, toks)

/-- The value of an argument: an expression that is no assignment by an equals sign. -/
def parseArgValue (fuel : Nat) (toks : List Token) : ParsedExpr :=
  match fuel with
  | 0 => .error .exhausted
  | fuel + 1 => do
    let (lhs, toks) ← parseTier fuel .or true toks
    parseArrow fuel true lhs (settle true toks)

/-- The parameters of a function whose keyword has been read. -/
def parseParams (fuel : Nat) (nested : Bool) (toks : List Token) : ParsedParams :=
  match fuel with
  | 0 => .error .exhausted
  | fuel + 1 => do
    let toks ← requireOpen .parenAfterFunction nested toks
    match settle true toks with
    | .closeParen :: rest => return ([], rest)
    | toks => parseParamsFrom fuel toks

def parseParamsFrom (fuel : Nat) (toks : List Token) : ParsedParams :=
  match fuel with
  | 0 => .error .exhausted
  | fuel + 1 =>
    match settle true toks with
    | .name n :: rest => do
      let (preset, toks) ← match settle true rest with
        | .assign :: rest => do
          let (x, toks) ← parseTier fuel .or true rest
          pure (some x, toks)
        | toks => pure (none, toks)
      match settle true toks with
      | .closeParen :: rest => return ([(n, preset)], rest)
      | toks =>
        let toks ← requireComma true toks
        let (params, toks) ← parseParamsFrom fuel toks
        return ((n, preset) :: params, toks)
    | toks => .error (.inParameters toks.head?)

/-- A constant, a variable, an expression in brackets, or one that starts with a keyword. -/
def parsePrimary (fuel : Nat) (nested : Bool) (toks : List Token) : ParsedExpr :=
  match fuel with
  | 0 => .error .exhausted
  | fuel + 1 =>
    match settle nested toks with
    | .number x :: rest => .ok (const (.ofFloat x), rest)
    | .integer n :: rest => .ok (const (.ofInt32 n), rest)
    | .text s :: rest => .ok (const (.string s), rest)
    | .kwTrue :: rest => .ok (const (.ofBool true), rest)
    | .kwFalse :: rest => .ok (const (.ofBool false), rest)
    | .kwNull :: rest => .ok (const .null, rest)
    | .kwNA :: rest => .ok (const (.logical [none]), rest)
    | .name n :: rest => .ok (name n, rest)
    | .openParen :: rest => do
      let (x, toks) ← parseExpr fuel true rest
      return (x, ← requireClose true toks)
    | .openBrace :: rest => do
      let (body, toks) ← parseBlock fuel rest
      return (block body, toks)
    | .kwFunction :: rest => do
      let (params, toks) ← parseParams fuel nested rest
      let (body, toks) ← parseExpr fuel nested (skipNewlines toks)
      return (function params body, toks)
    | .kwIf :: rest => do
      let toks ← requireOpen .parenAfterIf nested rest
      let (test, toks) ← parseExpr fuel true toks
      let toks ← requireClose true toks
      let (yes, toks) ← parseExpr fuel nested (skipNewlines toks)
      -- The alternative may start on a later line.
      match skipNewlines toks with
      | .kwElse :: rest =>
        let (no, toks) ← parseExpr fuel nested (skipNewlines rest)
        return (cond test yes (some no), toks)
      | _ => return (cond test yes none, toks)
    | .kwFor :: rest => do
      let toks ← requireOpen .parenAfterFor nested rest
      match settle true toks with
      | .name n :: toks =>
        let toks ← requireIn true toks
        let (items, toks) ← parseExpr fuel true toks
        let toks ← requireClose true toks
        let (body, toks) ← parseExpr fuel nested (skipNewlines toks)
        return (loop n items body, toks)
      | toks => .error (.inLoop toks.head?)
    | toks => .error (.unexpected toks.head?)

/-- The statements of a block up to its closing brace. -/
def parseBlock (fuel : Nat) (toks : List Token) : ParsedBlock :=
  match fuel with
  | 0 => .error .exhausted
  | fuel + 1 =>
    match skipSeparators toks with
    | .closeBrace :: rest => .ok ([], rest)
    | [] => .error (.missing none .closeBrace)
    | toks => do
      let (x, toks) ← parseExpr fuel false toks
      let follows := match toks with
        | .closeBrace :: _ => true
        | t :: _ => t.isSeparator
        | [] => false
      if follows then
        let (xs, toks) ← parseBlock fuel toks
        return (x :: xs, toks)
      else .error (.unexpected toks.head?)

end

def parseProgram (fuel : Nat) (toks : List Token) : Except SyntaxError (List Expr) :=
  match fuel with
  | 0 => .error .exhausted
  | fuel + 1 =>
    match skipSeparators toks with
    | [] => .ok []
    | toks => do
      let (x, toks) ← parseExpr fuel false toks
      if (toks.head?.map Token.isSeparator).getD true then
        return x :: (← parseProgram fuel toks)
      else .error (.unexpected toks.head?)

/-- More steps than a parser takes on a number of tokens: fewer than 32 calls lie between two tokens
that it reads. -/
def parseFuel (tokens : Nat) : Nat := 32 * (tokens + 1)

def ofTokens (toks : List Token) : Except SyntaxError (List Expr) :=
  parseProgram (parseFuel toks.length) toks

def readProgram (source : String) : Except SyntaxError (List Expr) := do
  ofTokens (← Token.scan source)

end Expr

end ScriptBridge
