/-!
# Tokens

The words of the script language, and how a syntax error speaks of them.
-/

namespace ScriptBridge

/-- A word of a script. The end of the script is the end of the list of tokens. -/
inductive Token where
  | number (x : Float)
  | integer (n : Int32)
  | text (s : String)
  | name (s : String)
  | kwFunction
  | kwIf
  | kwElse
  | kwFor
  | kwIn
  | kwTrue
  | kwFalse
  | kwNull
  | kwNA
  | plus
  | minus
  | star
  | slash
  | caret
  | colon
  | bang
  | eq
  | ne
  | lt
  | le
  | gt
  | ge
  | andAnd
  | and
  | orOr
  | or
  /-- The sign `=`. -/
  | assign
  /-- The sign `<-`. -/
  | leftAssign
  /-- The sign `<<-`. -/
  | superAssign
  | dollar
  | comma
  | openParen
  | closeParen
  | openBrace
  | closeBrace
  | openBracket
  /-- The sign `[[`. -/
  | openElement
  | closeBracket
  | newline
  | semicolon
  /-- A character that starts no word. -/
  | unknown (c : Char)
  deriving Inhabited

namespace Token

def isNewline : Token → Bool
  | newline => true
  | _ => false

def isSeparator : Token → Bool
  | newline | semicolon => true
  | _ => false

/-- The token as a syntax error names it. -/
def describe : Token → String
  | number _ | integer _ => "numeric constant"
  | text _ => "string constant"
  | name s => "symbol '" ++ s ++ "'"
  | kwFunction => "Function"
  | kwIf => "If"
  | kwElse => "Else"
  | kwFor => "For"
  | kwIn => "In"
  | kwTrue => "True"
  | kwFalse => "False"
  | kwNull => "Null"
  | kwNA => "Na"
  | plus => "Plus"
  | minus => "Minus"
  | star => "Star"
  | slash => "Slash"
  | caret => "Caret"
  | colon => "Colon"
  | bang => "Bang"
  | eq => "Eq"
  | ne => "Ne"
  | lt => "Lt"
  | le => "Le"
  | gt => "Gt"
  | ge => "Ge"
  | andAnd => "AndAnd"
  | and => "And"
  | orOr => "OrOr"
  | or => "Or"
  | assign => "Assign"
  | leftAssign => "LeftAssign"
  | superAssign => "SuperAssign"
  | dollar => "Dollar"
  | comma => "Comma"
  | openParen => "LParen"
  | closeParen => "RParen"
  | openBrace => "LBrace"
  | closeBrace => "RBrace"
  | openBracket => "LBracket"
  | openElement => "LDoubleBracket"
  | closeBracket => "RBracket"
  | newline => "end of line"
  | semicolon => "Semicolon"
  | unknown c => "input '" ++ String.singleton c ++ "'"

end Token

def describeFound : Option Token → String
  | some t => t.describe
  | none => "end of input"

/-- What a parser was looking for. -/
inductive Expectation where
  | closeParen
  | commaOrCloseParen
  | closeBracket
  | closeElement
  | closeBrace
  | parenAfterFunction
  | parenAfterIf
  | parenAfterFor
  | wordIn
  deriving DecidableEq

def Expectation.describe : Expectation → String
  | closeParen => "')'"
  | commaOrCloseParen => "',' or ')'"
  | closeBracket => "']'"
  | closeElement => "']]'"
  | closeBrace => "'\x7d'"
  | parenAfterFunction => "'(' after 'function'"
  | parenAfterIf => "'(' after 'if'"
  | parenAfterFor => "'(' after 'for'"
  | wordIn => "'in'"

/-- Why a script is not a program. -/
inductive SyntaxError where
  /-- A text constant does not end. -/
  | unterminatedText
  /-- No rule allows the token. -/
  | unexpected (found : Option Token)
  /-- Another token was needed. -/
  | missing (found : Option Token) (sought : Expectation)
  /-- No name follows a dollar sign. -/
  | afterDollar (found : Option Token)
  /-- A parameter has no name. -/
  | inParameters (found : Option Token)
  /-- The variable of a loop has no name. -/
  | inLoop (found : Option Token)
  /-- The left side of an assignment names no place. -/
  | invalidTarget
  /-- The parser ran out of steps, which the bound on them rules out. -/
  | exhausted

def SyntaxError.message : SyntaxError → String
  | unterminatedText => "unexpected end of input in string constant"
  | unexpected found => "unexpected " ++ describeFound found
  | missing found sought =>
    "unexpected " ++ describeFound found ++ " (expected " ++ sought.describe ++ ")"
  | afterDollar found => "unexpected " ++ describeFound found ++ " after '$'"
  | inParameters found => "unexpected " ++ describeFound found ++ " in parameter list"
  | inLoop found => "unexpected " ++ describeFound found ++ " in for loop"
  | invalidTarget => "invalid assignment target"
  | exhausted => "program too large"

end ScriptBridge
