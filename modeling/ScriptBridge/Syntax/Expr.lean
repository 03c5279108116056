import ScriptBridge.RValue

/-!
# Expressions

The program that a script is: a list of expressions.
-/

namespace ScriptBridge

inductive BinaryOp where
  | add
  | sub
  | mul
  | div
  | pow
  | range
  | eq
  | ne
  | lt
  | le
  | gt
  | ge
  /-- The sign `&`, element by element. -/
  | and
  /-- The sign `|`, element by element. -/
  | or
  /-- The sign `&&`, on conditions. -/
  | andAnd
  /-- The sign `||`, on conditions. -/
  | orOr
  deriving DecidableEq, Inhabited

inductive UnaryOp where
  | neg
  | not
  deriving DecidableEq, Inhabited

/-- An expression of the script language. -/
inductive Expr where
  | const (x : RValue)
  | name (n : String)
  /-- A call; an argument may have a name. -/
  | call (f : Expr) (args : List (Option String × Expr))
  /-- The selection `x[i]`. -/
  | index (x i : Expr)
  /-- The selection `x[[i]]`. -/
  | element (x i : Expr)
  /-- The selection `x$name`. -/
  | dollar (x : Expr) (n : String)
  | unary (op : UnaryOp) (x : Expr)
  | binary (op : BinaryOp) (x y : Expr)
  /-- An assignment, to the global variables if `global`. -/
  | assign (target value : Expr) (global : Bool)
  /-- A function; a parameter may have a default. -/
  | function (params : List (String × Option Expr)) (body : Expr)
  | block (body : List Expr)
  | cond (test yes : Expr) (no : Option Expr)
  | loop (var : String) (items body : Expr)
  deriving Inhabited

end ScriptBridge
