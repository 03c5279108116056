import ScriptBridge.Builtin
import ScriptBridge.RValue.Replace

/-!
# Evaluation

Expressions are evaluated from left to right, except that the value of an assignment comes before
its target. A closure is called in a frame of its own, and there is room for so many frames only:
the evaluation of an expression goes down its parts, a call takes up a frame, so evaluation ends.

- `Expr.evalWith`: the value of an expression, given how closures are called.
- `Call.perform`: a call of a closure with room for so many frames.
- `Expr.eval`: the value of an expression.
-/

namespace ScriptBridge

open Builtin (Args)

/-- A closure on its way to be called: the name it was called by, what it is, and its arguments. -/
structure Call where
  name : String
  params : List (String × Option Expr)
  body : Expr
  args : Args

/-- How closures are called. -/
abbrev Caller : Type := Call → Exec Object

namespace Expr

def name? : Expr → Option String
  | name n => some n
  | _ => none

/-- The name that an argument of `rm` gives, as it stands or as a text. -/
def removedName? : Expr → Option String
  | name n => some n
  | const x => x.asString?
  | _ => none

def dataOf (x : Exec Object) : Exec RValue := do Exec.data (← x)

def conditionOf (x : Exec Object) : Exec Bool := do Exec.ofExcept (← dataOf x).condition

def ofBool (b : Bool) : Object := .data (.ofBool b)

def lookup (n : String) : Exec Object := do
  match (← get).lookup? n with
  | some x => return x
  | none => Exec.fail (.objectNotFound n)

def setVar (n : String) (x : Object) (global : Bool) : Exec Unit := modify (·.setVar n x global)

def removeVar (n : String) : Exec Unit := do
  let m ← get
  if m.hasVar n then set (m.eraseVar n) else Exec.warn (Fault.objectNotFound n).message

mutual

/-- The value of an expression. -/
def evalWith (call : Caller) : Expr → Exec Object
  | const x => return .data x
  | name n => lookup n
  | .call f args => do
    match f.name? with
    | some n =>
      -- What is no function does not hide one in the place of a function.
      match (← get).lookup? n with
      | some (.closure params body) => call ⟨n, params, body, ← evalArgs call args⟩
      | _ =>
        if n = "rm" then
          (← namesToRemove call args).forM removeVar
          return Object.null
        else Builtin.call n (← evalArgs call args)
    | none =>
      match ← evalWith call f with
      | .closure params body => call ⟨"FUN", params, body, ← evalArgs call args⟩
      | .data _ => Exec.fail .notAFunction
  | index x i => do
    let x ← dataOf (evalWith call x)
    let i ← dataOf (evalWith call i)
    return .data (← Exec.ofExcept (x.subset i))
  | element x i => do
    let x ← dataOf (evalWith call x)
    let i ← dataOf (evalWith call i)
    return .data (← Exec.ofExcept (x.element i))
  | dollar x n => do
    let x ← dataOf (evalWith call x)
    return .data (← Exec.ofExcept (x.dollar n))
  | unary op x => do
    let x ← dataOf (evalWith call x)
    return .data (← Exec.ofExcept (x.operateUnary op))
  | binary .andAnd x y => do
    if ← conditionOf (evalWith call x) then return ofBool (← conditionOf (evalWith call y))
    else return ofBool false
  | binary .orOr x y => do
    if ← conditionOf (evalWith call x) then return ofBool true
    else return ofBool (← conditionOf (evalWith call y))
  | binary op x y => do
    let x ← dataOf (evalWith call x)
    let y ← dataOf (evalWith call y)
    return .data (← Exec.ofExcept (RValue.operate op x y))
  | assign target value global => do
    let x ← evalWith call value
    assignWith call target x global
    return x
  | function params body => return .closure params body
  | block body => evalBlock call Object.null body
  | cond test yes no => do
    if ← conditionOf (evalWith call test) then evalWith call yes else evalElse call no
  | loop var items body => do
    let items ← dataOf (evalWith call items)
    items.split.forM fun item => do
      setVar var (.data item) false
      let _ ← evalWith call body
    return Object.null

def evalArgs (call : Caller) : List (Option String × Expr) → Exec Args
  | [] => return []
  | (n, e) :: rest => do
    let x ← evalWith call e
    return (n, x) :: (← evalArgs call rest)

/-- The value of the last expression of a block, `last` for none. -/
def evalBlock (call : Caller) (last : Object) : List Expr → Exec Object
  | [] => return last
  | e :: rest => do
    let x ← evalWith call e
    evalBlock call x rest

def evalElse (call : Caller) : Option Expr → Exec Object
  | none => return Object.null
  | some e => evalWith call e

/-- The names that arguments of `rm` give: the argument `list` by its value, others as they stand.
-/
def namesToRemove (call : Caller) : List (Option String × Expr) → Exec (List String)
  | [] => return []
  | (some n, e) :: rest => do
    if n = "list" then
      let names ← Exec.ofExcept (← dataOf (evalWith call e)).texts
      return names ++ (← namesToRemove call rest)
    else namesToRemove call rest
  | (none, e) :: rest => do
    match e.removedName? with
    | some n => return n :: (← namesToRemove call rest)
    | none => Exec.fail .removeArgument

/-- Assigns an object to a target. A part of a value is replaced in the value, which is then
assigned to what it was taken from. -/
def assignWith (call : Caller) : Expr → Object → Bool → Exec Unit
  | name n, x, global => setVar n x global
  | dollar target n, x, global => do
    let current ← dataOf (evalWith call target)
    let v ← Exec.data x
    assignWith call target (.data (← Exec.ofExcept (current.setNamed n v))) global
  | element target i, x, global => do
    let i ← dataOf (evalWith call i)
    let current ← dataOf (evalWith call target)
    let v ← Exec.data x
    assignWith call target (.data (← Exec.ofExcept (current.setElement i v))) global
  | index target i, x, global => do
    let i ← dataOf (evalWith call i)
    let current ← dataOf (evalWith call target)
    let v ← Exec.data x
    assignWith call target (.data (← Exec.ofExcept (current.setSubset i v))) global
  | _, _, _ => Exec.fail .invalidTarget

end

end Expr

namespace Call

/-! ## Arguments of closures -/

/-- Variables with objects in order for the parameters that are not yet bound, and the objects that
are left. -/
def fillParams : List String → List Object → Dict Object → Dict Object × List Object
  | p :: ps, x :: xs, vars =>
    if vars.contains p then fillParams ps (x :: xs) vars
    else fillParams ps xs (vars.insert p x)
  | [], xs, vars => (vars, xs)
  | _, [], vars => (vars, [])

def unknownName? (params : List String) (args : Args) : Option String :=
  (args.filterMap (·.1)).find? fun n => !params.contains n

/-- The variables that arguments give: by name first, then in order. -/
def bindArgs (params : List String) (args : Args) : Except Fault (Dict Object) :=
  match unknownName? params args with
  | some n => .error (.unusedNamedArgument n)
  | none =>
    let named := Dict.ofList (args.filterMap fun a => a.1.map fun n => (n, a.2))
    let (vars, left) := fillParams params args.unnamed named
    if left.isEmpty then .ok vars else .error .unusedArgument

/-! ## Calls -/

/-- A step in a new frame. The frame is gone afterwards, and what the step returns is its value. -/
def inFrame (f : Frame) (x : Exec Object) : Exec Object := fun m =>
  let (result, m) := x { m with frames := f :: m.frames }
  let result := match result with
    | .error (.returned value) => .ok value
    | result => result
  (result, { m with frames := m.frames.tail })

/-- Binds the parameters without an argument to their defaults, one after the other. -/
def bindDefaults (call : Caller) : List (String × Option Expr) → Exec Unit
  | [] => return ()
  | (p, default) :: rest => do
    match default with
    | some e =>
      if !(← get).hasVar p then Expr.setVar p (← e.evalWith call) false
      bindDefaults call rest
    | none => bindDefaults call rest

/-- A call, with room for so many frames. -/
def perform : Nat → Caller
  | room, c => do
    let vars ← Exec.ofExcept (bindArgs (c.params.map (·.1)) c.args)
    match room with
    | 0 => Exec.fail .tooDeep
    | room + 1 =>
      inFrame ⟨c.name, vars⟩ do
        bindDefaults (perform room) c.params
        c.body.evalWith (perform room)

end Call

/-- The value of an expression at top level. -/
def Expr.eval (e : Expr) : Exec Object := e.evalWith (Call.perform Machine.maxFrames)

end ScriptBridge
