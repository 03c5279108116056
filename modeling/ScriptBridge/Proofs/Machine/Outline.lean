import ScriptBridge.Proofs.Machine.Builtins

/-!
# The recursion of an evaluation

The evaluation of an expression evaluates other expressions: its parts, and the body and the
defaults of each closure that it calls, which are parts of nothing at hand. An `Outline` is an
evaluation with the evaluations of other expressions left open, and `Outline.ofExpr` says of each
expression what its evaluation does by itself.

With room for so many frames an expression is evaluated as it is outlined
(`Outline.describes_ofExpr`). What it leaves open is one of its parts, for which there is as much
room, or has less room, since a closure is called in a frame of its own. Hence what holds of an
evaluation if it holds of those that it leaves open holds of all (`Outline.evaluation_induction`).
-/

namespace ScriptBridge

open Builtin (Args)
open Exec

/-- What an evaluation does, with the evaluations of other expressions left open. -/
inductive Outline : Type → Type 1
  /-- What is done at one go. -/
  | step {α : Type} (x : Exec α) : Outline α
  | warn (text : String) : Outline Unit
  | eval (e : Expr) : Outline Object
  /-- What is done in a new frame, if there is room for one. -/
  | enter (f : Frame) (p : Outline Object) : Outline Object
  | bind {α β : Type} (p : Outline α) (next : α → Outline β) : Outline β

namespace Outline

instance : Monad Outline where
  pure a := step (pure a)
  bind := bind

/-! ### Outlines of expressions -/

def ofExcept {α : Type} (r : Except Fault α) : Outline α := step (Exec.ofExcept r)

def data (p : Outline Object) : Outline RValue := do step (Exec.data (← p))

def condition (p : Outline Object) : Outline Bool := do ofExcept (← data p).condition

def args : List (Option String × Expr) → Outline Args
  | [] => return []
  | (n, e) :: rest => do
    let x ← eval e
    return (n, x) :: (← args rest)

def block (last : Object) : List Expr → Outline Object
  | [] => return last
  | e :: rest => do
    let x ← eval e
    block x rest

def names : List (Option String × Expr) → Outline (List String)
  | [] => return []
  | (some n, e) :: rest => do
    if n = "list" then
      let found ← ofExcept (← data (eval e)).texts
      return found ++ (← names rest)
    else names rest
  | (none, e) :: rest =>
    match e.removedName? with
    | some n => return n :: (← names rest)
    | none => step (fail .removeArgument)

def removeVar (n : String) : Outline Unit := do
  if ← step (read (·.hasVar n)) then step (update (.eraseVar n))
  else warn (Fault.objectNotFound n).message

def assign : Expr → Object → Bool → Outline Unit
  | .name n, x, global => step (Expr.setVar n x global)
  | .dollar target n, x, global => do
    let current ← data (eval target)
    let v ← step (Exec.data x)
    assign target (.data (← ofExcept (current.setNamed n v))) global
  | .element target i, x, global => do
    let i ← data (eval i)
    let current ← data (eval target)
    let v ← step (Exec.data x)
    assign target (.data (← ofExcept (current.setElement i v))) global
  | .index target i, x, global => do
    let i ← data (eval i)
    let current ← data (eval target)
    let v ← step (Exec.data x)
    assign target (.data (← ofExcept (current.setSubset i v))) global
  | _, _, _ => step (fail .invalidTarget)

/-- Binds the parameters without an argument to their defaults, one after the other. -/
def defaults : List (String × Option Expr) → Outline Unit
  | [] => return ()
  | (p, some e) :: rest => do
    if !(← step (read (·.hasVar p))) then step (Expr.setVar p (← eval e) false)
    defaults rest
  | (_, none) :: rest => defaults rest

def call (c : Call) : Outline Object := do
  let vars ← ofExcept (Call.bindArgs (c.params.map (·.1)) c.args)
  enter ⟨c.name, vars⟩ do
    defaults c.params
    eval c.body

def warning (args : Args) : Outline RValue := do
  let text ← step (Builtin.messageText args)
  warn text
  return .string text

def builtin (name : String) (args : Args) : Outline Object := do
  if name = "warning" then return .data (← warning args) else step (Builtin.call name args)

/-- What the evaluation of an expression does by itself. -/
def ofExpr : Expr → Outline Object
  | .const x => return .data x
  | .name n => step (Expr.lookup n)
  | .call f arguments => do
    match f.name? with
    | some n =>
      match ← step (read (·.lookup? n)) with
      | some (.closure params body) => call ⟨n, params, body, ← args arguments⟩
      | _ =>
        if n = "rm" then
          (← names arguments).forM removeVar
          return Object.null
        else builtin n (← args arguments)
    | none =>
      match ← eval f with
      | .closure params body => call ⟨"FUN", params, body, ← args arguments⟩
      | .data _ => step (fail .notAFunction)
  | .index x i => do
    let x ← data (eval x)
    let i ← data (eval i)
    return .data (← ofExcept (x.subset i))
  | .element x i => do
    let x ← data (eval x)
    let i ← data (eval i)
    return .data (← ofExcept (x.element i))
  | .dollar x n => do
    let x ← data (eval x)
    return .data (← ofExcept (x.dollar n))
  | .unary op x => do
    let x ← data (eval x)
    return .data (← ofExcept (x.operateUnary op))
  | .binary .andAnd x y => do
    if ← condition (eval x) then return Expr.ofBool (← condition (eval y))
    else return Expr.ofBool false
  | .binary .orOr x y => do
    if ← condition (eval x) then return Expr.ofBool true
    else return Expr.ofBool (← condition (eval y))
  | .binary op x y => do
    let x ← data (eval x)
    let y ← data (eval y)
    return .data (← ofExcept (RValue.operate op x y))
  | .assign target value global => do
    let x ← eval value
    assign target x global
    return x
  | .function params body => return .closure params body
  | .block body => block Object.null body
  | .cond test yes no => do
    if ← condition (eval test) then eval yes
    else match no with
      | none => return Object.null
      | some no => eval no
  | .loop var items body => do
    let items ← data (eval items)
    items.split.forM fun item => do
      step (Expr.setVar var (.data item) false)
      let _ ← eval body
    return Object.null

/-! ### Evaluations as they are outlined -/

/-- Where there is room for `r` frames the step does what the outline says. Of the expressions that
the outline leaves open, and the room that there is for them, `Q` holds. -/
inductive Describes (Q : Nat → Expr → Prop) : Nat → {α : Type} → Outline α → Exec α → Prop
  | step {r : Nat} {α : Type} {x : Exec α} (hx : Uses Builtin.Silent x) : Describes Q r (step x) x
  | warn {r : Nat} (text : String) : Describes Q r (warn text) (Exec.warn text)
  | eval {r : Nat} {e : Expr} (he : Q r e) : Describes Q r (eval e) (e.evalWith (Call.perform r))
  | full (f : Frame) (p : Outline Object) : Describes Q 0 (enter f p) (fail .tooDeep)
  | enter {r : Nat} (f : Frame) {p : Outline Object} {x : Exec Object} (hp : Describes Q r p x) :
    Describes Q (r + 1) (enter f p) (Call.inFrame f x)
  | bind {r : Nat} {α β : Type} {p : Outline α} {x : Exec α} {next : α → Outline β}
    {f : α → Exec β} (hp : Describes Q r p x) (hnext : ∀ a, Describes Q r (next a) (f a)) :
    Describes Q r (p >>= next) (x >>= f)

section

variable {Q : Nat → Expr → Prop} {r : Nat} {α : Type}

theorem describes_pure (a : α) : Describes Q r (pure a) (pure a) := .step (.pure a)

theorem describes_ofExcept (x : Except Fault α) : Describes Q r (ofExcept x) (Exec.ofExcept x) :=
  .step (uses_ofExcept x)

theorem describes_fail (fault : Fault) : Describes Q r (step (fail fault)) (fail fault : Exec α) :=
  .step (uses_fail fault)

theorem describes_data {p : Outline Object} {x : Exec Object} (h : Describes Q r p x) :
    Describes Q r (data p) (Expr.dataOf x) :=
  .bind h fun a => .step (uses_data a)

theorem describes_condition {p : Outline Object} {x : Exec Object} (h : Describes Q r p x) :
    Describes Q r (condition p) (Expr.conditionOf x) :=
  .bind (describes_data h) fun _ => describes_ofExcept _

theorem describes_forM {γ : Type} {p : γ → Outline PUnit} {f : γ → Exec PUnit} {l : List γ}
    (h : ∀ c, Describes Q r (p c) (f c)) : Describes Q r (l.forM p) (l.forM f) := by
  induction l with
  | nil => exact describes_pure _
  | cons c l ih => exact .bind (h c) fun _ => ih

theorem describes_setVar (n : String) (x : Object) (global : Bool) :
    Describes Q r (step (Expr.setVar n x global)) (Expr.setVar n x global) :=
  .step (.update (u := .setVar n x global) trivial)

theorem describes_lookup (n : String) : Describes Q r (step (Expr.lookup n)) (Expr.lookup n) := by
  refine .step (uses_get_bind (fun m below h => ?_) fun m => ?_)
  · rw [Machine.lookup?_onto n h]
  · split
    · exact .pure _
    · exact uses_fail _

theorem describes_removeVar (n : String) : Describes Q r (removeVar n) (Expr.removeVar n) := by
  have heq : Expr.removeVar n = read (·.hasVar n) >>= fun b =>
      if b then update (.eraseVar n) else Exec.warn (Fault.objectNotFound n).message := by
    refine funext fun m => ?_
    change (if m.hasVar n then _ else _ : Exec Unit) m = (if m.hasVar n then _ else _ : Exec Unit) m
    split <;> rfl
  rw [heq]
  refine .bind (.step (.read fun m below h => Machine.hasVar_onto n h)) fun b => ?_
  split
  · exact .step (.update trivial)
  · exact .warn _

theorem describes_builtin (name : String) (arguments : Args) :
    Describes Q r (builtin name arguments) (Builtin.call name arguments) := by
  unfold builtin
  split
  · subst name
    have hwarning : Describes Q r (warning arguments) (Builtin.warning arguments) :=
      .bind (.step Builtin.uses_messageText) fun text => .bind (.warn text) fun _ =>
        describes_pure _
    exact .bind hwarning fun _ => describes_pure _
  · next hname => exact .step (Builtin.silent_call hname)

/-! Of the parts of an expression `Q` holds with the room that there is. -/

theorem describes_args {arguments : List (Option String × Expr)} (h : ∀ a ∈ arguments, Q r a.2) :
    Describes Q r (args arguments) (Expr.evalArgs (Call.perform r) arguments) := by
  induction arguments with
  | nil => exact describes_pure _
  | cons a rest ih =>
    obtain ⟨n, e⟩ := a
    rw [args, Expr.evalArgs]
    rw [List.forall_mem_cons] at h
    exact .bind (.eval h.1) fun x => .bind (ih h.2) fun _ => describes_pure _

theorem describes_block {body : List Expr} (h : ∀ e ∈ body, Q r e) (last : Object) :
    Describes Q r (block last body) (Expr.evalBlock (Call.perform r) last body) := by
  induction body generalizing last with
  | nil => exact describes_pure _
  | cons e rest ih =>
    rw [block, Expr.evalBlock]
    rw [List.forall_mem_cons] at h
    exact .bind (.eval h.1) fun x => ih h.2 x

theorem describes_names {arguments : List (Option String × Expr)} (h : ∀ a ∈ arguments, Q r a.2) :
    Describes Q r (names arguments) (Expr.namesToRemove (Call.perform r) arguments) := by
  induction arguments with
  | nil => exact describes_pure _
  | cons a rest ih =>
    rw [List.forall_mem_cons] at h
    have hrest := ih h.2
    obtain ⟨n | n, e⟩ := a
    · rw [names, Expr.namesToRemove]
      cases e.removedName? with
      | none => exact describes_fail _
      | some n => exact .bind hrest fun _ => describes_pure _
    · rw [names, Expr.namesToRemove]
      split
      · exact .bind (describes_data (.eval h.1)) fun _ => .bind (describes_ofExcept _) fun _ =>
          .bind hrest fun _ => describes_pure _
      · exact hrest

theorem describes_assign : ∀ (target : Expr)
    (_ : ∀ e : Expr, sizeOf e < sizeOf target → Q r e) (x : Object) (global : Bool),
    Describes Q r (assign target x global) (target.assignWith (Call.perform r) x global)
  | .name n, _, x, global => describes_setVar n x global
  | .dollar target n, h, x, global => by
    simp only [Expr.dollar.sizeOf_spec] at h
    have hcurrent : Q r target := h target (by omega)
    have htarget := describes_assign target fun e he => h e (by omega)
    rw [assign, Expr.assignWith]
    exact .bind (describes_data (.eval hcurrent)) fun _ => .bind (.step (uses_data _)) fun _ =>
      .bind (describes_ofExcept _) fun _ => htarget _ _
  | .element target i, h, x, global => by
    simp only [Expr.element.sizeOf_spec] at h
    have hi : Q r i := h i (by omega)
    have hcurrent : Q r target := h target (by omega)
    have htarget := describes_assign target fun e he => h e (by omega)
    rw [assign, Expr.assignWith]
    refine .bind (describes_data (.eval hi)) fun _ => ?_
    exact .bind (describes_data (.eval hcurrent)) fun _ => .bind (.step (uses_data _)) fun _ =>
      .bind (describes_ofExcept _) fun _ => htarget _ _
  | .index target i, h, x, global => by
    simp only [Expr.index.sizeOf_spec] at h
    have hi : Q r i := h i (by omega)
    have hcurrent : Q r target := h target (by omega)
    have htarget := describes_assign target fun e he => h e (by omega)
    rw [assign, Expr.assignWith]
    refine .bind (describes_data (.eval hi)) fun _ => ?_
    exact .bind (describes_data (.eval hcurrent)) fun _ => .bind (.step (uses_data _)) fun _ =>
      .bind (describes_ofExcept _) fun _ => htarget _ _
  | .const _, _, _, _ => describes_fail _
  | .call _ _, _, _, _ => describes_fail _
  | .unary _ _, _, _, _ => describes_fail _
  | .binary _ _ _, _, _, _ => describes_fail _
  | .assign _ _ _, _, _, _ => describes_fail _
  | .function _ _, _, _, _ => describes_fail _
  | .block _, _, _, _ => describes_fail _
  | .cond _ _ _, _, _, _ => describes_fail _
  | .loop _ _ _, _, _, _ => describes_fail _

theorem describes_defaults {params : List (String × Option Expr)} (h : ∀ e, Q r e) :
    Describes Q r (defaults params) (Call.bindDefaults (Call.perform r) params) := by
  induction params with
  | nil => exact describes_pure _
  | cons a rest ih =>
    obtain ⟨p, _ | e⟩ := a
    · exact ih
    · have heq : Call.bindDefaults (Call.perform r) ((p, some e) :: rest) =
          read (·.hasVar p) >>= fun bound =>
            if !bound then e.evalWith (Call.perform r) >>= fun x =>
              Expr.setVar p x false >>= fun _ => Call.bindDefaults (Call.perform r) rest
            else Call.bindDefaults (Call.perform r) rest := rfl
      rw [heq, defaults]
      refine .bind (.step (.read fun m below hm => Machine.hasVar_onto p hm)) fun bound => ?_
      extract_lets after
      split
      · exact .bind (.eval (h e)) fun x => .bind (describes_setVar p x false) fun _ => ih
      · exact ih

/-- A call is outlined whether there is room for it or not; what it leaves open has less room. -/
theorem describes_call (hless : ∀ r' < r, ∀ e, Q r' e) (c : Call) :
    Describes Q r (call c) (Call.perform r c) := by
  cases r with
  | zero => exact .bind (describes_ofExcept _) fun vars => .full _ _
  | succ r =>
    have hroom := hless r r.lt_succ_self
    exact .bind (describes_ofExcept _) fun vars =>
      .enter _ (.bind (describes_defaults hroom) fun _ => .eval (hroom c.body))

theorem describes_ofCall (hless : ∀ r' < r, ∀ e, Q r' e) (f : Expr) (hf : Q r f)
    {arguments : List (Option String × Expr)} (h : ∀ a ∈ arguments, Q r a.2) :
    Describes Q r (ofExpr (.call f arguments))
      ((Expr.call f arguments).evalWith (Call.perform r)) := by
  rw [ofExpr, Expr.evalWith]
  cases f.name? with
  | some n =>
    change Describes Q r _ (read (·.lookup? n) >>= fun found => match found with
      | some (.closure params body) => Expr.evalArgs (Call.perform r) arguments >>= fun values =>
          Call.perform r ⟨n, params, body, values⟩
      | _ => if n = "rm" then
          Expr.namesToRemove (Call.perform r) arguments >>= fun names =>
            names.forM Expr.removeVar >>= fun _ => pure Object.null
        else Expr.evalArgs (Call.perform r) arguments >>= fun values => Builtin.call n values)
    refine .bind (.step (.read fun m below hm => Machine.lookup?_onto n hm)) fun found => ?_
    split
    · exact .bind (describes_args h) fun _ => describes_call hless _
    · split
      · exact .bind (describes_names h) fun _ => .bind (describes_forM describes_removeVar) fun _ =>
          describes_pure _
      · exact .bind (describes_args h) fun _ => describes_builtin _ _
  | none =>
    refine .bind (.eval hf) fun x => ?_
    cases x with
    | closure params body => exact .bind (describes_args h) fun _ => describes_call hless _
    | data x => exact describes_fail _

/-- An expression is evaluated as it is outlined. What the outline leaves open are parts of the
expression, and expressions for which there is less room. -/
theorem describes_ofExpr (hless : ∀ r' < r, ∀ e, Q r' e) (e : Expr)
    (hparts : ∀ part : Expr, sizeOf part < sizeOf e → Q r part) :
    Describes Q r (ofExpr e) (e.evalWith (Call.perform r)) := by
  cases e with
  | const x => exact describes_pure _
  | name n => exact describes_lookup n
  | call f arguments =>
    simp only [Expr.call.sizeOf_spec] at hparts
    refine describes_ofCall hless f (hparts f (by omega)) fun a ha => hparts a.2 ?_
    have hmem := List.sizeOf_lt_of_mem ha
    obtain ⟨n, e⟩ := a
    rw [Prod.mk.sizeOf_spec] at hmem
    dsimp only
    omega
  | index x i =>
    simp only [Expr.index.sizeOf_spec] at hparts
    have hx : Q r x := hparts x (by omega)
    have hi : Q r i := hparts i (by omega)
    exact .bind (describes_data (.eval hx)) fun _ => .bind (describes_data (.eval hi)) fun _ =>
      .bind (describes_ofExcept _) fun _ => describes_pure _
  | element x i =>
    simp only [Expr.element.sizeOf_spec] at hparts
    have hx : Q r x := hparts x (by omega)
    have hi : Q r i := hparts i (by omega)
    exact .bind (describes_data (.eval hx)) fun _ => .bind (describes_data (.eval hi)) fun _ =>
      .bind (describes_ofExcept _) fun _ => describes_pure _
  | dollar x n =>
    simp only [Expr.dollar.sizeOf_spec] at hparts
    have hx : Q r x := hparts x (by omega)
    exact .bind (describes_data (.eval hx)) fun _ => .bind (describes_ofExcept _) fun _ =>
      describes_pure _
  | unary op x =>
    simp only [Expr.unary.sizeOf_spec] at hparts
    have hx : Q r x := hparts x (by omega)
    exact .bind (describes_data (.eval hx)) fun _ => .bind (describes_ofExcept _) fun _ =>
      describes_pure _
  | binary op x y =>
    simp only [Expr.binary.sizeOf_spec] at hparts
    have hx : Describes Q r (eval x) _ := .eval (hparts x (by omega))
    have hy : Describes Q r (eval y) _ := .eval (hparts y (by omega))
    cases op
    case andAnd =>
      refine .bind (describes_condition hx) fun b => ?_
      split
      · exact .bind (describes_condition hy) fun _ => describes_pure _
      · exact describes_pure _
    case orOr =>
      refine .bind (describes_condition hx) fun b => ?_
      split
      · exact describes_pure _
      · exact .bind (describes_condition hy) fun _ => describes_pure _
    all_goals
      exact .bind (describes_data hx) fun _ => .bind (describes_data hy) fun _ =>
        .bind (describes_ofExcept _) fun _ => describes_pure _
  | assign target value global =>
    simp only [Expr.assign.sizeOf_spec] at hparts
    have hvalue : Q r value := hparts value (by omega)
    have htarget : ∀ e : Expr, sizeOf e < sizeOf target → Q r e :=
      fun e he => hparts e (by omega)
    exact .bind (.eval hvalue) fun x => .bind (describes_assign target htarget x global) fun _ =>
      describes_pure _
  | function params body => exact describes_pure _
  | block body =>
    simp only [Expr.block.sizeOf_spec] at hparts
    refine describes_block (fun e he => hparts e ?_) Object.null
    have hmem := List.sizeOf_lt_of_mem he
    omega
  | cond test yes no =>
    simp only [Expr.cond.sizeOf_spec] at hparts
    have htest : Q r test := hparts test (by omega)
    have hyes : Q r yes := hparts yes (by omega)
    refine .bind (describes_condition (.eval htest)) fun b => ?_
    split
    · exact .eval hyes
    · cases no with
      | none => exact describes_pure _
      | some no =>
        rw [Option.some.sizeOf_spec] at hparts
        exact .eval (hparts no (by omega))
  | loop var items body =>
    simp only [Expr.loop.sizeOf_spec] at hparts
    have hitems : Q r items := hparts items (by omega)
    have hbody : Q r body := hparts body (by omega)
    refine .bind (describes_data (.eval hitems)) fun _ => .bind ?_ fun _ => describes_pure _
    exact describes_forM fun item => .bind (describes_setVar _ _ _) fun _ =>
      .bind (.eval hbody) fun _ => describes_pure _

/-- What holds of an evaluation if it holds of those that it leaves open holds of all. -/
theorem evaluation_induction {P : Nat → Expr → Prop}
    (h : ∀ r e, Describes P r (ofExpr e) (e.evalWith (Call.perform r)) → P r e) :
    ∀ r e, P r e := by
  intro r
  induction r using Nat.strongRecOn with
  | ind r hless =>
    have hsize : ∀ n, ∀ e : Expr, sizeOf e < n → P r e := by
      intro n
      induction n with
      | zero => exact fun e he => (Nat.not_lt_zero _ he).elim
      | succ n ih =>
        exact fun e he => h r e <| describes_ofExpr hless e fun part hpart =>
          ih part (Nat.lt_of_lt_of_le hpart (Nat.le_of_lt_succ he))
    exact fun e => hsize _ e (Nat.lt_succ_self _)

/-! ### What evaluations are made of -/

theorem Describes.uses {p : Outline α} {x : Exec α} (h : Describes Q r p x)
    (hQ : ∀ r e, Q r e → Uses (fun _ => True) (e.evalWith (Call.perform r))) :
    Uses (fun _ => True) x := by
  induction h with
  | step hx => exact hx.mono fun _ _ => trivial
  | warn text => exact uses_warn (fun _ _ => trivial) text
  | eval he => exact hQ _ _ he
  | full => exact uses_fail _
  | enter f _ ih => exact .inFrame f ih
  | bind _ _ ihp ihnext => exact .bind ihp ihnext

end

end Outline

theorem Expr.uses_evalWith (r : Nat) (e : Expr) :
    Uses (fun _ => True) (e.evalWith (Call.perform r)) :=
  Outline.evaluation_induction (fun _ _ h => h.uses fun _ _ hpart => hpart) r e

theorem Call.uses_perform (r : Nat) (c : Call) : Uses (fun _ => True) (Call.perform r c) :=
  (Outline.describes_call (fun _ _ _ => trivial) c : Outline.Describes (fun _ _ => True) r _ _).uses
    fun r e _ => e.uses_evalWith r

end ScriptBridge
