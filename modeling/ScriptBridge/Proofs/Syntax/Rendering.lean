import ScriptBridge.Proofs.Syntax.Levels

/-!
# Expressions written out

A tree is an expression with the signs of its assignments. Written out (`Tree.tokens`), it has
brackets where an operand is of a looser level than its place allows, and around an assignment by an
equals sign that is an argument of a call, and nowhere else. Read again, it is the expression that
it was (`ofTokens_tokens`).
-/

namespace ScriptBridge

/-! ### Trees -/

/-- A constant as it is written. -/
inductive Constant where
  | number (x : Float)
  | integer (n : Int32)
  | text (s : String)
  | true
  | false
  | null
  | na

namespace Constant

def token : Constant → Token
  | number x => .number x
  | integer n => .integer n
  | text s => .text s
  | true => .kwTrue
  | false => .kwFalse
  | null => .kwNull
  | na => .kwNA

def value : Constant → RValue
  | number x => .ofFloat x
  | integer n => .ofInt32 n
  | text s => .string s
  | true => .ofBool Bool.true
  | false => .ofBool Bool.false
  | null => .null
  | na => .logical [none]

end Constant

inductive Sign where
  | left
  | super
  | equal

namespace Sign

def token : Sign → Token
  | left => .leftAssign
  | super => .superAssign
  | equal => .assign

def level : Sign → Level
  | left | super => .arrow
  | equal => .equal

def isGlobal : Sign → Bool
  | super => true
  | left | equal => false

theorem rank_level_le (sign : Sign) : sign.level.rank ≤ 2 := by cases sign <;> decide

end Sign

namespace BinaryOp

def token : BinaryOp → Token
  | add => .plus
  | sub => .minus
  | mul => .star
  | div => .slash
  | pow => .caret
  | range => .colon
  | eq => .eq
  | ne => .ne
  | lt => .lt
  | le => .le
  | gt => .gt
  | ge => .ge
  | and => .and
  | or => .or
  | andAnd => .andAnd
  | orOr => .orOr

/-- The level of an operator's expressions. -/
def level : BinaryOp → Level
  | add | sub => .tier .sum
  | mul | div => .tier .product
  | pow => .power
  | range => .tier .range
  | eq | ne | lt | le | gt | ge => .tier .comparison
  | and | andAnd => .tier .and
  | or | orOr => .tier .or

/-- The level that the left operand needs: powers group to the right, all others to the left. -/
def leftLevel (op : BinaryOp) : Level := if op = pow then op.level.tighter else op.level

/-- The level that the right operand needs. -/
def rightLevel (op : BinaryOp) : Level := if op = pow then op.level else op.level.tighter

theorem rank_level_le (op : BinaryOp) : op.level.rank ≤ op.leftLevel.rank := by
  cases op <;> decide

theorem three_le_rank_level (op : BinaryOp) : 3 ≤ op.level.rank := by cases op <;> decide

end BinaryOp

/-- What is taken from an expression: by its place, as one element, or by its name. -/
inductive Selector (α : Type) where
  | index (i : α)
  | element (i : α)
  | dollar (s : String)

/-- An expression as it is written. The target of an assignment is a name or a selection. -/
inductive Tree where
  | constant (c : Constant)
  | name (s : String)
  | call (f : Tree) (args : List (Option String × Tree))
  | select (x : Tree) (s : Selector Tree)
  | minus (x : Tree)
  | not (x : Tree)
  | binary (op : BinaryOp) (x y : Tree)
  | assignName (sign : Sign) (s : String) (value : Tree)
  | assignPart (sign : Sign) (x : Tree) (s : Selector Tree) (value : Tree)

namespace Tree

mutual

def toExpr : Tree → Expr
  | constant c => .const c.value
  | name s => .name s
  | call f args => .call f.toExpr (argExprs args)
  | select x s => selected x.toExpr s
  | minus x => .unary .neg x.toExpr
  | not x => .unary .not x.toExpr
  | binary op x y => .binary op x.toExpr y.toExpr
  | assignName sign s value => .assign (.name s) value.toExpr sign.isGlobal
  | assignPart sign x s value => .assign (selected x.toExpr s) value.toExpr sign.isGlobal

def argExprs : List (Option String × Tree) → List (Option String × Expr)
  | [] => []
  | (label, x) :: args => (label, x.toExpr) :: argExprs args

def selected (x : Expr) : Selector Tree → Expr
  | .index i => .index x i.toExpr
  | .element i => .element x i.toExpr
  | .dollar s => .dollar x s

end

def level : Tree → Level
  | constant _ | name _ => .primary
  | call _ _ | select _ _ => .selection
  | minus _ => .minus
  | not _ => .not
  | binary op _ _ => op.level
  | assignName sign _ _ | assignPart sign _ _ _ => sign.level

/-! ### Writing -/

def inParens (toks : List Token) : List Token := .openParen :: (toks ++ [.closeParen])

def operand (needed level : Level) (toks : List Token) : List Token :=
  if level.rank < needed.rank then inParens toks else toks

def argument : Level → List Token → List Token
  | .equal, toks => inParens toks
  | _, toks => toks

def labelTokens : Option String → List Token
  | some s => [.name s, .assign]
  | none => []

mutual

/-- The tokens of a tree. -/
def tokens : Tree → List Token
  | constant c => [c.token]
  | name s => [.name s]
  | call f args => operand .selection f.level f.tokens ++ .openParen :: argTokens args
  | select x s => operand .selection x.level x.tokens ++ selectorTokens s
  | minus x => .minus :: operand .minus x.level x.tokens
  | not x => .bang :: operand .not x.level x.tokens
  | binary op x y =>
    operand op.leftLevel x.level x.tokens ++ op.token :: operand op.rightLevel y.level y.tokens
  | assignName sign s value =>
    .name s :: sign.token :: operand sign.level value.level value.tokens
  | assignPart sign x s value =>
    operand .selection x.level x.tokens ++ selectorTokens s ++
      sign.token :: operand sign.level value.level value.tokens

/-- The tokens of arguments, with the closing bracket. -/
def argTokens : List (Option String × Tree) → List Token
  | [] => [.closeParen]
  | [(label, x)] => labelTokens label ++ argument x.level x.tokens ++ [.closeParen]
  | (label, x) :: arg :: args =>
    labelTokens label ++ argument x.level x.tokens ++ .comma :: argTokens (arg :: args)

def selectorTokens : Selector Tree → List Token
  | .index i => .openBracket :: (i.tokens ++ [.closeBracket])
  | .element i => .openElement :: (i.tokens ++ [.closeBracket, .closeBracket])
  | .dollar s => [.dollar, .name s]

end

open ScriptBridge.Expr

variable {n : Bool} {rest rest' toks : List Token} {x z : Expr} {l : Level}

/-! ### The first tokens -/

theorem opens_inParens {k : Nat} (hk : k ≤ 13) : Opens k (inParens toks ++ rest) :=
  ⟨.openParen, _, rfl, hk⟩

theorem opens_operand {level : Level} (h : Opens level.rank (toks ++ rest)) :
    Opens l.rank (operand l level toks ++ rest) := by
  unfold operand
  split
  · exact opens_inParens l.rank_le
  · next hle => exact h.mono (Nat.not_lt.mp hle)

theorem opens_operand_append {level : Level} {more : List Token} {k : Nat} (hk : k ≤ l.rank)
    (h : ∀ rest, Opens level.rank (toks ++ rest)) :
    Opens k (operand l level toks ++ more ++ rest) := by
  rw [List.append_assoc]
  exact (opens_operand (h _)).mono hk

theorem opens_tokens : ∀ (p : Tree) (rest : List Token), Opens p.level.rank (p.tokens ++ rest)
  | constant c, rest => by cases c <;> exact ⟨_, _, rfl, Nat.le_refl _⟩
  | name s, rest => ⟨_, _, rfl, Nat.le_refl _⟩
  | minus x, rest => ⟨_, _, rfl, Nat.le_refl _⟩
  | not x, rest => ⟨_, _, rfl, Nat.le_refl _⟩
  | assignName sign s value, rest =>
    ⟨_, _, rfl, Nat.le_trans sign.rank_level_le (show 2 ≤ 13 by omega)⟩
  | call f args, rest => by
    rw [tokens]
    exact opens_operand_append (Nat.le_refl 12) (opens_tokens f)
  | select x s, rest => by
    rw [tokens]
    exact opens_operand_append (Nat.le_refl 12) (opens_tokens x)
  | assignPart sign x s value, rest => by
    rw [tokens, List.append_assoc (operand _ _ _)]
    exact opens_operand_append (Nat.le_trans sign.rank_level_le (show 2 ≤ 12 by omega))
      (opens_tokens x)
  | binary op x y, rest => by
    rw [tokens]
    exact opens_operand_append op.rank_level_le (opens_tokens x)

theorem takeLabel_operand {level : Level} (hl : 3 ≤ l.rank)
    (h : level ≠ .equal → takeLabel (toks ++ rest) = (none, toks ++ rest)) :
    takeLabel (operand l level toks ++ rest) = (none, operand l level toks ++ rest) := by
  unfold operand
  split
  · rfl
  · next hle =>
    refine h ?_
    rintro rfl
    exact hle (Nat.lt_of_lt_of_le (by decide) hl)

theorem takeLabel_cons (t : Token) (h : rest.head? ≠ some .assign) :
    takeLabel (t :: rest) = (none, t :: rest) := by
  cases rest with
  | nil => cases t <;> rfl
  | cons s rest => cases t <;> first | rfl | cases s <;> first | rfl | exact absurd rfl h

/-- Only an assignment by an equals sign looks like the label of an argument. -/
theorem takeLabel_tokens : ∀ (p : Tree) (rest : List Token), p.level ≠ .equal →
    rest.head? ≠ some .assign → takeLabel (p.tokens ++ rest) = (none, p.tokens ++ rest)
  | constant c, _, _, hrest => takeLabel_cons c.token hrest
  | name s, _, _, hrest => takeLabel_cons (.name s) hrest
  | minus x, rest, _, _ => rfl
  | not x, rest, _, _ => rfl
  | assignName sign s value, rest, hsign, _ => by
    cases sign with
    | equal => exact absurd rfl hsign
    | left => rfl
    | super => rfl
  | call f args, rest, _, _ => by
    rw [tokens, List.append_assoc]
    exact takeLabel_operand (by decide) fun hf => takeLabel_tokens f _ hf nofun
  | select x s, rest, _, _ => by
    rw [tokens, List.append_assoc]
    refine takeLabel_operand (by decide) fun hx => takeLabel_tokens x _ hx ?_
    cases s <;> exact nofun
  | assignPart sign x s value, rest, _, _ => by
    rw [tokens, List.append_assoc, List.append_assoc]
    refine takeLabel_operand (by decide) fun hx => takeLabel_tokens x _ hx ?_
    cases s <;> exact nofun
  | binary op x y, rest, _, _ => by
    rw [tokens, List.append_assoc]
    refine takeLabel_operand (Nat.le_trans op.three_le_rank_level op.rank_level_le) fun hx =>
      takeLabel_tokens x _ hx ?_
    cases op <;> exact nofun

/-! ### Assignments and what binds tighter -/

theorem reads_arrow_of_stops (h : Stops 1 rest) : Reads (.arrow n x) rest x rest := by
  refine .arrowStop ?_
  cases hhead : rest.head? with
  | none => rfl
  | some t =>
    have hlt := (h t hhead).2
    cases t <;> first | rfl | exact absurd hlt (Nat.lt_irrefl 1)

theorem reads_equal_of_or (h : Reads (.tier .or n) toks x rest) (hstops : Stops 2 rest) :
    Reads (.equal n) toks x rest := by
  have hread : Reads (.equal n) toks x (settle n rest) := by
    refine .equalStop h ?_
    rw [hstops.settle]
    exact hstops.head?_ne (show 2 ≤ 2 by omega)
  rw [hstops.settle] at hread
  exact hread

theorem reads_expr_of_or (h : Reads (.tier .or n) toks x rest) (hstops : Stops 1 rest) :
    Reads (.expr n) toks x rest := by
  refine .expr (reads_equal_of_or h (hstops.mono (by omega))) ?_
  rw [hstops.settle]
  exact reads_arrow_of_stops hstops

theorem reads_argValue_of_or (h : Reads (.tier .or true) toks x rest) (hstops : Stops 1 rest) :
    Reads .argValue toks x rest := by
  refine .argValue h ?_
  rw [hstops.settle]
  exact reads_arrow_of_stops hstops

theorem reads_or_of_readsAt (h : ReadsAt n toks x rest l) (hl : 3 ≤ l.rank)
    (hopens : Opens l.rank toks) (hstops : Stops 3 rest) : Reads (.tier .or n) toks x rest := by
  rcases Nat.lt_or_eq_of_le hl with hlt | heq
  · exact h.loosen hopens (l := .tier .or) (Nat.le_refl 3) hlt (hstops.mono (by decide))
      (goesOn_self n x hstops)
  · have hor : Level.tier .or = l := Level.rank_injective heq
    subst hor
    exact h

/-! ### Reading trees -/

/-- A tree that is written out is read: as an expression, as an argument, and, if it is no
assignment, at its level, where the parser goes on after it. -/
structure Parsed (p : Tree) : Prop where
  expr : ∀ (n : Bool) (rest : List Token), Stops 1 rest →
    Reads (.expr n) (p.tokens ++ rest) p.toExpr rest
  arg : p.level ≠ .equal → ∀ rest, Stops 1 rest →
    Reads .argValue (p.tokens ++ rest) p.toExpr rest
  own : 3 ≤ p.level.rank → ∀ (n : Bool) (rest : List Token) (z : Expr) (rest' : List Token),
    GoesOn n p.toExpr rest z rest' p.level → Stops (p.level.rank + 1) rest →
    ReadsAt n (p.tokens ++ rest) z rest' p.level

variable {p : Tree}

theorem Parsed.of_own (hl : 3 ≤ p.level.rank)
    (h : ∀ (n : Bool) (rest : List Token) (z : Expr) (rest' : List Token),
      GoesOn n p.toExpr rest z rest' p.level → Stops (p.level.rank + 1) rest →
      ReadsAt n (p.tokens ++ rest) z rest' p.level) : Parsed p := by
  have hor (n : Bool) (rest : List Token) (hstops : Stops 1 rest) :
      Reads (.tier .or n) (p.tokens ++ rest) p.toExpr rest :=
    reads_or_of_readsAt
      (h n rest _ _ (goesOn_self n p.toExpr (hstops.mono (by omega))) (hstops.mono (by omega)))
      hl (opens_tokens p rest) (hstops.mono (by omega))
  exact
    { expr := fun n rest hstops => reads_expr_of_or (hor n rest hstops) hstops
      arg := fun _ rest hstops => reads_argValue_of_or (hor true rest hstops) hstops
      own := fun _ => h }

theorem Parsed.group (h : Parsed p) (n : Bool) (rest : List Token) :
    Reads (.primary n) (inParens p.tokens ++ rest) p.toExpr rest := by
  have hstops : Stops 1 (.closeParen :: rest) := stops_cons rfl (by decide)
  have htokens : inParens p.tokens ++ rest = .openParen :: (p.tokens ++ .closeParen :: rest) := by
    rw [inParens, List.cons_append, List.append_assoc]
    rfl
  rw [htokens]
  exact .group (settle_cons n rfl) (h.expr true _ hstops) (settle_cons true rfl)

theorem Parsed.inPlace (h : Parsed p) (hl : 3 ≤ l.rank) (hstops : Stops (l.rank + 1) rest)
    (hgoes : GoesOn n p.toExpr rest z rest' l) :
    ReadsAt n (operand l p.level p.tokens ++ rest) z rest' l := by
  unfold operand
  split
  · next hlt =>
    have hread : ReadsAt n (inParens p.tokens ++ rest) p.toExpr rest .primary :=
      h.group n rest
    rcases Nat.lt_or_eq_of_le l.rank_le with hprimary | hprimary
    · exact hread.loosen (opens_inParens (Nat.le_refl 13)) hl hprimary hstops hgoes
    · have heq : l = .primary := Level.rank_injective hprimary
      subst heq
      obtain ⟨rfl, rfl, -⟩ := hgoes
      exact hread
  · next hle =>
    rcases Nat.lt_or_eq_of_le (Nat.not_lt.mp hle) with hlt | heq
    · have hread := h.own (by omega) n rest _ _
        (goesOn_self n p.toExpr (hstops.mono hlt)) (hstops.mono (by omega))
      exact hread.loosen (opens_tokens p rest) hl hlt hstops hgoes
    · have heq : l = p.level := Level.rank_injective heq
      subst heq
      exact h.own hl n rest z rest' hgoes hstops

theorem Parsed.value (h : Parsed p) (n : Bool) (hstops : Stops 1 rest) :
    Reads (.expr n) (operand l p.level p.tokens ++ rest) p.toExpr rest := by
  unfold operand
  split
  · have hread : ReadsAt n (inParens p.tokens ++ rest) p.toExpr rest .primary :=
      h.group n rest
    have hopens : Opens 13 (inParens p.tokens ++ rest) := opens_inParens (Nat.le_refl 13)
    exact reads_expr_of_or
      (reads_or_of_readsAt hread (by decide) hopens (hstops.mono (by omega))) hstops
  · exact h.expr n rest hstops

theorem Parsed.argumentValue (h : Parsed p) (hstops : Stops 1 rest) :
    Reads .argValue (argument p.level p.tokens ++ rest) p.toExpr rest := by
  unfold argument
  split
  · have hread : ReadsAt true (inParens p.tokens ++ rest) p.toExpr rest .primary :=
      h.group true rest
    have hopens : Opens 13 (inParens p.tokens ++ rest) := opens_inParens (Nat.le_refl 13)
    exact reads_argValue_of_or
      (reads_or_of_readsAt hread (by decide) hopens (hstops.mono (by omega))) hstops
  · next hne => exact h.arg hne rest hstops

theorem parsed_assign {sign : Sign} {value : Tree} (target : Expr) (targetTokens : List Token)
    (hlevel : p.level = sign.level)
    (htokens : p.tokens =
      targetTokens ++ sign.token :: operand sign.level value.level value.tokens)
    (htarget : ∀ (n : Bool) (rest : List Token), Stops 3 rest →
      Reads (.tier .or n) (targetTokens ++ rest) target rest)
    (hvalue : Parsed value)
    (hassign : makeAssign target value.toExpr sign.isGlobal = .ok p.toExpr) : Parsed p := by
  have hsign : sign.token.isNewline = false := by cases sign <;> rfl
  have hskip (rest : List Token) :
      skipNewlines (operand sign.level value.level value.tokens ++ rest) =
        operand sign.level value.level value.tokens ++ rest :=
    (opens_operand (opens_tokens value rest)).settle (by cases sign <;> decide) true
  have hread (n : Bool) (rest : List Token) (hstops : Stops 1 rest) :
      Reads (.expr n)
        (skipNewlines (operand sign.level value.level value.tokens ++ rest))
        value.toExpr rest := by
    rw [hskip]
    exact hvalue.value n hstops
  have hsplit (rest : List Token) : p.tokens ++ rest =
      targetTokens ++ sign.token :: (operand sign.level value.level value.tokens ++ rest) := by
    rw [htokens, List.append_assoc]
    rfl
  have hstop (rest : List Token) : Stops 3 (sign.token :: rest) :=
    stops_cons hsign (by cases sign <;> decide)
  refine ⟨fun n rest hstops => ?_, fun hne rest hstops => ?_, fun hrank => ?_⟩
  · rw [hsplit]
    cases sign with
    | equal =>
      refine .expr (.equal (htarget n _ (hstop _)) (settle_cons n rfl) (hread n rest hstops)
        hassign) ?_
      rw [hstops.settle]
      exact reads_arrow_of_stops hstops
    | left =>
      refine .expr (reads_equal_of_or (htarget n _ (hstop _)) (stops_cons rfl (by decide))) ?_
      rw [settle_cons n rfl]
      exact .arrow rfl (hread n rest hstops) hassign
    | super =>
      refine .expr (reads_equal_of_or (htarget n _ (hstop _)) (stops_cons rfl (by decide))) ?_
      rw [settle_cons n rfl]
      exact .arrow rfl (hread n rest hstops) hassign
  · rw [hsplit]
    refine .argValue (htarget true _ (hstop _)) ?_
    rw [settle_cons true hsign]
    cases sign with
    | equal => exact absurd hlevel hne
    | left => exact .arrow rfl (hread true rest hstops) hassign
    | super => exact .arrow rfl (hread true rest hstops) hassign
  · have hle := sign.rank_level_le
    rw [← hlevel] at hle
    omega

theorem opens_argument (label : Option String) (p : Tree) (more : List Token) :
    Opens 1 (labelTokens label ++ argument p.level p.tokens ++ more) := by
  cases label with
  | some s => exact ⟨.name s, _, rfl, show 1 ≤ 13 by omega⟩
  | none =>
    unfold argument
    split
    · exact opens_inParens (by omega)
    · exact (opens_tokens p more).mono p.level.rank_pos

theorem reads_argument (label : Option String) (hp : Parsed p) (t : Token)
    (ht : t = .closeParen ∨ t = .comma) (rest : List Token) :
    ∃ mid, takeLabel (settle true
        (labelTokens label ++ argument p.level p.tokens ++ t :: rest)) = (label, mid) ∧
      Reads .argValue mid p.toExpr (t :: rest) ∧ settle true (t :: rest) = t :: rest := by
  have hnewline : t.isNewline = false := by rcases ht with rfl | rfl <;> rfl
  have hstops : Stops 1 (t :: rest) :=
    stops_cons hnewline (by rcases ht with rfl | rfl <;> decide)
  refine ⟨argument p.level p.tokens ++ t :: rest, ?_, hp.argumentValue hstops,
    settle_cons true hnewline⟩
  cases label with
  | some s => rfl
  | none =>
    have hlabel : takeLabel (argument p.level p.tokens ++ t :: rest) =
        (none, argument p.level p.tokens ++ t :: rest) := by
      unfold argument
      split
      · rfl
      · next hne =>
        exact takeLabel_tokens p _ hne (by rcases ht with rfl | rfl <;> exact nofun)
    rw [(opens_argument none p _).settle (by omega) true]
    exact hlabel

theorem opens_argTokens {args : List (Option String × Tree)} (h : args ≠ []) (rest : List Token) :
    Opens 1 (argTokens args ++ rest) := by
  match args, h with
  | [(label, x)], _ =>
    rw [argTokens, List.append_assoc]
    exact opens_argument label x _
  | (label, x) :: arg :: args, _ =>
    rw [argTokens, List.append_assoc]
    exact opens_argument label x _

theorem reads_args_of_argsFrom {args : List (Option String × Tree)}
    (h : args ≠ [] → Reads .argsFrom (argTokens args ++ rest) (argExprs args) rest) :
    Reads .args (argTokens args ++ rest) (argExprs args) rest := by
  by_cases hnil : args = []
  · subst hnil
    exact .argsNil rfl
  · have hopens := opens_argTokens hnil rest
    refine .args ?_ ?_
    · rw [hopens.settle (by omega) true]
      exact hopens.head?_ne (by decide)
    · rw [hopens.settle (by omega) true]
      exact h hnil

theorem stops_selectorTokens (s : Selector Tree) (rest : List Token) :
    Stops 13 (selectorTokens s ++ rest) := by
  cases s <;> exact stops_cons rfl (show 12 < 13 by omega)

theorem exists_tier {op : BinaryOp} (h : op ≠ .pow) :
    ∃ t : Tier, op.level = .tier t ∧ t.operator? op.token = some op := by
  cases op
  case pow => exact absurd rfl h
  all_goals exact ⟨_, rfl, rfl⟩

theorem isNewline_token (op : BinaryOp) : op.token.isNewline = false := by cases op <;> rfl

mutual

theorem parsed : ∀ p : Tree, Parsed p
  | constant c => by
    refine .of_own (show 3 ≤ 13 by omega) fun n rest z rest' hgoes _ => ?_
    obtain ⟨rfl, rfl, -⟩ := hgoes
    cases c <;> exact .const (settle_cons n rfl) rfl
  | name s => by
    refine .of_own (show 3 ≤ 13 by omega) fun n rest z rest' hgoes _ => ?_
    obtain ⟨rfl, rfl, -⟩ := hgoes
    exact .name (settle_cons n rfl)
  | call f args => by
    refine .of_own (show 3 ≤ 12 by omega) fun n rest z rest' hgoes _ => ?_
    rw [tokens, List.append_assoc]
    exact (parsed f).inPlace (by decide) (stops_cons rfl (by decide))
      (.call (reads_args_of_argsFrom (fun h => reads_argsFrom args h rest)) hgoes)
  | select x s => by
    refine .of_own (show 3 ≤ 12 by omega) fun n rest z rest' hgoes _ => ?_
    rw [tokens, List.append_assoc]
    exact (parsed x).inPlace (by decide) (stops_selectorTokens s rest)
      (reads_selector s n _ rest z rest' hgoes)
  | minus x => by
    refine .of_own (show 3 ≤ 10 by omega) fun n rest z rest' hgoes hstops => ?_
    obtain ⟨rfl, rfl, hstop⟩ := hgoes
    rw [tokens, List.cons_append]
    exact .minus (settle_cons n rfl)
      ((parsed x).inPlace (l := .minus) (by decide) hstops (goesOn_self n _ hstop))
  | not x => by
    refine .of_own (show 3 ≤ 5 by omega) fun n rest z rest' hgoes hstops => ?_
    obtain ⟨rfl, rfl, hstop⟩ := hgoes
    rw [tokens, List.cons_append]
    exact .not (settle_cons n rfl)
      ((parsed x).inPlace (l := .not) (by decide) hstops (goesOn_self n _ hstop))
  | binary op x y => by
    refine .of_own op.three_le_rank_level fun n rest z rest' hgoes hstops => ?_
    rw [tokens, List.append_assoc, List.cons_append]
    by_cases hpow : op = .pow
    · subst hpow
      obtain ⟨rfl, rfl, hstop⟩ := hgoes
      have hskip : skipNewlines (operand .power y.level y.tokens ++ rest') =
          operand .power y.level y.tokens ++ rest' :=
        (opens_operand (opens_tokens y rest')).settle (by decide) true
      have hcaret : Stops 12 (.caret :: (operand .power y.level y.tokens ++ rest')) :=
        stops_cons rfl (by decide)
      have hright : ReadsAt n (operand .power y.level y.tokens ++ rest') y.toExpr rest' .power :=
        (parsed y).inPlace (by decide) hstops (goesOn_self n _ hstop)
      refine .power ((parsed x).inPlace (l := .selection) (by decide) (hcaret.mono (by decide))
        (goesOn_self n _ hcaret)) (settle_cons n rfl) ?_
      have hsigned := reads_signed_of_power hright (opens_operand (opens_tokens y rest'))
      rw [← hskip] at hsigned
      exact hsigned
    · obtain ⟨t, hlevel, hop⟩ := exists_tier hpow
      have hrank := op.three_le_rank_level
      have htighter := Level.rank_tighter (l := .tier t) (by cases t <;> decide)
      rw [level, hlevel] at hgoes hstops ⊢
      rw [hlevel] at hrank
      rw [BinaryOp.leftLevel, if_neg hpow, BinaryOp.rightLevel, if_neg hpow, hlevel]
      have hskip : skipNewlines (operand (Level.tier t).tighter y.level y.tokens ++ rest) =
          operand (Level.tier t).tighter y.level y.tokens ++ rest :=
        (opens_operand (opens_tokens y rest)).settle (by omega) true
      have hright : ReadsAt n (operand (Level.tier t).tighter y.level y.tokens ++ rest) y.toExpr
          rest (Level.tier t).tighter :=
        (parsed y).inPlace (by omega) (hstops.mono (by omega))
          (goesOn_self n _ (by rw [htighter]; exact hstops))
      refine (parsed x).inPlace (l := .tier t) hrank
        (stops_cons (isNewline_token op) (by rw [goesOn_of_operator? hop]; omega)) ?_
      refine .tierMore (settle_cons n (isNewline_token op)) hop ?_ hgoes
      rw [hskip]
      exact reads_operand_of_tighter hright
  | assignName sign s value => by
    refine parsed_assign (.name s) [.name s] rfl (by rw [tokens]; rfl)
      (fun n rest hstops => ?_) (parsed value) (by rw [toExpr]; rfl)
    have hread : ReadsAt n (.name s :: rest) (.name s) rest .primary := .name (settle_cons n rfl)
    exact reads_or_of_readsAt hread (by decide) ⟨_, _, rfl, Nat.le_refl 13⟩ hstops
  | assignPart sign x s value => by
    refine parsed_assign (selected x.toExpr s)
      (operand .selection x.level x.tokens ++ selectorTokens s) rfl
      (by rw [tokens]) (fun n rest hstops => ?_) (parsed value) ?_
    · have hselection : Stops 12 rest := hstops.mono (by omega)
      have hread : ReadsAt n (operand .selection x.level x.tokens ++ (selectorTokens s ++ rest))
          (selected x.toExpr s) rest .selection :=
        (parsed x).inPlace (by decide) (stops_selectorTokens s rest)
          (reads_selector s n _ rest _ rest (goesOn_self (l := .selection) n _ hselection))
      rw [List.append_assoc]
      exact reads_or_of_readsAt hread (by decide) (opens_operand (opens_tokens x _)) hstops
    · cases s <;> rw [toExpr] <;> rfl

theorem reads_argsFrom : ∀ (args : List (Option String × Tree)), args ≠ [] →
    ∀ rest, Reads .argsFrom (argTokens args ++ rest) (argExprs args) rest
  | [], h, _ => absurd rfl h
  | [(label, x)], _, rest => by
    obtain ⟨mid, hlabel, hx, hsettle⟩ :=
      reads_argument label (parsed x) .closeParen (.inl rfl) rest
    rw [argTokens, List.append_assoc]
    exact .argsLast hlabel hx hsettle
  | (label, x) :: arg :: args, _, rest => by
    obtain ⟨mid, hlabel, hx, hsettle⟩ :=
      reads_argument label (parsed x) .comma (.inr rfl) (argTokens (arg :: args) ++ rest)
    rw [argTokens, List.append_assoc]
    exact .argsMore hlabel hx hsettle (reads_argsFrom (arg :: args) (List.cons_ne_nil _ _) rest)

theorem reads_selector : ∀ (s : Selector Tree) (n : Bool) (x : Expr) (rest : List Token) (z : Expr)
    (rest' : List Token), Reads (.selectionRest n (selected x s)) rest z rest' →
    Reads (.selectionRest n x) (selectorTokens s ++ rest) z rest'
  | .index i, n, x, rest, z, rest', h => by
    rw [selectorTokens, List.cons_append, List.append_assoc]
    exact .index ((parsed i).expr true _ (stops_cons rfl (by decide))) (settle_cons true rfl) h
  | .element i, n, x, rest, z, rest', h => by
    rw [selectorTokens, List.cons_append, List.append_assoc]
    exact .element ((parsed i).expr true _ (stops_cons rfl (by decide))) (settle_cons true rfl)
      (settle_cons true rfl) h
  | .dollar s, n, x, rest, z, rest', h => .dollar (settle_cons n rfl) rfl h

end

/-- A tree that is written out is read as one expression, the one that it is. -/
theorem ofTokens_tokens (p : Tree) : Expr.ofTokens p.tokens = .ok [p.toExpr] := by
  obtain ⟨t, rest, htokens, hopens⟩ := opens_tokens p []
  have hskip : skipSeparators p.tokens = p.tokens := by
    rw [List.append_nil] at htokens
    rw [htokens]
    refine List.dropWhile_cons_of_neg ?_
    have hpos := p.level.rank_pos
    cases t <;> first
      | exact Bool.false_ne_true
      | exact absurd (Nat.le_trans hpos hopens) (by decide)
  have hread := (parsed p).expr false [] (stops_nil 1)
  rw [List.append_nil] at hread
  have hnil : Reads .program [] [] [] := .programNil rfl
  refine ofTokens_eq_ok.mpr (.programMore ?_ rfl hnil)
  rw [hskip]
  exact hread

end Tree

end ScriptBridge
