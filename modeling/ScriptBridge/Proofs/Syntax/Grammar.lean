import Mathlib.Data.List.DropRight
import ScriptBridge.Proofs.Except
import ScriptBridge.Proofs.Syntax.Fuel

/-!
# The grammar of expressions

`Reads g toks a rest`: what is sought at the tokens `toks` stands there and is `a`, and `rest` are
the tokens after it. There is one rule for each way in which a parser can succeed, so properties of
what is read go by induction on the rules, with no mention of steps.

- `reads_of_parse`: what a parser yields is read by the rules.
-/

namespace ScriptBridge

namespace Token

def arrow? : Token → Option Bool
  | leftAssign => some false
  | superAssign => some true
  | _ => none

/-- The value that a token is a constant for. -/
def constant? : Token → Option RValue
  | number x => some (.ofFloat x)
  | integer n => some (.ofInt32 n)
  | text s => some (.string s)
  | kwTrue => some (.ofBool true)
  | kwFalse => some (.ofBool false)
  | kwNull => some .null
  | kwNA => some (.logical [none])
  | _ => none

/-- What stands after a dollar sign, or before the equals sign of an argument. -/
def label? : Token → Option String
  | name s | text s => some s
  | _ => none

/-- Whether a call or a selection starts with the token. -/
def selects : Token → Bool
  | openParen | openBracket | openElement | dollar => true
  | _ => false

def endsStatement : Token → Bool
  | closeBrace => true
  | t => t.isSeparator

end Token

/-- The tier whose expressions are the operands of this one, if a tier is next. -/
def Tier.below? : Tier → Option Tier
  | .or => some .and
  | .and => none
  | .comparison => some .sum
  | .sum => some .product
  | .product => some .range
  | .range => none

namespace Expr

/-- The label of an argument, and the tokens of its value. -/
def takeLabel : List Token → Option String × List Token
  | .name n :: .assign :: rest => (some n, rest)
  | .text n :: .assign :: rest => (some n, rest)
  | toks => (none, toks)

def parsePreset (fuel : Nat) (toks : List Token) :
    Except SyntaxError (Option Expr × List Token) :=
  match settle true toks with
  | .assign :: rest => do
    let (x, toks) ← parseTier fuel .or true rest
    pure (some x, toks)
  | toks => pure (none, toks)

/-- What is sought. The sort says inside which brackets, and after what. -/
inductive Sought where
  | expr (nested : Bool)
  | arrow (nested : Bool) (lhs : Expr)
  | equal (nested : Bool)
  | tier (tier : Tier) (nested : Bool)
  | tierRest (tier : Tier) (nested : Bool) (lhs : Expr)
  | operand (tier : Tier) (nested : Bool)
  | not (nested : Bool)
  | signed (nested : Bool)
  | power (nested : Bool)
  | selection (nested : Bool)
  | selectionRest (nested : Bool) (x : Expr)
  | args
  | argsFrom
  | argValue
  | params (nested : Bool)
  | paramsFrom
  | preset
  | primary (nested : Bool)
  | block
  | program

/-- What is found where it stands. -/
@[reducible] def Sought.Result : Sought → Type
  | args | argsFrom => List (Option String × Expr)
  | params _ | paramsFrom => List (String × Option Expr)
  | preset => Option Expr
  | block | program => List Expr
  | _ => Expr

def Sought.parse (fuel : Nat) (toks : List Token) :
    (g : Sought) → Except SyntaxError (g.Result × List Token)
  | expr nested => parseExpr fuel nested toks
  | arrow nested lhs => parseArrow fuel nested lhs toks
  | equal nested => parseEqual fuel nested toks
  | tier t nested => parseTier fuel t nested toks
  | tierRest t nested lhs => parseTierRest fuel t nested lhs toks
  | operand t nested => parseOperand fuel t nested toks
  | not nested => parseNot fuel nested toks
  | signed nested => parseSigned fuel nested toks
  | power nested => parsePower fuel nested toks
  | selection nested => parsePostfix fuel nested toks
  | selectionRest nested x => parsePostfixRest fuel nested x toks
  | args => parseArgs fuel toks
  | argsFrom => parseArgsFrom fuel toks
  | argValue => parseArgValue fuel toks
  | params nested => parseParams fuel nested toks
  | paramsFrom => parseParamsFrom fuel toks
  | preset =>
    match fuel with
    | 0 => .error .exhausted
    | fuel + 1 => parsePreset fuel toks
  | primary nested => parsePrimary fuel nested toks
  | block => parseBlock fuel toks
  | program => (parseProgram fuel toks).map fun xs => (xs, [])

/-! ### The rules -/

/-- What is sought stands at the first tokens, and the last ones come after it. -/
inductive Reads : (g : Sought) → List Token → g.Result → List Token → Prop where
  | expr {n toks lhs mid x rest} :
      Reads (.equal n) toks lhs mid → Reads (.arrow n lhs) (settle n mid) x rest →
      Reads (.expr n) toks x rest
  | arrowStop {n lhs toks} :
      toks.head?.bind Token.arrow? = none → Reads (.arrow n lhs) toks lhs toks
  | arrow {n lhs t mid global rhs x rest} :
      t.arrow? = some global → Reads (.expr n) (skipNewlines mid) rhs rest →
      makeAssign lhs rhs global = .ok x → Reads (.arrow n lhs) (t :: mid) x rest
  | equalStop {n toks x mid} :
      Reads (.tier .or n) toks x mid → (settle n mid).head? ≠ some .assign →
      Reads (.equal n) toks x (settle n mid)
  | equal {n toks lhs mid mid' rhs x rest} :
      Reads (.tier .or n) toks lhs mid → settle n mid = .assign :: mid' →
      Reads (.expr n) (skipNewlines mid') rhs rest → makeAssign lhs rhs false = .ok x →
      Reads (.equal n) toks x rest
  | tier {t n toks lhs mid x rest} :
      Reads (.operand t n) toks lhs mid → Reads (.tierRest t n lhs) mid x rest →
      Reads (.tier t n) toks x rest
  | tierStop {t n lhs toks} :
      (settle n toks).head?.bind t.operator? = none →
      Reads (.tierRest t n lhs) toks lhs (settle n toks)
  | tierMore {t n lhs toks s mid op rhs mid' x rest} :
      settle n toks = s :: mid → t.operator? s = some op →
      Reads (.operand t n) (skipNewlines mid) rhs mid' →
      Reads (.tierRest t n (binary op lhs rhs)) mid' x rest → Reads (.tierRest t n lhs) toks x rest
  | operandTier {t below n toks x rest} :
      t.below? = some below → Reads (.tier below n) toks x rest → Reads (.operand t n) toks x rest
  | operandNot {n toks x rest} : Reads (.not n) toks x rest → Reads (.operand .and n) toks x rest
  | operandSigned {n toks x rest} :
      Reads (.signed n) toks x rest → Reads (.operand .range n) toks x rest
  | not {n toks mid x rest} :
      settle n toks = .bang :: mid → Reads (.not n) mid x rest →
      Reads (.not n) toks (unary .not x) rest
  | notStop {n toks x rest} :
      (settle n toks).head? ≠ some .bang → Reads (.tier .comparison n) (settle n toks) x rest →
      Reads (.not n) toks x rest
  | minus {n toks mid x rest} :
      settle n toks = .minus :: mid → Reads (.signed n) mid x rest →
      Reads (.signed n) toks (unary .neg x) rest
  | plus {n toks mid x rest} :
      settle n toks = .plus :: mid → Reads (.signed n) mid x rest → Reads (.signed n) toks x rest
  | signedStop {n toks x rest} :
      (settle n toks).head? ≠ some .minus → (settle n toks).head? ≠ some .plus →
      Reads (.power n) (settle n toks) x rest → Reads (.signed n) toks x rest
  | powerStop {n toks x mid} :
      Reads (.selection n) toks x mid → (settle n mid).head? ≠ some .caret →
      Reads (.power n) toks x (settle n mid)
  | power {n toks base mid mid' exponent rest} :
      Reads (.selection n) toks base mid → settle n mid = .caret :: mid' →
      Reads (.signed n) (skipNewlines mid') exponent rest →
      Reads (.power n) toks (binary .pow base exponent) rest
  | selection {n toks x mid y rest} :
      Reads (.primary n) toks x mid → Reads (.selectionRest n x) mid y rest →
      Reads (.selection n) toks y rest
  | selectionStop {n x toks} :
      toks.head?.any Token.selects = false → Reads (.selectionRest n x) toks x toks
  | call {n x toks args mid y rest} :
      Reads .args toks args mid → Reads (.selectionRest n (call x args)) mid y rest →
      Reads (.selectionRest n x) (.openParen :: toks) y rest
  | index {n x toks i mid mid' y rest} :
      Reads (.expr true) toks i mid → settle true mid = .closeBracket :: mid' →
      Reads (.selectionRest n (index x i)) mid' y rest →
      Reads (.selectionRest n x) (.openBracket :: toks) y rest
  | element {n x toks i mid mid' mid'' y rest} :
      Reads (.expr true) toks i mid → settle true mid = .closeBracket :: mid' →
      settle true mid' = .closeBracket :: mid'' →
      Reads (.selectionRest n (element x i)) mid'' y rest →
      Reads (.selectionRest n x) (.openElement :: toks) y rest
  | dollar {n x toks t s mid y rest} :
      settle n toks = t :: mid → t.label? = some s →
      Reads (.selectionRest n (dollar x s)) mid y rest →
      Reads (.selectionRest n x) (.dollar :: toks) y rest
  | argsNil {toks rest} : settle true toks = .closeParen :: rest → Reads .args toks [] rest
  | args {toks args rest} :
      (settle true toks).head? ≠ some .closeParen → Reads .argsFrom (settle true toks) args rest →
      Reads .args toks args rest
  | argsLast {toks label mid x mid' rest} :
      takeLabel (settle true toks) = (label, mid) → Reads .argValue mid x mid' →
      settle true mid' = .closeParen :: rest → Reads .argsFrom toks [(label, x)] rest
  | argsMore {toks label mid x mid' mid'' args rest} :
      takeLabel (settle true toks) = (label, mid) → Reads .argValue mid x mid' →
      settle true mid' = .comma :: mid'' → Reads .argsFrom mid'' args rest →
      Reads .argsFrom toks ((label, x) :: args) rest
  | argValue {toks lhs mid x rest} :
      Reads (.tier .or true) toks lhs mid → Reads (.arrow true lhs) (settle true mid) x rest →
      Reads .argValue toks x rest
  | paramsNil {n toks mid rest} :
      settle n toks = .openParen :: mid → settle true mid = .closeParen :: rest →
      Reads (.params n) toks [] rest
  | params {n toks mid params rest} :
      settle n toks = .openParen :: mid → (settle true mid).head? ≠ some .closeParen →
      Reads .paramsFrom (settle true mid) params rest → Reads (.params n) toks params rest
  | paramsLast {toks s mid preset mid' rest} :
      settle true toks = .name s :: mid → Reads .preset mid preset mid' →
      settle true mid' = .closeParen :: rest → Reads .paramsFrom toks [(s, preset)] rest
  | paramsMore {toks s mid preset mid' mid'' params rest} :
      settle true toks = .name s :: mid → Reads .preset mid preset mid' →
      settle true mid' = .comma :: mid'' → Reads .paramsFrom mid'' params rest →
      Reads .paramsFrom toks ((s, preset) :: params) rest
  | presetNone {toks} :
      (settle true toks).head? ≠ some .assign → Reads .preset toks none (settle true toks)
  | preset {toks mid x rest} :
      settle true toks = .assign :: mid → Reads (.tier .or true) mid x rest →
      Reads .preset toks (some x) rest
  | const {n toks t v rest} :
      settle n toks = t :: rest → t.constant? = some v → Reads (.primary n) toks (const v) rest
  | name {n toks s rest} : settle n toks = .name s :: rest → Reads (.primary n) toks (name s) rest
  | group {n toks mid x mid' rest} :
      settle n toks = .openParen :: mid → Reads (.expr true) mid x mid' →
      settle true mid' = .closeParen :: rest → Reads (.primary n) toks x rest
  | block {n toks mid body rest} :
      settle n toks = .openBrace :: mid → Reads .block mid body rest →
      Reads (.primary n) toks (block body) rest
  | function {n toks mid params mid' body rest} :
      settle n toks = .kwFunction :: mid → Reads (.params n) mid params mid' →
      Reads (.expr n) (skipNewlines mid') body rest →
      Reads (.primary n) toks (function params body) rest
  | cond {n toks m₁ m₂ test m₃ m₄ yes rest} :
      settle n toks = .kwIf :: m₁ → settle n m₁ = .openParen :: m₂ →
      Reads (.expr true) m₂ test m₃ → settle true m₃ = .closeParen :: m₄ →
      Reads (.expr n) (skipNewlines m₄) yes rest → (skipNewlines rest).head? ≠ some .kwElse →
      Reads (.primary n) toks (cond test yes none) rest
  | condElse {n toks m₁ m₂ test m₃ m₄ yes m₅ m₆ no rest} :
      settle n toks = .kwIf :: m₁ → settle n m₁ = .openParen :: m₂ →
      Reads (.expr true) m₂ test m₃ → settle true m₃ = .closeParen :: m₄ →
      Reads (.expr n) (skipNewlines m₄) yes m₅ → skipNewlines m₅ = .kwElse :: m₆ →
      Reads (.expr n) (skipNewlines m₆) no rest →
      Reads (.primary n) toks (cond test yes (some no)) rest
  | loop {n toks m₁ m₂ s m₃ m₄ items m₅ m₆ body rest} :
      settle n toks = .kwFor :: m₁ → settle n m₁ = .openParen :: m₂ →
      settle true m₂ = .name s :: m₃ → settle true m₃ = .kwIn :: m₄ →
      Reads (.expr true) m₄ items m₅ → settle true m₅ = .closeParen :: m₆ →
      Reads (.expr n) (skipNewlines m₆) body rest →
      Reads (.primary n) toks (loop s items body) rest
  | blockNil {toks rest} : skipSeparators toks = .closeBrace :: rest → Reads .block toks [] rest
  | blockMore {toks x mid xs rest} :
      (skipSeparators toks).head? ≠ some .closeBrace →
      Reads (.expr false) (skipSeparators toks) x mid →
      mid.head?.any Token.endsStatement = true → Reads .block mid xs rest →
      Reads .block toks (x :: xs) rest
  | programNil {toks} : skipSeparators toks = [] → Reads .program toks [] []
  | programMore {toks x mid xs} :
      Reads (.expr false) (skipSeparators toks) x mid →
      mid.head?.all Token.isSeparator = true → Reads .program mid xs [] →
      Reads .program toks (x :: xs) []

variable {fuel : Nat} {n : Bool} {toks rest : List Token} {x : Expr}

/-! ### What a parser yields is read -/

theorem require_eq_ok {isSought : Token → Bool} {sought : Expectation} {tok : Token}
    (htok : ∀ t, isSought t = true ↔ t = tok) :
    require isSought sought n toks = .ok rest ↔ settle n toks = tok :: rest := by
  unfold require
  cases settle n toks with
  | nil => exact ⟨nofun, nofun⟩
  | cons t mid =>
    dsimp only
    by_cases ht : t = tok
    · rw [if_pos ((htok t).mpr ht), ht, Except.ok.injEq, List.cons_inj_right]
    · rw [if_neg (mt (htok t).mp ht)]
      exact ⟨nofun, fun h => absurd (List.cons.inj h).1 ht⟩

theorem requireOpen_eq_ok {sought : Expectation} :
    requireOpen sought n toks = .ok rest ↔ settle n toks = .openParen :: rest :=
  require_eq_ok fun t => by cases t <;> simp

theorem requireClose_eq_ok :
    requireClose n toks = .ok rest ↔ settle n toks = .closeParen :: rest :=
  require_eq_ok fun t => by cases t <;> simp

theorem requireComma_eq_ok :
    requireComma n toks = .ok rest ↔ settle n toks = .comma :: rest :=
  require_eq_ok fun t => by cases t <;> simp

theorem requireBracket_eq_ok {sought : Expectation} :
    requireBracket sought n toks = .ok rest ↔ settle n toks = .closeBracket :: rest :=
  require_eq_ok fun t => by cases t <;> simp

theorem requireIn_eq_ok : requireIn n toks = .ok rest ↔ settle n toks = .kwIn :: rest :=
  require_eq_ok fun t => by cases t <;> simp

/-- A step that builds on what is read gives back the tokens that are left then. -/
theorem except_pair_eq_ok {α β : Type} {r : Except SyntaxError α} {f : α → β} {b : β} :
    (do return (f (← r), toks) : Except SyntaxError (β × List Token)) = .ok (b, rest) ↔
      ∃ a, r = .ok a ∧ f a = b ∧ toks = rest := by
  simp only [except_bind_eq_ok, except_pure_eq_ok, Prod.mk.injEq]

/-- With so many steps, a parser yields only what is read by the rules. -/
def Sound (fuel : Nat) : Prop :=
  ∀ {g : Sought} {toks : List Token} {a : g.Result} {rest : List Token},
    g.parse fuel toks = .ok (a, rest) → Reads g toks a rest

theorem reads_expr (ih : Sound fuel) (h : parseExpr (fuel + 1) n toks = .ok (x, rest)) :
    Reads (.expr n) toks x rest := by
  rw [parseExpr, except_bind_eq_ok] at h
  obtain ⟨⟨lhs, mid⟩, hlhs, hx⟩ := h
  exact .expr (ih (g := .equal n) hlhs) (ih (g := .arrow n lhs) hx)

theorem makeAssign_eq_ok {lhs rhs : Expr} {global : Bool}
    (h : (do return (← makeAssign lhs rhs global, toks) : ParsedExpr) = .ok (x, rest)) :
    makeAssign lhs rhs global = .ok x ∧ toks = rest := by
  obtain ⟨y, hy, rfl, rfl⟩ := except_pair_eq_ok (f := id) |>.mp h
  exact ⟨hy, rfl⟩

theorem reads_arrow {lhs : Expr} (ih : Sound fuel)
    (h : parseArrow (fuel + 1) n lhs toks = .ok (x, rest)) :
    Reads (.arrow n lhs) toks x rest := by
  unfold parseArrow at h
  split at h
  · rw [except_bind_eq_ok] at h
    obtain ⟨⟨rhs, mid⟩, hrhs, hx⟩ := h
    obtain ⟨hassign, rfl⟩ := makeAssign_eq_ok hx
    exact .arrow rfl (ih (g := .expr n) hrhs) hassign
  · rw [except_bind_eq_ok] at h
    obtain ⟨⟨rhs, mid⟩, hrhs, hx⟩ := h
    obtain ⟨hassign, rfl⟩ := makeAssign_eq_ok hx
    exact .arrow rfl (ih (g := .expr n) hrhs) hassign
  · next hleft hsuper =>
    cases h
    refine .arrowStop ?_
    cases toks with
    | nil => rfl
    | cons t toks =>
      cases t
      case leftAssign => exact absurd rfl (hleft _)
      case superAssign => exact absurd rfl (hsuper _)
      all_goals rfl

theorem reads_equal (ih : Sound fuel) (h : parseEqual (fuel + 1) n toks = .ok (x, rest)) :
    Reads (.equal n) toks x rest := by
  rw [parseEqual, except_bind_eq_ok] at h
  obtain ⟨⟨lhs, mid⟩, hlhs, h⟩ := h
  dsimp only at h
  split at h
  · next mid' heq =>
    rw [except_bind_eq_ok] at h
    obtain ⟨⟨rhs, mid'⟩, hrhs, hx⟩ := h
    obtain ⟨hassign, rfl⟩ := makeAssign_eq_ok hx
    exact .equal (ih (g := .tier .or n) hlhs) heq (ih (g := .expr n) hrhs) hassign
  · next hstop =>
    cases h
    refine .equalStop (ih (g := .tier .or n) hlhs) fun heq => ?_
    obtain ⟨more, heq⟩ := List.head?_eq_some_iff.mp heq
    exact hstop more heq

theorem reads_tier {t : Tier} (ih : Sound fuel)
    (h : parseTier (fuel + 1) t n toks = .ok (x, rest)) : Reads (.tier t n) toks x rest := by
  rw [parseTier, except_bind_eq_ok] at h
  obtain ⟨⟨lhs, mid⟩, hlhs, hx⟩ := h
  exact .tier (ih (g := .operand t n) hlhs) (ih (g := .tierRest t n lhs) hx)

theorem reads_tierRest {t : Tier} {lhs : Expr} (ih : Sound fuel)
    (h : parseTierRest (fuel + 1) t n lhs toks = .ok (x, rest)) :
    Reads (.tierRest t n lhs) toks x rest := by
  rw [parseTierRest] at h
  split at h
  · next heq =>
    cases h
    rw [← heq]
    exact .tierStop (by rw [heq]; rfl)
  · next s mid heq =>
    split at h
    · next hop =>
      cases h
      rw [← heq]
      exact .tierStop (by rw [heq]; exact hop)
    · next op hop =>
      rw [except_bind_eq_ok] at h
      obtain ⟨⟨rhs, mid'⟩, hrhs, hx⟩ := h
      exact .tierMore heq hop (ih (g := .operand t n) hrhs)
        (ih (g := .tierRest t n (binary op lhs rhs)) hx)

theorem reads_operand {t : Tier} (ih : Sound fuel)
    (h : parseOperand (fuel + 1) t n toks = .ok (x, rest)) : Reads (.operand t n) toks x rest := by
  cases t <;> rw [parseOperand] at h
  case and => exact .operandNot (ih (g := .not n) h)
  case range => exact .operandSigned (ih (g := .signed n) h)
  case or => exact .operandTier rfl (ih (g := .tier .and n) h)
  case comparison => exact .operandTier rfl (ih (g := .tier .sum n) h)
  case sum => exact .operandTier rfl (ih (g := .tier .product n) h)
  case product => exact .operandTier rfl (ih (g := .tier .range n) h)

theorem head?_ne {t : Token} (h : ∀ more, toks = t :: more → False) : toks.head? ≠ some t := by
  intro heq
  obtain ⟨more, hmore⟩ := List.head?_eq_some_iff.mp heq
  exact h more hmore

theorem reads_not (ih : Sound fuel) (h : parseNot (fuel + 1) n toks = .ok (x, rest)) :
    Reads (.not n) toks x rest := by
  rw [parseNot] at h
  split at h
  · next mid heq =>
    rw [except_bind_eq_ok] at h
    obtain ⟨⟨y, mid'⟩, hy, hx⟩ := h
    cases hx
    exact .not heq (ih (g := .not n) hy)
  · next hstop => exact .notStop (head?_ne hstop) (ih (g := .tier .comparison n) h)

theorem reads_signed (ih : Sound fuel) (h : parseSigned (fuel + 1) n toks = .ok (x, rest)) :
    Reads (.signed n) toks x rest := by
  rw [parseSigned] at h
  split at h
  · next mid heq =>
    rw [except_bind_eq_ok] at h
    obtain ⟨⟨y, mid'⟩, hy, hx⟩ := h
    cases hx
    exact .minus heq (ih (g := .signed n) hy)
  · next mid heq => exact .plus heq (ih (g := .signed n) h)
  · next hminus hplus =>
    exact .signedStop (head?_ne hminus) (head?_ne hplus) (ih (g := .power n) h)

theorem reads_power (ih : Sound fuel) (h : parsePower (fuel + 1) n toks = .ok (x, rest)) :
    Reads (.power n) toks x rest := by
  rw [parsePower, except_bind_eq_ok] at h
  obtain ⟨⟨base, mid⟩, hbase, h⟩ := h
  dsimp only at h
  split at h
  · next mid' heq =>
    rw [except_bind_eq_ok] at h
    obtain ⟨⟨exponent, mid''⟩, hexponent, hx⟩ := h
    cases hx
    exact .power (ih (g := .selection n) hbase) heq (ih (g := .signed n) hexponent)
  · next hstop =>
    cases h
    exact .powerStop (ih (g := .selection n) hbase) (head?_ne hstop)

theorem reads_selection (ih : Sound fuel)
    (h : parsePostfix (fuel + 1) n toks = .ok (x, rest)) : Reads (.selection n) toks x rest := by
  rw [parsePostfix, except_bind_eq_ok] at h
  obtain ⟨⟨y, mid⟩, hy, hx⟩ := h
  exact .selection (ih (g := .primary n) hy) (ih (g := .selectionRest n y) hx)

theorem reads_selectionRest {y : Expr} (ih : Sound fuel)
    (h : parsePostfixRest (fuel + 1) n y toks = .ok (x, rest)) :
    Reads (.selectionRest n y) toks x rest := by
  unfold parsePostfixRest at h
  split at h
  · rw [except_bind_eq_ok] at h
    obtain ⟨⟨args, mid⟩, hargs, hx⟩ := h
    exact .call (ih (g := .args) hargs) (ih (g := .selectionRest n (call y args)) hx)
  · simp only [except_bind_eq_ok, requireBracket_eq_ok] at h
    obtain ⟨⟨i, mid⟩, hi, mid', hmid, hx⟩ := h
    exact .index (ih (g := .expr true) hi) hmid (ih (g := .selectionRest n (index y i)) hx)
  · simp only [except_bind_eq_ok, requireBracket_eq_ok] at h
    obtain ⟨⟨i, mid⟩, hi, mid', hmid, mid'', hmid', hx⟩ := h
    exact .element (ih (g := .expr true) hi) hmid hmid'
      (ih (g := .selectionRest n (element y i)) hx)
  · split at h
    · next s mid heq => exact .dollar heq rfl (ih (g := .selectionRest n (dollar y s)) h)
    · next s mid heq => exact .dollar heq rfl (ih (g := .selectionRest n (dollar y s)) h)
    · cases h
  · next hparen hbracket helement hdollar =>
    cases h
    refine .selectionStop ?_
    cases toks with
    | nil => rfl
    | cons t toks =>
      cases t
      case openParen => exact absurd rfl (hparen _)
      case openBracket => exact absurd rfl (hbracket _)
      case openElement => exact absurd rfl (helement _)
      case dollar => exact absurd rfl (hdollar _)
      all_goals rfl

theorem reads_args {args : List (Option String × Expr)} (ih : Sound fuel)
    (h : parseArgs (fuel + 1) toks = .ok (args, rest)) : Reads .args toks args rest := by
  rw [parseArgs] at h
  split at h
  · next mid heq =>
    cases h
    exact .argsNil heq
  · next hstop => exact .args (head?_ne hstop) (ih (g := .argsFrom) h)

theorem parseArgsFrom_succ (fuel : Nat) (toks : List Token) :
    parseArgsFrom (fuel + 1) toks = (do
      let (x, mid) ← parseArgValue fuel (takeLabel (settle true toks)).2
      match settle true mid with
      | .closeParen :: rest => return ([((takeLabel (settle true toks)).1, x)], rest)
      | mid =>
        let mid ← requireComma true mid
        let (args, rest) ← parseArgsFrom fuel mid
        return (((takeLabel (settle true toks)).1, x) :: args, rest)) := by
  rw [parseArgsFrom]
  rfl

theorem settle_settle (n : Bool) (toks : List Token) :
    settle n (settle n toks) = settle n toks := by
  cases n with
  | false => rfl
  | true => exact List.dropWhile_idempotent _ toks

theorem reads_argsFrom {args : List (Option String × Expr)} (ih : Sound fuel)
    (h : parseArgsFrom (fuel + 1) toks = .ok (args, rest)) : Reads .argsFrom toks args rest := by
  rw [parseArgsFrom_succ, except_bind_eq_ok] at h
  obtain ⟨⟨x, mid⟩, hx, h⟩ := h
  dsimp only at h
  split at h
  · next mid' heq =>
    cases h
    exact .argsLast rfl (ih (g := .argValue) hx) heq
  · simp only [except_bind_eq_ok, requireComma_eq_ok, settle_settle] at h
    obtain ⟨mid', hcomma, ⟨args', rest'⟩, hargs, h⟩ := h
    cases h
    exact .argsMore rfl (ih (g := .argValue) hx) hcomma (ih (g := .argsFrom) hargs)

theorem reads_argValue (ih : Sound fuel) (h : parseArgValue (fuel + 1) toks = .ok (x, rest)) :
    Reads .argValue toks x rest := by
  rw [parseArgValue, except_bind_eq_ok] at h
  obtain ⟨⟨lhs, mid⟩, hlhs, hx⟩ := h
  exact .argValue (ih (g := .tier .or true) hlhs) (ih (g := .arrow true lhs) hx)

theorem reads_params {params : List (String × Option Expr)} (ih : Sound fuel)
    (h : parseParams (fuel + 1) n toks = .ok (params, rest)) :
    Reads (.params n) toks params rest := by
  simp only [parseParams, except_bind_eq_ok, requireOpen_eq_ok] at h
  obtain ⟨mid, hopen, h⟩ := h
  split at h
  · next mid' heq =>
    cases h
    exact .paramsNil hopen heq
  · next hstop => exact .params hopen (head?_ne hstop) (ih (g := .paramsFrom) h)

theorem parseParamsFrom_succ (fuel : Nat) (toks : List Token) :
    parseParamsFrom (fuel + 1) toks =
      match settle true toks with
      | .name s :: mid => do
        let (preset, mid) ← parsePreset fuel mid
        match settle true mid with
        | .closeParen :: rest => return ([(s, preset)], rest)
        | mid =>
          let mid ← requireComma true mid
          let (params, rest) ← parseParamsFrom fuel mid
          return ((s, preset) :: params, rest)
      | mid => .error (.inParameters mid.head?) := by
  rw [parseParamsFrom]
  cases settle true toks with
  | nil => rfl
  | cons t mid =>
    cases t
    case name s =>
      dsimp only
      rw [parsePreset]
      cases settle true mid with
      | nil => rfl
      | cons t mid =>
        cases t
        case assign =>
          dsimp only
          cases parseTier fuel .or true mid <;> rfl
        all_goals rfl
    all_goals rfl

theorem reads_preset {preset : Option Expr} (ih : Sound fuel)
    (h : parsePreset fuel toks = .ok (preset, rest)) : Reads .preset toks preset rest := by
  unfold parsePreset at h
  split at h
  · next mid heq =>
    rw [except_bind_eq_ok] at h
    obtain ⟨⟨x, mid'⟩, hx, h⟩ := h
    cases h
    exact .preset heq (ih (g := .tier .or true) hx)
  · next hstop =>
    cases h
    exact .presetNone (head?_ne hstop)

theorem reads_paramsFrom {params : List (String × Option Expr)} (ih : Sound fuel)
    (h : parseParamsFrom (fuel + 1) toks = .ok (params, rest)) :
    Reads .paramsFrom toks params rest := by
  rw [parseParamsFrom_succ] at h
  split at h
  · next s mid hname =>
    rw [except_bind_eq_ok] at h
    obtain ⟨⟨preset, mid'⟩, hpreset, h⟩ := h
    dsimp only at h
    split at h
    · next mid'' heq =>
      cases h
      exact .paramsLast hname (reads_preset ih hpreset) heq
    · simp only [except_bind_eq_ok, requireComma_eq_ok, settle_settle] at h
      obtain ⟨mid'', hcomma, ⟨params', rest'⟩, hparams, h⟩ := h
      cases h
      exact .paramsMore hname (reads_preset ih hpreset) hcomma (ih (g := .paramsFrom) hparams)
  · cases h

theorem reads_primary (ih : Sound fuel) (h : parsePrimary (fuel + 1) n toks = .ok (x, rest)) :
    Reads (.primary n) toks x rest := by
  rw [parsePrimary] at h
  split at h
  case h_8 s mid heq =>
    cases h
    exact .name heq
  case h_9 mid heq =>
    simp only [except_bind_eq_ok, except_pure_eq_ok, requireClose_eq_ok] at h
    obtain ⟨⟨y, mid'⟩, hy, mid'', hclose, h⟩ := h
    cases h
    exact .group heq (ih (g := .expr true) hy) hclose
  case h_10 mid heq =>
    simp only [except_bind_eq_ok] at h
    obtain ⟨⟨body, mid'⟩, hbody, h⟩ := h
    cases h
    exact .block heq (ih (g := .block) hbody)
  case h_11 mid heq =>
    simp only [except_bind_eq_ok] at h
    obtain ⟨⟨params, mid'⟩, hparams, ⟨body, mid''⟩, hbody, h⟩ := h
    cases h
    exact .function heq (ih (g := .params n) hparams) (ih (g := .expr n) hbody)
  case h_12 m₁ heq =>
    simp only [except_bind_eq_ok, requireOpen_eq_ok, requireClose_eq_ok] at h
    obtain ⟨m₂, hopen, ⟨test, m₃⟩, htest, m₄, hclose, ⟨yes, m₅⟩, hyes, h⟩ := h
    dsimp only at h
    split at h
    · next m₆ helse =>
      simp only [except_bind_eq_ok] at h
      obtain ⟨⟨no, m₇⟩, hno, h⟩ := h
      cases h
      exact .condElse heq hopen (ih (g := .expr true) htest) hclose (ih (g := .expr n) hyes) helse
        (ih (g := .expr n) hno)
    · next hstop =>
      cases h
      exact .cond heq hopen (ih (g := .expr true) htest) hclose (ih (g := .expr n) hyes)
        (head?_ne hstop)
  case h_13 m₁ heq =>
    simp only [except_bind_eq_ok, requireOpen_eq_ok] at h
    obtain ⟨m₂, hopen, h⟩ := h
    split at h
    · next s m₃ hname =>
      simp only [except_bind_eq_ok, requireIn_eq_ok, requireClose_eq_ok] at h
      obtain ⟨m₄, hin, ⟨items, m₅⟩, hitems, m₆, hclose, ⟨body, m₇⟩, hbody, h⟩ := h
      cases h
      exact .loop heq hopen hname hin (ih (g := .expr true) hitems) hclose (ih (g := .expr n) hbody)
    · cases h
  case h_14 => cases h
  all_goals
    next heq =>
    cases h
    exact .const heq rfl

theorem reads_block {body : List Expr} (ih : Sound fuel)
    (h : parseBlock (fuel + 1) toks = .ok (body, rest)) : Reads .block toks body rest := by
  rw [parseBlock] at h
  split at h
  · next mid heq =>
    cases h
    exact .blockNil heq
  · cases h
  · next hclose hnil =>
    have hne : (skipSeparators toks).head? ≠ some .closeBrace := head?_ne hclose
    rw [except_bind_eq_ok] at h
    obtain ⟨⟨x, mid⟩, hx, h⟩ := h
    have hmore (follows : Bool) (hends : follows = mid.head?.any Token.endsStatement)
        (h : (if follows then
          parseBlock fuel mid >>= fun read => pure (x :: read.1, read.2)
        else .error (.unexpected mid.head?)) = Except.ok (body, rest)) :
        Reads .block toks body rest := by
      cases follows with
      | false => cases h
      | true =>
        rw [if_pos rfl, except_bind_eq_ok] at h
        obtain ⟨⟨xs, mid'⟩, hxs, h⟩ := h
        cases h
        exact .blockMore hne (ih (g := .expr false) hx) hends.symm (ih (g := .block) hxs)
    refine hmore _ ?_ h
    cases mid with
    | nil => rfl
    | cons t mid => cases t <;> rfl

theorem reads_program {xs : List Expr} (ih : Sound fuel)
    (h : parseProgram (fuel + 1) toks = .ok xs) : Reads .program toks xs [] := by
  rw [parseProgram] at h
  split at h
  · next heq =>
    cases h
    exact .programNil heq
  · rw [except_bind_eq_ok] at h
    obtain ⟨⟨x, mid⟩, hx, h⟩ := h
    dsimp only at h
    split at h
    · next hends =>
      rw [except_bind_eq_ok] at h
      obtain ⟨ys, hys, h⟩ := h
      cases h
      have hall : mid.head?.all Token.isSeparator = true := by
        cases hmid : mid.head? with
        | none => rfl
        | some t =>
          rw [hmid] at hends
          exact hends
      refine .programMore (ih (g := .expr false) hx) hall (ih (g := .program) ?_)
      rw [Sought.parse, hys]
      rfl
    · cases h

theorem reads_of_parse : ∀ (fuel : Nat) {g : Sought} {toks : List Token} {a : g.Result}
    {rest : List Token}, g.parse fuel toks = .ok (a, rest) → Reads g toks a rest
  | 0, g, _, _, _, h => by cases g <;> cases h
  | fuel + 1, g, toks, a, rest, h => by
    have ih : Sound fuel := reads_of_parse fuel
    cases g with
    | expr n => exact reads_expr ih h
    | arrow n lhs => exact reads_arrow ih h
    | equal n => exact reads_equal ih h
    | tier t n => exact reads_tier ih h
    | tierRest t n lhs => exact reads_tierRest ih h
    | operand t n => exact reads_operand ih h
    | not n => exact reads_not ih h
    | signed n => exact reads_signed ih h
    | power n => exact reads_power ih h
    | selection n => exact reads_selection ih h
    | selectionRest n x => exact reads_selectionRest ih h
    | args => exact reads_args ih h
    | argsFrom => exact reads_argsFrom ih h
    | argValue => exact reads_argValue ih h
    | params n => exact reads_params ih h
    | paramsFrom => exact reads_paramsFrom ih h
    | preset => exact reads_preset ih h
    | primary n => exact reads_primary ih h
    | block => exact reads_block ih h
    | program =>
      obtain ⟨xs, hxs, heq⟩ := except_map_eq_ok.mp h
      cases heq
      exact reads_program ih hxs

end Expr

end ScriptBridge
