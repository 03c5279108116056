import ScriptBridge.Proofs.Syntax.Grammar

/-!
# What the rules read is parsed

Between two tokens that a parser reads lie fewer calls than the rank of what is sought, and each
token that is left stands for 32 steps (`Yields`). So what is read by the rules is what the parser
yields, given that many steps (`Reads.yields`), and the expressions of a list of tokens are those
that the rules read (`ofTokens_eq_ok`).
-/

namespace ScriptBridge.Expr

variable {fuel : Nat} {n : Bool} {toks rest : List Token} {x : Expr}

/-! ### Steps and tokens -/

/-- The calls between the parser of what is sought and the token that it starts with. -/
def Sought.rank : Sought → Nat
  | expr _ | argsFrom => 19
  | equal _ | argValue => 18
  | tier t _ => t.rank + 1
  | operand t _ => t.rank
  | not _ => 13
  | signed _ => 4
  | power _ => 3
  | selection _ => 2
  | args | block | program => 20
  | arrow _ _ | tierRest _ _ _ | selectionRest _ _ | params _ | paramsFrom | preset | primary _ => 1

/-- What continues something may leave all tokens, what starts something takes one at least. -/
def Sought.spare : Sought → Nat
  | arrow _ _ | tierRest _ _ _ | selectionRest _ _ | preset | program => 1
  | _ => 0

/-- With steps enough, the parser yields what is read. -/
def Yields (g : Sought) (toks : List Token) (a : g.Result) (rest : List Token) : Prop :=
  ∀ fuel, g.rank + 32 * toks.length ≤ fuel → g.parse fuel toks = .ok (a, rest)

theorem Sought.rank_pos (g : Sought) : 0 < g.rank := by
  cases g
  case tier t n => exact Nat.succ_pos _
  case operand t n => cases t <;> exact Nat.succ_pos _
  all_goals exact Nat.succ_pos _

theorem Sought.rank_le (g : Sought) : g.rank ≤ 20 := by
  cases g
  case tier t n =>
    have ht := t.rank_le
    show t.rank + 1 ≤ 20
    omega
  case operand t n =>
    have ht := t.rank_le
    show t.rank ≤ 20
    omega
  all_goals simp only [rank]; omega

theorem within_parsePreset (fuel : Nat) (toks : List Token) (h : 32 * toks.length ≤ fuel) :
    Within (toks.length + 1) (parsePreset fuel toks) := by
  have hsettle := length_settle_le true toks
  unfold parsePreset
  split
  · next mid heq =>
    rw [heq, List.length_cons] at hsettle
    refine (within_parseTier fuel .or true mid (by simp only [Tier.rank]; omega)).bind
      fun x rest hrest => ?_
    exact within_ok (by omega)
  · exact within_ok (by omega)

theorem Sought.within : ∀ (g : Sought) (fuel : Nat) (toks : List Token),
    g.rank + 32 * toks.length ≤ fuel → Within (toks.length + g.spare) (g.parse fuel toks)
  | expr n, fuel, toks, h => within_parseExpr fuel n toks h
  | arrow n lhs, fuel, toks, h => within_parseArrow fuel n lhs toks h
  | equal n, fuel, toks, h => within_parseEqual fuel n toks h
  | tier t n, fuel, toks, h => within_parseTier fuel t n toks h
  | tierRest t n lhs, fuel, toks, h => within_parseTierRest fuel t n lhs toks h
  | operand t n, fuel, toks, h => within_parseOperand fuel t n toks h
  | not n, fuel, toks, h => within_parseNot fuel n toks h
  | signed n, fuel, toks, h => within_parseSigned fuel n toks h
  | power n, fuel, toks, h => within_parsePower fuel n toks h
  | selection n, fuel, toks, h => within_parsePostfix fuel n toks h
  | selectionRest n x, fuel, toks, h => within_parsePostfixRest fuel n x toks h
  | args, fuel, toks, h => within_parseArgs fuel toks h
  | argsFrom, fuel, toks, h => within_parseArgsFrom fuel toks h
  | argValue, fuel, toks, h => within_parseArgValue fuel toks h
  | params n, fuel, toks, h => within_parseParams fuel n toks h
  | paramsFrom, fuel, toks, h => within_parseParamsFrom fuel toks h
  | preset, 0, toks, h => absurd h (by simp [rank])
  | preset, fuel + 1, toks, h => within_parsePreset fuel toks (by simp only [rank] at h; omega)
  | primary n, fuel, toks, h => within_parsePrimary fuel n toks h
  | block, fuel, toks, h => within_parseBlock fuel toks h
  | program, fuel, toks, h => by
    have hne := parseProgram_ne_exhausted fuel toks h
    rw [parse]
    cases hprogram : parseProgram fuel toks with
    | ok xs => exact within_ok (Nat.succ_pos _)
    | error e => exact fun he => hne (by rw [hprogram, he])

theorem Yields.length_lt {g : Sought} {a : g.Result} (h : Yields g toks a rest) :
    rest.length < toks.length + g.spare := by
  have hwithin := g.within _ toks (Nat.le_refl _)
  rw [h _ (Nat.le_refl _)] at hwithin
  exact hwithin

/-- What stands at the same tokens and has a smaller rank is parsed with a step less. -/
theorem Yields.same {g : Sought} {a : g.Result} {k : Nat} (h : Yields g toks a rest)
    (hfuel : k + 32 * toks.length ≤ fuel + 1) (hrank : g.rank < k) :
    g.parse fuel toks = .ok (a, rest) :=
  h fuel (by omega)

theorem Yields.later {g : Sought} {a : g.Result} {k : Nat} {mid : List Token}
    (h : Yields g mid a rest) (hfuel : k + 32 * toks.length ≤ fuel + 1)
    (hlength : mid.length < toks.length) : g.parse fuel mid = .ok (a, rest) := by
  have hrank := g.rank_le
  exact h fuel (by omega)

theorem yields_of_succ {g : Sought} {a : g.Result}
    (h : ∀ fuel, g.rank + 32 * toks.length ≤ fuel + 1 → g.parse (fuel + 1) toks = .ok (a, rest)) :
    Yields g toks a rest := by
  intro fuel hfuel
  have hpos := g.rank_pos
  obtain ⟨fuel, rfl⟩ : ∃ k, fuel = k + 1 := ⟨fuel - 1, by omega⟩
  exact h fuel hfuel

theorem except_ok_bind {α β : Type} (a : α) (f : α → Except SyntaxError β) :
    (Except.ok a >>= f) = f a := rfl

theorem yields_expr {lhs : Expr} {mid : List Token} (hlhs : Yields (.equal n) toks lhs mid)
    (hx : Yields (.arrow n lhs) (settle n mid) x rest) : Yields (.expr n) toks x rest := by
  refine yields_of_succ fun fuel hfuel => ?_
  have hmid : mid.length < toks.length := hlhs.length_lt
  have hsettle := length_settle_le n mid
  have hlhs : parseEqual fuel n toks = _ := hlhs.same hfuel (show 18 < 19 by omega)
  rw [Sought.parse, parseExpr, hlhs]
  exact hx.later hfuel (by omega)

theorem yields_arrow {t : Token} {mid : List Token} {lhs rhs : Expr} {global : Bool}
    (ht : t.arrow? = some global) (hrhs : Yields (.expr n) (skipNewlines mid) rhs rest)
    (hx : makeAssign lhs rhs global = .ok x) : Yields (.arrow n lhs) (t :: mid) x rest := by
  refine yields_of_succ fun fuel hfuel => ?_
  have hskip := length_skipNewlines_le mid
  have hrhs : parseExpr fuel n (skipNewlines mid) = _ :=
    hrhs.later hfuel (by rw [List.length_cons]; omega)
  cases t <;> cases ht
  all_goals
    simp only [Sought.parse, parseArrow, hrhs, except_ok_bind, hx]
    rfl

theorem yields_arrowStop {lhs : Expr} (h : toks.head?.bind Token.arrow? = none) :
    Yields (.arrow n lhs) toks lhs toks := by
  refine yields_of_succ fun fuel _ => ?_
  show parseArrow (fuel + 1) n lhs toks = _
  unfold parseArrow
  split
  · cases h
  · cases h
  · rfl

theorem yields_equal {lhs rhs : Expr} {mid mid' : List Token}
    (hlhs : Yields (.tier .or n) toks lhs mid) (hassign : settle n mid = .assign :: mid')
    (hrhs : Yields (.expr n) (skipNewlines mid') rhs rest)
    (hx : makeAssign lhs rhs false = .ok x) : Yields (.equal n) toks x rest := by
  refine yields_of_succ fun fuel hfuel => ?_
  have hmid : mid.length < toks.length := hlhs.length_lt
  have hmid' := length_lt_of_settle hassign
  have hskip := length_skipNewlines_le mid'
  have hlhs : parseTier fuel .or n toks = _ := hlhs.same hfuel (show 17 < 18 by omega)
  have hrhs : parseExpr fuel n (skipNewlines mid') = _ := hrhs.later hfuel (by omega)
  simp only [Sought.parse, parseEqual, hlhs, except_ok_bind, hassign, hrhs, hx]
  rfl

theorem yields_equalStop {mid : List Token} (hx : Yields (.tier .or n) toks x mid)
    (hstop : (settle n mid).head? ≠ some .assign) : Yields (.equal n) toks x (settle n mid) := by
  refine yields_of_succ fun fuel hfuel => ?_
  have hx : parseTier fuel .or n toks = _ := hx.same hfuel (show 17 < 18 by omega)
  rw [Sought.parse, parseEqual, hx, except_ok_bind]
  dsimp only
  split
  · next heq => exact absurd (by rw [heq]; rfl) hstop
  · rfl

theorem yields_tier {t : Tier} {lhs : Expr} {mid : List Token}
    (hlhs : Yields (.operand t n) toks lhs mid) (hx : Yields (.tierRest t n lhs) mid x rest) :
    Yields (.tier t n) toks x rest := by
  refine yields_of_succ fun fuel hfuel => ?_
  have hlhs' : parseOperand fuel t n toks = _ := hlhs.same hfuel (Nat.lt_succ_self t.rank)
  rw [Sought.parse, parseTier, hlhs']
  exact hx.later hfuel hlhs.length_lt

theorem yields_tierStop {t : Tier} {lhs : Expr}
    (hstop : (settle n toks).head?.bind t.operator? = none) :
    Yields (.tierRest t n lhs) toks lhs (settle n toks) := by
  refine yields_of_succ fun fuel _ => ?_
  rw [Sought.parse, parseTierRest]
  cases hsettle : settle n toks with
  | nil => rfl
  | cons s mid =>
    have hop : t.operator? s = none := by
      rw [hsettle] at hstop
      exact hstop
    simp only [hop]

theorem yields_tierMore {t : Tier} {lhs rhs : Expr} {s : Token} {op : BinaryOp}
    {mid mid' : List Token} (hsettle : settle n toks = s :: mid) (hop : t.operator? s = some op)
    (hrhs : Yields (.operand t n) (skipNewlines mid) rhs mid')
    (hx : Yields (.tierRest t n (binary op lhs rhs)) mid' x rest) :
    Yields (.tierRest t n lhs) toks x rest := by
  refine yields_of_succ fun fuel hfuel => ?_
  have hmid := length_lt_of_settle hsettle
  have hskip := length_skipNewlines_le mid
  have hmid' : mid'.length < (skipNewlines mid).length := hrhs.length_lt
  have hrhs : parseOperand fuel t n (skipNewlines mid) = _ := hrhs.later hfuel (by omega)
  have hx : parseTierRest fuel t n (binary op lhs rhs) mid' = _ := hx.later hfuel (by omega)
  simp only [Sought.parse, parseTierRest, hsettle, hop, hrhs, except_ok_bind, hx]

theorem Tier.rank_below {t below : Tier} (h : t.below? = some below) : below.rank + 1 < t.rank := by
  cases t <;> cases h <;> decide

theorem yields_operandTier {t below : Tier} (h : t.below? = some below)
    (hx : Yields (.tier below n) toks x rest) : Yields (.operand t n) toks x rest := by
  refine yields_of_succ fun fuel hfuel => ?_
  have hx : parseTier fuel below n toks = _ := hx.same hfuel (Tier.rank_below h)
  cases t <;> cases h <;> rw [Sought.parse, parseOperand, hx]

theorem yields_operandNot (hx : Yields (.not n) toks x rest) :
    Yields (.operand .and n) toks x rest := by
  refine yields_of_succ fun fuel hfuel => ?_
  rw [Sought.parse, parseOperand]
  exact hx.same hfuel (show 13 < 14 by omega)

theorem yields_operandSigned (hx : Yields (.signed n) toks x rest) :
    Yields (.operand .range n) toks x rest := by
  refine yields_of_succ fun fuel hfuel => ?_
  rw [Sought.parse, parseOperand]
  exact hx.same hfuel (show 4 < 5 by omega)

theorem yields_not {mid : List Token} (hbang : settle n toks = .bang :: mid)
    (hx : Yields (.not n) mid x rest) : Yields (.not n) toks (unary .not x) rest := by
  refine yields_of_succ fun fuel hfuel => ?_
  have hx : parseNot fuel n mid = _ := hx.later hfuel (length_lt_of_settle hbang)
  simp only [Sought.parse, parseNot, hbang, hx, except_ok_bind]
  rfl

/-- What stands at the settled tokens and has a smaller rank is parsed with a step less. -/
theorem Yields.settled {g : Sought} {a : g.Result} {k : Nat} (h : Yields g (settle n toks) a rest)
    (hfuel : k + 32 * toks.length ≤ fuel + 1) (hrank : g.rank < k) :
    g.parse fuel (settle n toks) = .ok (a, rest) := by
  have hsettle := length_settle_le n toks
  exact h fuel (by omega)

theorem yields_notStop (hstop : (settle n toks).head? ≠ some .bang)
    (hx : Yields (.tier .comparison n) (settle n toks) x rest) : Yields (.not n) toks x rest := by
  refine yields_of_succ fun fuel hfuel => ?_
  have hx : parseTier fuel .comparison n (settle n toks) = _ :=
    hx.settled hfuel (show 12 < 13 by omega)
  rw [Sought.parse, parseNot]
  split
  · next heq => exact absurd (by rw [heq]; rfl) hstop
  · exact hx

theorem yields_minus {mid : List Token} (hminus : settle n toks = .minus :: mid)
    (hx : Yields (.signed n) mid x rest) : Yields (.signed n) toks (unary .neg x) rest := by
  refine yields_of_succ fun fuel hfuel => ?_
  have hx : parseSigned fuel n mid = _ := hx.later hfuel (length_lt_of_settle hminus)
  simp only [Sought.parse, parseSigned, hminus, hx, except_ok_bind]
  rfl

theorem yields_plus {mid : List Token} (hplus : settle n toks = .plus :: mid)
    (hx : Yields (.signed n) mid x rest) : Yields (.signed n) toks x rest := by
  refine yields_of_succ fun fuel hfuel => ?_
  have hx : parseSigned fuel n mid = _ := hx.later hfuel (length_lt_of_settle hplus)
  simp only [Sought.parse, parseSigned, hplus, hx]

theorem yields_signedStop (hminus : (settle n toks).head? ≠ some .minus)
    (hplus : (settle n toks).head? ≠ some .plus) (hx : Yields (.power n) (settle n toks) x rest) :
    Yields (.signed n) toks x rest := by
  refine yields_of_succ fun fuel hfuel => ?_
  have hx : parsePower fuel n (settle n toks) = _ := hx.settled hfuel (show 3 < 4 by omega)
  rw [Sought.parse, parseSigned]
  split
  · next heq => exact absurd (by rw [heq]; rfl) hminus
  · next heq => exact absurd (by rw [heq]; rfl) hplus
  · exact hx

theorem yields_powerStop {mid : List Token} (hx : Yields (.selection n) toks x mid)
    (hstop : (settle n mid).head? ≠ some .caret) : Yields (.power n) toks x (settle n mid) := by
  refine yields_of_succ fun fuel hfuel => ?_
  have hx : parsePostfix fuel n toks = _ := hx.same hfuel (show 2 < 3 by omega)
  rw [Sought.parse, parsePower, hx, except_ok_bind]
  dsimp only
  split
  · next heq => exact absurd (by rw [heq]; rfl) hstop
  · rfl

theorem yields_power {base exponent : Expr} {mid mid' : List Token}
    (hbase : Yields (.selection n) toks base mid) (hcaret : settle n mid = .caret :: mid')
    (hexponent : Yields (.signed n) (skipNewlines mid') exponent rest) :
    Yields (.power n) toks (binary .pow base exponent) rest := by
  refine yields_of_succ fun fuel hfuel => ?_
  have hmid : mid.length < toks.length := hbase.length_lt
  have hmid' := length_lt_of_settle hcaret
  have hskip := length_skipNewlines_le mid'
  have hbase : parsePostfix fuel n toks = _ := hbase.same hfuel (show 2 < 3 by omega)
  have hexponent : parseSigned fuel n (skipNewlines mid') = _ := hexponent.later hfuel (by omega)
  simp only [Sought.parse, parsePower, hbase, except_ok_bind, hcaret, hexponent]
  rfl

theorem yields_selection {y : Expr} {mid : List Token} (hx : Yields (.primary n) toks x mid)
    (hy : Yields (.selectionRest n x) mid y rest) : Yields (.selection n) toks y rest := by
  refine yields_of_succ fun fuel hfuel => ?_
  have hx' : parsePrimary fuel n toks = _ := hx.same hfuel (show 1 < 2 by omega)
  rw [Sought.parse, parsePostfix, hx']
  exact hy.later hfuel hx.length_lt

theorem yields_selectionStop (hstop : toks.head?.any Token.selects = false) :
    Yields (.selectionRest n x) toks x toks := by
  refine yields_of_succ fun fuel _ => ?_
  show parsePostfixRest (fuel + 1) n x toks = _
  unfold parsePostfixRest
  split
  case h_5 => rfl
  all_goals cases hstop

theorem yields_call {y : Expr} {args : List (Option String × Expr)} {mid : List Token}
    (hargs : Yields .args toks args mid) (hy : Yields (.selectionRest n (call x args)) mid y rest) :
    Yields (.selectionRest n x) (.openParen :: toks) y rest := by
  refine yields_of_succ fun fuel hfuel => ?_
  have hmid : mid.length < toks.length := hargs.length_lt
  have hargs : parseArgs fuel toks = _ := hargs.later hfuel (by rw [List.length_cons]; omega)
  have hy : parsePostfixRest fuel n (call x args) mid = _ :=
    hy.later hfuel (by rw [List.length_cons]; omega)
  simp only [Sought.parse, parsePostfixRest, hargs, except_ok_bind, hy]

theorem yields_index {y i : Expr} {mid mid' : List Token} (hi : Yields (.expr true) toks i mid)
    (hclose : settle true mid = .closeBracket :: mid')
    (hy : Yields (.selectionRest n (index x i)) mid' y rest) :
    Yields (.selectionRest n x) (.openBracket :: toks) y rest := by
  refine yields_of_succ fun fuel hfuel => ?_
  have hmid : mid.length < toks.length := hi.length_lt
  have hmid' := length_lt_of_settle hclose
  have hi : parseExpr fuel true toks = _ := hi.later hfuel (by rw [List.length_cons]; omega)
  have hy : parsePostfixRest fuel n (index x i) mid' = _ :=
    hy.later hfuel (by rw [List.length_cons]; omega)
  simp only [Sought.parse, parsePostfixRest, hi, except_ok_bind,
    requireBracket_eq_ok.mpr hclose, hy]

theorem yields_element {y i : Expr} {mid mid' mid'' : List Token}
    (hi : Yields (.expr true) toks i mid) (hclose : settle true mid = .closeBracket :: mid')
    (hclose' : settle true mid' = .closeBracket :: mid'')
    (hy : Yields (.selectionRest n (element x i)) mid'' y rest) :
    Yields (.selectionRest n x) (.openElement :: toks) y rest := by
  refine yields_of_succ fun fuel hfuel => ?_
  have hmid : mid.length < toks.length := hi.length_lt
  have hmid' := length_lt_of_settle hclose
  have hmid'' := length_lt_of_settle hclose'
  have hi : parseExpr fuel true toks = _ := hi.later hfuel (by rw [List.length_cons]; omega)
  have hy : parsePostfixRest fuel n (element x i) mid'' = _ :=
    hy.later hfuel (by rw [List.length_cons]; omega)
  simp only [Sought.parse, parsePostfixRest, hi, except_ok_bind, requireBracket_eq_ok.mpr hclose,
    requireBracket_eq_ok.mpr hclose', hy]

theorem yields_dollar {y : Expr} {t : Token} {s : String} {mid : List Token}
    (hsettle : settle n toks = t :: mid) (ht : t.label? = some s)
    (hy : Yields (.selectionRest n (dollar x s)) mid y rest) :
    Yields (.selectionRest n x) (.dollar :: toks) y rest := by
  refine yields_of_succ fun fuel hfuel => ?_
  have hmid := length_lt_of_settle hsettle
  have hy : parsePostfixRest fuel n (dollar x s) mid = _ :=
    hy.later hfuel (by rw [List.length_cons]; omega)
  cases t <;> cases ht <;> simp only [Sought.parse, parsePostfixRest, hsettle, hy]

theorem yields_argsNil (hclose : settle true toks = .closeParen :: rest) :
    Yields .args toks [] rest := by
  refine yields_of_succ fun fuel _ => ?_
  simp only [Sought.parse, parseArgs, hclose]

theorem yields_args {args : List (Option String × Expr)}
    (hstop : (settle true toks).head? ≠ some .closeParen)
    (hargs : Yields .argsFrom (settle true toks) args rest) : Yields .args toks args rest := by
  refine yields_of_succ fun fuel hfuel => ?_
  have hargs : parseArgsFrom fuel (settle true toks) = _ :=
    hargs.settled hfuel (show 19 < 20 by omega)
  rw [Sought.parse, parseArgs]
  split
  · next heq => exact absurd (by rw [heq]; rfl) hstop
  · exact hargs

theorem length_takeLabel_le (toks : List Token) : (takeLabel toks).2.length ≤ toks.length := by
  unfold takeLabel
  split
  all_goals simp only [List.length_cons]
  all_goals omega

/-- The value of an argument is parsed with a step less than the argument. -/
theorem Yields.argValue {label : Option String} {mid : List Token} {k : Nat}
    (hlabel : takeLabel (settle true toks) = (label, mid)) (hx : Yields .argValue mid x rest)
    (hfuel : k + 32 * toks.length ≤ fuel + 1) (hrank : 18 < k) :
    parseArgValue fuel mid = .ok (x, rest) ∧ rest.length < toks.length := by
  have hsettle := length_settle_le true toks
  have htake := length_takeLabel_le (settle true toks)
  rw [hlabel] at htake
  have hrest : rest.length < mid.length := hx.length_lt
  have hmid : mid.length ≤ (settle true toks).length := htake
  exact ⟨hx fuel (show 18 + _ ≤ _ by omega), by omega⟩

theorem yields_argsLast {label : Option String} {mid mid' : List Token}
    (hlabel : takeLabel (settle true toks) = (label, mid)) (hx : Yields .argValue mid x mid')
    (hclose : settle true mid' = .closeParen :: rest) :
    Yields .argsFrom toks [(label, x)] rest := by
  refine yields_of_succ fun fuel hfuel => ?_
  obtain ⟨hx, -⟩ := hx.argValue hlabel hfuel (show 18 < 19 by omega)
  simp only [Sought.parse, parseArgsFrom_succ, hlabel, hx, except_ok_bind, hclose]
  rfl

theorem yields_argsMore {label : Option String} {mid mid' mid'' : List Token}
    {args : List (Option String × Expr)} (hlabel : takeLabel (settle true toks) = (label, mid))
    (hx : Yields .argValue mid x mid') (hcomma : settle true mid' = .comma :: mid'')
    (hargs : Yields .argsFrom mid'' args rest) :
    Yields .argsFrom toks ((label, x) :: args) rest := by
  refine yields_of_succ fun fuel hfuel => ?_
  obtain ⟨hx, hmid'⟩ := hx.argValue hlabel hfuel (show 18 < 19 by omega)
  have hmid'' := length_lt_of_settle hcomma
  have hargs : parseArgsFrom fuel mid'' = _ := hargs.later hfuel (by omega)
  have hrequire : requireComma true (.comma :: mid'') = .ok mid'' := rfl
  simp only [Sought.parse, parseArgsFrom_succ, hlabel, hx, except_ok_bind, hcomma, hrequire, hargs]
  rfl

theorem yields_argValue {lhs : Expr} {mid : List Token}
    (hlhs : Yields (.tier .or true) toks lhs mid)
    (hx : Yields (.arrow true lhs) (settle true mid) x rest) : Yields .argValue toks x rest := by
  refine yields_of_succ fun fuel hfuel => ?_
  have hmid : mid.length < toks.length := hlhs.length_lt
  have hsettle := length_settle_le true mid
  have hlhs : parseTier fuel .or true toks = _ := hlhs.same hfuel (show 17 < 18 by omega)
  rw [Sought.parse, parseArgValue, hlhs]
  exact hx.later hfuel (by omega)

theorem yields_paramsNil {mid : List Token} (hopen : settle n toks = .openParen :: mid)
    (hclose : settle true mid = .closeParen :: rest) : Yields (.params n) toks [] rest := by
  refine yields_of_succ fun fuel _ => ?_
  simp only [Sought.parse, parseParams, requireOpen_eq_ok.mpr hopen, except_ok_bind, hclose]
  rfl

theorem yields_params {mid : List Token} {params : List (String × Option Expr)}
    (hopen : settle n toks = .openParen :: mid)
    (hstop : (settle true mid).head? ≠ some .closeParen)
    (hparams : Yields .paramsFrom (settle true mid) params rest) :
    Yields (.params n) toks params rest := by
  refine yields_of_succ fun fuel hfuel => ?_
  have hmid := length_lt_of_settle hopen
  have hsettle := length_settle_le true mid
  have hparams : parseParamsFrom fuel (settle true mid) = _ := hparams.later hfuel (by omega)
  rw [Sought.parse, parseParams, requireOpen_eq_ok.mpr hopen, except_ok_bind]
  split
  · next heq => exact absurd (by rw [heq]; rfl) hstop
  · exact hparams

/-- The default of a parameter is parsed with a step less than the parameter. -/
theorem Yields.preset {s : String} {mid : List Token} {preset : Option Expr} {k : Nat}
    (hname : settle true toks = .name s :: mid) (hpreset : Yields .preset mid preset rest)
    (hfuel : k + 32 * toks.length ≤ fuel + 1) :
    parsePreset fuel mid = .ok (preset, rest) ∧ rest.length < toks.length := by
  have hmid := length_lt_of_settle hname
  have hrest : rest.length < mid.length + 1 := hpreset.length_lt
  exact ⟨hpreset (fuel + 1) (show 1 + _ ≤ _ by omega), by omega⟩

theorem yields_paramsLast {s : String} {mid mid' : List Token} {preset : Option Expr}
    (hname : settle true toks = .name s :: mid) (hpreset : Yields .preset mid preset mid')
    (hclose : settle true mid' = .closeParen :: rest) :
    Yields .paramsFrom toks [(s, preset)] rest := by
  refine yields_of_succ fun fuel hfuel => ?_
  obtain ⟨hpreset, -⟩ := hpreset.preset hname hfuel
  simp only [Sought.parse, parseParamsFrom_succ, hname, hpreset, except_ok_bind, hclose]
  rfl

theorem yields_paramsMore {s : String} {mid mid' mid'' : List Token} {preset : Option Expr}
    {params : List (String × Option Expr)} (hname : settle true toks = .name s :: mid)
    (hpreset : Yields .preset mid preset mid') (hcomma : settle true mid' = .comma :: mid'')
    (hparams : Yields .paramsFrom mid'' params rest) :
    Yields .paramsFrom toks ((s, preset) :: params) rest := by
  refine yields_of_succ fun fuel hfuel => ?_
  obtain ⟨hpreset, hmid'⟩ := hpreset.preset hname hfuel
  have hmid'' := length_lt_of_settle hcomma
  have hparams : parseParamsFrom fuel mid'' = _ := hparams.later hfuel (by omega)
  have hrequire : requireComma true (.comma :: mid'') = .ok mid'' := rfl
  simp only [Sought.parse, parseParamsFrom_succ, hname, hpreset, except_ok_bind, hcomma, hrequire,
    hparams]
  rfl

theorem yields_presetNone (hstop : (settle true toks).head? ≠ some .assign) :
    Yields .preset toks none (settle true toks) := by
  refine yields_of_succ fun fuel _ => ?_
  show parsePreset fuel toks = _
  unfold parsePreset
  split
  · next heq => exact absurd (by rw [heq]; rfl) hstop
  · rfl

theorem yields_preset {mid : List Token} (hassign : settle true toks = .assign :: mid)
    (hx : Yields (.tier .or true) mid x rest) : Yields .preset toks (some x) rest := by
  refine yields_of_succ fun fuel hfuel => ?_
  have hx : parseTier fuel .or true mid = _ := hx.later hfuel (length_lt_of_settle hassign)
  simp only [Sought.parse, parsePreset, hassign, hx, except_ok_bind]
  rfl

theorem yields_const {t : Token} {v : RValue} (hsettle : settle n toks = t :: rest)
    (ht : t.constant? = some v) : Yields (.primary n) toks (const v) rest := by
  refine yields_of_succ fun fuel _ => ?_
  cases t <;> cases ht <;> simp only [Sought.parse, parsePrimary, hsettle]

theorem yields_name {s : String} (hsettle : settle n toks = .name s :: rest) :
    Yields (.primary n) toks (name s) rest := by
  refine yields_of_succ fun fuel _ => ?_
  simp only [Sought.parse, parsePrimary, hsettle]

theorem yields_group {mid mid' : List Token} (hopen : settle n toks = .openParen :: mid)
    (hx : Yields (.expr true) mid x mid') (hclose : settle true mid' = .closeParen :: rest) :
    Yields (.primary n) toks x rest := by
  refine yields_of_succ fun fuel hfuel => ?_
  have hx : parseExpr fuel true mid = _ := hx.later hfuel (length_lt_of_settle hopen)
  simp only [Sought.parse, parsePrimary, hopen, hx, except_ok_bind, requireClose_eq_ok.mpr hclose]
  rfl

theorem yields_block {mid : List Token} {body : List Expr}
    (hopen : settle n toks = .openBrace :: mid) (hbody : Yields .block mid body rest) :
    Yields (.primary n) toks (block body) rest := by
  refine yields_of_succ fun fuel hfuel => ?_
  have hbody : parseBlock fuel mid = _ := hbody.later hfuel (length_lt_of_settle hopen)
  simp only [Sought.parse, parsePrimary, hopen, hbody, except_ok_bind]
  rfl

theorem yields_function {mid mid' : List Token} {params : List (String × Option Expr)} {body : Expr}
    (hword : settle n toks = .kwFunction :: mid) (hparams : Yields (.params n) mid params mid')
    (hbody : Yields (.expr n) (skipNewlines mid') body rest) :
    Yields (.primary n) toks (function params body) rest := by
  refine yields_of_succ fun fuel hfuel => ?_
  have hmid := length_lt_of_settle hword
  have hmid' : mid'.length < mid.length := hparams.length_lt
  have hskip := length_skipNewlines_le mid'
  have hparams : parseParams fuel n mid = _ := hparams.later hfuel hmid
  have hbody : parseExpr fuel n (skipNewlines mid') = _ := hbody.later hfuel (by omega)
  simp only [Sought.parse, parsePrimary, hword, hparams, except_ok_bind, hbody]
  rfl

theorem yields_cond {m₁ m₂ m₃ m₄ : List Token} {test yes : Expr}
    (hword : settle n toks = .kwIf :: m₁) (hopen : settle n m₁ = .openParen :: m₂)
    (htest : Yields (.expr true) m₂ test m₃) (hclose : settle true m₃ = .closeParen :: m₄)
    (hyes : Yields (.expr n) (skipNewlines m₄) yes rest)
    (hstop : (skipNewlines rest).head? ≠ some .kwElse) :
    Yields (.primary n) toks (cond test yes none) rest := by
  refine yields_of_succ fun fuel hfuel => ?_
  have hm₁ := length_lt_of_settle hword
  have hm₂ := length_lt_of_settle hopen
  have hm₃ : m₃.length < m₂.length := htest.length_lt
  have hm₄ := length_lt_of_settle hclose
  have hskip := length_skipNewlines_le m₄
  have htest : parseExpr fuel true m₂ = _ := htest.later hfuel (by omega)
  have hyes : parseExpr fuel n (skipNewlines m₄) = _ := hyes.later hfuel (by omega)
  simp only [Sought.parse, parsePrimary, hword, requireOpen_eq_ok.mpr hopen, except_ok_bind, htest,
    requireClose_eq_ok.mpr hclose, hyes]
  split
  · next heq => exact absurd (by rw [heq]; rfl) hstop
  · rfl

theorem yields_condElse {m₁ m₂ m₃ m₄ m₅ m₆ : List Token} {test yes no : Expr}
    (hword : settle n toks = .kwIf :: m₁) (hopen : settle n m₁ = .openParen :: m₂)
    (htest : Yields (.expr true) m₂ test m₃) (hclose : settle true m₃ = .closeParen :: m₄)
    (hyes : Yields (.expr n) (skipNewlines m₄) yes m₅) (helse : skipNewlines m₅ = .kwElse :: m₆)
    (hno : Yields (.expr n) (skipNewlines m₆) no rest) :
    Yields (.primary n) toks (cond test yes (some no)) rest := by
  refine yields_of_succ fun fuel hfuel => ?_
  have hm₁ := length_lt_of_settle hword
  have hm₂ := length_lt_of_settle hopen
  have hm₃ : m₃.length < m₂.length := htest.length_lt
  have hm₄ := length_lt_of_settle hclose
  have hskip := length_skipNewlines_le m₄
  have hm₅ : m₅.length < (skipNewlines m₄).length := hyes.length_lt
  have hm₆ : m₆.length < m₅.length := length_lt_of_settle (show settle true m₅ = _ from helse)
  have hskip' := length_skipNewlines_le m₆
  have htest : parseExpr fuel true m₂ = _ := htest.later hfuel (by omega)
  have hyes : parseExpr fuel n (skipNewlines m₄) = _ := hyes.later hfuel (by omega)
  have hno : parseExpr fuel n (skipNewlines m₆) = _ := hno.later hfuel (by omega)
  simp only [Sought.parse, parsePrimary, hword, requireOpen_eq_ok.mpr hopen, except_ok_bind, htest,
    requireClose_eq_ok.mpr hclose, hyes, helse, hno]
  rfl

theorem yields_loop {m₁ m₂ m₃ m₄ m₅ m₆ : List Token} {s : String} {items body : Expr}
    (hword : settle n toks = .kwFor :: m₁) (hopen : settle n m₁ = .openParen :: m₂)
    (hname : settle true m₂ = .name s :: m₃) (hin : settle true m₃ = .kwIn :: m₄)
    (hitems : Yields (.expr true) m₄ items m₅) (hclose : settle true m₅ = .closeParen :: m₆)
    (hbody : Yields (.expr n) (skipNewlines m₆) body rest) :
    Yields (.primary n) toks (loop s items body) rest := by
  refine yields_of_succ fun fuel hfuel => ?_
  have hm₁ := length_lt_of_settle hword
  have hm₂ := length_lt_of_settle hopen
  have hm₃ := length_lt_of_settle hname
  have hm₄ := length_lt_of_settle hin
  have hm₅ : m₅.length < m₄.length := hitems.length_lt
  have hm₆ := length_lt_of_settle hclose
  have hskip := length_skipNewlines_le m₆
  have hitems : parseExpr fuel true m₄ = _ := hitems.later hfuel (by omega)
  have hbody : parseExpr fuel n (skipNewlines m₆) = _ := hbody.later hfuel (by omega)
  simp only [Sought.parse, parsePrimary, hword, requireOpen_eq_ok.mpr hopen, except_ok_bind, hname,
    requireIn_eq_ok.mpr hin, hitems, requireClose_eq_ok.mpr hclose, hbody]
  rfl

theorem yields_blockNil (hclose : skipSeparators toks = .closeBrace :: rest) :
    Yields .block toks [] rest := by
  refine yields_of_succ fun fuel _ => ?_
  simp only [Sought.parse, parseBlock, hclose]

theorem yields_blockMore {mid : List Token} {xs : List Expr}
    (hne : (skipSeparators toks).head? ≠ some .closeBrace)
    (hx : Yields (.expr false) (skipSeparators toks) x mid)
    (hends : mid.head?.any Token.endsStatement = true) (hxs : Yields .block mid xs rest) :
    Yields .block toks (x :: xs) rest := by
  refine yields_of_succ fun fuel hfuel => ?_
  have hskip := length_skipSeparators_le toks
  have hmid : mid.length < (skipSeparators toks).length := hx.length_lt
  have hx : parseExpr fuel false (skipSeparators toks) = _ :=
    hx fuel (show 19 + _ ≤ fuel by change 20 + _ ≤ _ at hfuel; omega)
  have hxs : parseBlock fuel mid = _ := hxs.later hfuel (by omega)
  rw [Sought.parse, parseBlock]
  split
  · next heq => exact absurd (by rw [heq]; rfl) hne
  · next heq =>
    rw [heq] at hmid
    exact absurd hmid (Nat.not_lt_zero _)
  · rw [hx, except_ok_bind]
    dsimp only
    cases mid with
    | nil => cases hends
    | cons t mid =>
      rw [hxs]
      cases t
      case closeBrace => rfl
      case newline => rfl
      case semicolon => rfl
      all_goals cases hends

theorem yields_programNil (h : skipSeparators toks = []) : Yields .program toks [] [] := by
  refine yields_of_succ fun fuel _ => ?_
  simp only [Sought.parse, parseProgram, h]
  rfl

theorem yields_programMore {mid : List Token} {xs : List Expr}
    (hx : Yields (.expr false) (skipSeparators toks) x mid)
    (hends : mid.head?.all Token.isSeparator = true) (hxs : Yields .program mid xs []) :
    Yields .program toks (x :: xs) [] := by
  refine yields_of_succ fun fuel hfuel => ?_
  have hskip := length_skipSeparators_le toks
  have hmid : mid.length < (skipSeparators toks).length := hx.length_lt
  have hx : parseExpr fuel false (skipSeparators toks) = _ :=
    hx fuel (show 19 + _ ≤ fuel by change 20 + _ ≤ _ at hfuel; omega)
  obtain ⟨ys, hys, heq⟩ := except_map_eq_ok.mp (hxs.later hfuel (by omega))
  cases heq
  have hfollows : (mid.head?.map Token.isSeparator).getD true = true := by
    cases mid with
    | nil => rfl
    | cons t mid => exact hends
  rw [Sought.parse, parseProgram]
  split
  · next heq =>
    rw [heq] at hmid
    exact absurd hmid (Nat.not_lt_zero _)
  · simp only [hx, except_ok_bind, hfollows, hys, if_true]
    rfl

/-! ### All rules -/

/-- What is read by the rules is what the parser yields, given steps enough. -/
theorem Reads.yields {g : Sought} {a : g.Result} (h : Reads g toks a rest) :
    Yields g toks a rest := by
  induction h with
  | expr _ _ hlhs hx => exact yields_expr hlhs hx
  | arrowStop h => exact yields_arrowStop h
  | arrow ht _ hx hrhs => exact yields_arrow ht hrhs hx
  | equalStop _ hstop hx => exact yields_equalStop hx hstop
  | equal _ hassign _ hx hlhs hrhs => exact yields_equal hlhs hassign hrhs hx
  | tier _ _ hlhs hx => exact yields_tier hlhs hx
  | tierStop hstop => exact yields_tierStop hstop
  | tierMore hsettle hop _ _ hrhs hx => exact yields_tierMore hsettle hop hrhs hx
  | operandTier h _ hx => exact yields_operandTier h hx
  | operandNot _ hx => exact yields_operandNot hx
  | operandSigned _ hx => exact yields_operandSigned hx
  | not hbang _ hx => exact yields_not hbang hx
  | notStop hstop _ hx => exact yields_notStop hstop hx
  | minus hminus _ hx => exact yields_minus hminus hx
  | plus hplus _ hx => exact yields_plus hplus hx
  | signedStop hminus hplus _ hx => exact yields_signedStop hminus hplus hx
  | powerStop _ hstop hx => exact yields_powerStop hx hstop
  | power _ hcaret _ hbase hexponent => exact yields_power hbase hcaret hexponent
  | selection _ _ hx hy => exact yields_selection hx hy
  | selectionStop hstop => exact yields_selectionStop hstop
  | call _ _ hargs hy => exact yields_call hargs hy
  | index _ hclose _ hi hy => exact yields_index hi hclose hy
  | element _ hclose hclose' _ hi hy => exact yields_element hi hclose hclose' hy
  | dollar hsettle ht _ hy => exact yields_dollar hsettle ht hy
  | argsNil hclose => exact yields_argsNil hclose
  | args hstop _ hargs => exact yields_args hstop hargs
  | argsLast hlabel _ hclose hx => exact yields_argsLast hlabel hx hclose
  | argsMore hlabel _ hcomma _ hx hargs => exact yields_argsMore hlabel hx hcomma hargs
  | argValue _ _ hlhs hx => exact yields_argValue hlhs hx
  | paramsNil hopen hclose => exact yields_paramsNil hopen hclose
  | params hopen hstop _ hparams => exact yields_params hopen hstop hparams
  | paramsLast hname _ hclose hpreset => exact yields_paramsLast hname hpreset hclose
  | paramsMore hname _ hcomma _ hpreset hparams =>
    exact yields_paramsMore hname hpreset hcomma hparams
  | presetNone hstop => exact yields_presetNone hstop
  | preset hassign _ hx => exact yields_preset hassign hx
  | const hsettle ht => exact yields_const hsettle ht
  | name hsettle => exact yields_name hsettle
  | group hopen _ hclose hx => exact yields_group hopen hx hclose
  | block hopen _ hbody => exact yields_block hopen hbody
  | function hword _ _ hparams hbody => exact yields_function hword hparams hbody
  | cond hword hopen _ hclose _ hstop htest hyes =>
    exact yields_cond hword hopen htest hclose hyes hstop
  | condElse hword hopen _ hclose _ helse _ htest hyes hno =>
    exact yields_condElse hword hopen htest hclose hyes helse hno
  | loop hword hopen hname hin _ hclose _ hitems hbody =>
    exact yields_loop hword hopen hname hin hitems hclose hbody
  | blockNil hclose => exact yields_blockNil hclose
  | blockMore hne _ hends _ hx hxs => exact yields_blockMore hne hx hends hxs
  | programNil h => exact yields_programNil h
  | programMore _ hends _ hx hxs => exact yields_programMore hx hends hxs

/-- The expressions of a list of tokens are those that the rules read. -/
theorem ofTokens_eq_ok {xs : List Expr} : ofTokens toks = .ok xs ↔ Reads .program toks xs [] := by
  constructor
  · intro h
    refine reads_of_parse (parseFuel toks.length) ?_
    rw [ofTokens] at h
    rw [Sought.parse, h]
    rfl
  · intro h
    obtain ⟨ys, hys, heq⟩ := except_map_eq_ok.mp
      (h.yields (parseFuel toks.length) (show 20 + _ ≤ _ by rw [parseFuel]; omega))
    cases heq
    exact hys

end ScriptBridge.Expr
