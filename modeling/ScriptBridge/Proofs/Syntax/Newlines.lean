import ScriptBridge.Proofs.Syntax.Brackets
import ScriptBridge.Proofs.Syntax.Division

/-!
# Newlines inside brackets

What is read at tokens is read at the same tokens with newlines between them that mean nothing
(`Reads.spread`): each parser starts at a spot of its own kind (`Sought.Fits`) and leaves a spot of
another kind (`Sought.Leaves`), and the rules keep to these. So a newline inside brackets may be put
between any two tokens of a program of which the second does not belong to the first
(`ofTokens_spread`), at any place of the text between them (`readProgram_newline`).
-/

namespace ScriptBridge.Expr

variable {n : Bool} {toks rest mid mid' : List Token} {x y lhs rhs : Expr}

/-- Where what is sought may start, at tokens and at the same tokens with newlines between them. -/
def Sought.Fits (c : Spot) (toks toks' : List Token) : Sought → Prop
  | args | argsFrom => c.brackets.head? = some .call ∧ c.lead = .argument
  | params n => c.inside = n ∧ c.lead = .header
  | paramsFrom => c.brackets.head? = some .header ∧ c.lead = .operand
  | preset => c.inside = true ∧ c.ended = true
  | argValue => c.inside = true ∧ c.opens = true
  -- An arrow is looked for after the newlines, so none may have been put before it.
  | arrow n _ => c.inside = n ∧ c.ended = true ∧ settle n toks' = toks'
  | tierRest _ n _ | selectionRest n _ => c.inside = n ∧ c.ended = true
  | block =>
    c.brackets.head? = some .brace ∧
      (c.lead = .operand ∨ toks.head?.any Token.endsStatement = true)
  | program =>
    c.brackets = [] ∧ (c.lead = .operand ∨ toks.head?.all Token.isSeparator = true)
  | expr n | equal n | tier _ n | operand _ n | not n | signed n | power n | selection n
  | primary n => c.inside = n ∧ c.opens = true

/-- The spot after what has been read, given the one before it. -/
def Sought.Leaves (c c' : Spot) : Sought → Prop
  | args | argsFrom | block => c'.brackets = c.brackets.tail ∧ c'.ended = true
  | params _ => c'.brackets = c.brackets ∧ c'.lead = .operand
  | paramsFrom => c'.brackets = c.brackets.tail ∧ c'.lead = .operand
  | program => True
  | _ => c'.brackets = c.brackets ∧ c'.ended = true

/-- What is read is the same with newlines between the tokens that mean nothing. -/
def Survives (g : Sought) (toks : List Token) (a : g.Result) (rest : List Token) : Prop :=
  ∀ ⦃c : Spot⦄ ⦃toks' : List Token⦄, Spread c toks toks' → g.Fits c toks toks' →
    ∃ (c' : Spot) (rest' : List Token), g.Leaves c c' ∧ Reads g toks' a rest' ∧
      Spread c' rest rest'

/-! ### Assignments and operators -/

theorem survives_expr (hlhs : Survives (.equal n) toks lhs mid)
    (hx : Survives (.arrow n lhs) (settle n mid) x rest) : Survives (.expr n) toks x rest := by
  rintro c toks' h ⟨hn, hopens⟩
  obtain ⟨c₁, mid', ⟨hbrackets₁, hended₁⟩, hread₁, h₁⟩ := hlhs h ⟨hn, hopens⟩
  have hn₁ : c₁.inside = n := (Spot.inside_congr hbrackets₁).trans hn
  obtain ⟨c₂, rest', ⟨hbrackets₂, hended₂⟩, hread₂, h₂⟩ :=
    hx (h₁.settle hn₁) ⟨hn₁, hended₁, settle_settle n mid'⟩
  exact ⟨c₂, rest', ⟨hbrackets₂.trans hbrackets₁, hended₂⟩, .expr hread₁ hread₂, h₂⟩

theorem survives_arrowStop (hstop : toks.head?.bind Token.arrow? = none) :
    Survives (.arrow n lhs) toks lhs toks := by
  rintro c toks' h ⟨-, hended, -⟩
  exact ⟨c, toks', ⟨rfl, hended⟩, .arrowStop (h.head?_bind rfl hstop), h⟩

theorem survives_arrow {t : Token} {global : Bool} (ht : t.arrow? = some global)
    (hrhs : Survives (.expr n) (skipNewlines mid) rhs rest)
    (hx : makeAssign lhs rhs global = .ok x) : Survives (.arrow n lhs) (t :: mid) x rest := by
  rintro c toks' h ⟨hn, -, hsettled⟩
  have hnewline : t.isNewline = false := by cases t <;> first | rfl | cases ht
  obtain ⟨mid', hmid, h₁⟩ := h.settle_cons hn (Expr.settle_cons n hnewline)
  rw [hsettled] at hmid
  rw [Spot.step_arrow ht] at h₁
  obtain ⟨c₂, rest', hleaves, hread, h₂⟩ := hrhs (h₁.skipNewlines rfl) ⟨hn, rfl⟩
  rw [hmid]
  exact ⟨c₂, rest', hleaves, .arrow ht hread hx, h₂⟩

theorem survives_equalStop (hx : Survives (.tier .or n) toks x mid)
    (hstop : (settle n mid).head? ≠ some .assign) : Survives (.equal n) toks x (settle n mid) := by
  rintro c toks' h ⟨hn, hopens⟩
  obtain ⟨c₁, mid', ⟨hbrackets, hended⟩, hread, h₁⟩ := hx h ⟨hn, hopens⟩
  have hn₁ : c₁.inside = n := (Spot.inside_congr hbrackets).trans hn
  refine ⟨c₁, settle n mid', ⟨hbrackets, hended⟩, .equalStop hread ?_, h₁.settle hn₁⟩
  rw [h₁.head?_settle hn₁]
  exact hstop

theorem survives_equal (hlhs : Survives (.tier .or n) toks lhs mid)
    (hassign : settle n mid = .assign :: mid')
    (hrhs : Survives (.expr n) (skipNewlines mid') rhs rest)
    (hx : makeAssign lhs rhs false = .ok x) : Survives (.equal n) toks x rest := by
  rintro c toks' h ⟨hn, hopens⟩
  obtain ⟨c₁, mid₁, ⟨hbrackets₁, -⟩, hread₁, h₁⟩ := hlhs h ⟨hn, hopens⟩
  have hn₁ : c₁.inside = n := (Spot.inside_congr hbrackets₁).trans hn
  obtain ⟨mid₂, hassign', h₂⟩ := h₁.settle_cons hn₁ hassign
  obtain ⟨c₂, rest', ⟨hbrackets₂, hended₂⟩, hread₂, h₃⟩ := hrhs (h₂.skipNewlines rfl) ⟨hn₁, rfl⟩
  exact ⟨c₂, rest', ⟨hbrackets₂.trans hbrackets₁, hended₂⟩, .equal hread₁ hassign' hread₂ hx, h₃⟩

theorem survives_tier {t : Tier} (hlhs : Survives (.operand t n) toks lhs mid)
    (hx : Survives (.tierRest t n lhs) mid x rest) : Survives (.tier t n) toks x rest := by
  rintro c toks' h ⟨hn, hopens⟩
  obtain ⟨c₁, mid', ⟨hbrackets₁, hended₁⟩, hread₁, h₁⟩ := hlhs h ⟨hn, hopens⟩
  obtain ⟨c₂, rest', ⟨hbrackets₂, hended₂⟩, hread₂, h₂⟩ :=
    hx h₁ ⟨(Spot.inside_congr hbrackets₁).trans hn, hended₁⟩
  exact ⟨c₂, rest', ⟨hbrackets₂.trans hbrackets₁, hended₂⟩, .tier hread₁ hread₂, h₂⟩

theorem survives_tierStop {t : Tier} (hstop : (settle n toks).head?.bind t.operator? = none) :
    Survives (.tierRest t n lhs) toks lhs (settle n toks) := by
  rintro c toks' h ⟨hn, hended⟩
  refine ⟨c, settle n toks', ⟨rfl, hended⟩, .tierStop ?_, h.settle hn⟩
  rw [h.head?_settle hn]
  exact hstop

theorem survives_tierMore {t : Tier} {s : Token} {op : BinaryOp}
    (hsettle : settle n toks = s :: mid) (hop : t.operator? s = some op)
    (hrhs : Survives (.operand t n) (skipNewlines mid) rhs mid')
    (hx : Survives (.tierRest t n (binary op lhs rhs)) mid' x rest) :
    Survives (.tierRest t n lhs) toks x rest := by
  rintro c toks' h ⟨hn, -⟩
  obtain ⟨mid₁, hsettle', h₁⟩ := h.settle_cons hn hsettle
  rw [Spot.step_operator hop] at h₁
  obtain ⟨c₂, mid₂, ⟨hbrackets₂, hended₂⟩, hread₂, h₂⟩ := hrhs (h₁.skipNewlines rfl) ⟨hn, rfl⟩
  obtain ⟨c₃, rest', ⟨hbrackets₃, hended₃⟩, hread₃, h₃⟩ :=
    hx h₂ ⟨(Spot.inside_congr hbrackets₂).trans hn, hended₂⟩
  exact ⟨c₃, rest', ⟨hbrackets₃.trans hbrackets₂, hended₃⟩, .tierMore hsettle' hop hread₂ hread₃,
    h₃⟩

theorem survives_operandTier {t below : Tier} (ht : t.below? = some below)
    (hx : Survives (.tier below n) toks x rest) : Survives (.operand t n) toks x rest := by
  intro c toks' h hfits
  obtain ⟨c', rest', hleaves, hread, h'⟩ := hx h hfits
  exact ⟨c', rest', hleaves, .operandTier ht hread, h'⟩

theorem survives_operandNot (hx : Survives (.not n) toks x rest) :
    Survives (.operand .and n) toks x rest := by
  intro c toks' h hfits
  obtain ⟨c', rest', hleaves, hread, h'⟩ := hx h hfits
  exact ⟨c', rest', hleaves, .operandNot hread, h'⟩

theorem survives_operandSigned (hx : Survives (.signed n) toks x rest) :
    Survives (.operand .range n) toks x rest := by
  intro c toks' h hfits
  obtain ⟨c', rest', hleaves, hread, h'⟩ := hx h hfits
  exact ⟨c', rest', hleaves, .operandSigned hread, h'⟩

theorem survives_not (hbang : settle n toks = .bang :: mid) (hx : Survives (.not n) mid x rest) :
    Survives (.not n) toks (unary .not x) rest := by
  rintro c toks' h ⟨hn, -⟩
  obtain ⟨mid', hbang', h₁⟩ := h.settle_cons hn hbang
  obtain ⟨c', rest', hleaves, hread, h₂⟩ := hx h₁ ⟨hn, rfl⟩
  exact ⟨c', rest', hleaves, .not hbang' hread, h₂⟩

theorem survives_notStop (hstop : (settle n toks).head? ≠ some .bang)
    (hx : Survives (.tier .comparison n) (settle n toks) x rest) :
    Survives (.not n) toks x rest := by
  rintro c toks' h ⟨hn, hopens⟩
  obtain ⟨c', rest', hleaves, hread, h'⟩ := hx (h.settle hn) ⟨hn, hopens⟩
  refine ⟨c', rest', hleaves, .notStop ?_ hread, h'⟩
  rw [h.head?_settle hn]
  exact hstop

theorem survives_minus (hminus : settle n toks = .minus :: mid)
    (hx : Survives (.signed n) mid x rest) : Survives (.signed n) toks (unary .neg x) rest := by
  rintro c toks' h ⟨hn, -⟩
  obtain ⟨mid', hminus', h₁⟩ := h.settle_cons hn hminus
  obtain ⟨c', rest', hleaves, hread, h₂⟩ := hx h₁ ⟨hn, rfl⟩
  exact ⟨c', rest', hleaves, .minus hminus' hread, h₂⟩

theorem survives_plus (hplus : settle n toks = .plus :: mid)
    (hx : Survives (.signed n) mid x rest) : Survives (.signed n) toks x rest := by
  rintro c toks' h ⟨hn, -⟩
  obtain ⟨mid', hplus', h₁⟩ := h.settle_cons hn hplus
  obtain ⟨c', rest', hleaves, hread, h₂⟩ := hx h₁ ⟨hn, rfl⟩
  exact ⟨c', rest', hleaves, .plus hplus' hread, h₂⟩

theorem survives_signedStop (hminus : (settle n toks).head? ≠ some .minus)
    (hplus : (settle n toks).head? ≠ some .plus)
    (hx : Survives (.power n) (settle n toks) x rest) : Survives (.signed n) toks x rest := by
  rintro c toks' h ⟨hn, hopens⟩
  obtain ⟨c', rest', hleaves, hread, h'⟩ := hx (h.settle hn) ⟨hn, hopens⟩
  refine ⟨c', rest', hleaves, .signedStop ?_ ?_ hread, h'⟩
  · rw [h.head?_settle hn]
    exact hminus
  · rw [h.head?_settle hn]
    exact hplus

theorem survives_powerStop (hx : Survives (.selection n) toks x mid)
    (hstop : (settle n mid).head? ≠ some .caret) : Survives (.power n) toks x (settle n mid) := by
  rintro c toks' h ⟨hn, hopens⟩
  obtain ⟨c₁, mid', ⟨hbrackets, hended⟩, hread, h₁⟩ := hx h ⟨hn, hopens⟩
  have hn₁ : c₁.inside = n := (Spot.inside_congr hbrackets).trans hn
  refine ⟨c₁, settle n mid', ⟨hbrackets, hended⟩, .powerStop hread ?_, h₁.settle hn₁⟩
  rw [h₁.head?_settle hn₁]
  exact hstop

theorem survives_power (hx : Survives (.selection n) toks x mid)
    (hcaret : settle n mid = .caret :: mid')
    (hy : Survives (.signed n) (skipNewlines mid') y rest) :
    Survives (.power n) toks (binary .pow x y) rest := by
  rintro c toks' h ⟨hn, hopens⟩
  obtain ⟨c₁, mid₁, ⟨hbrackets₁, -⟩, hread₁, h₁⟩ := hx h ⟨hn, hopens⟩
  have hn₁ : c₁.inside = n := (Spot.inside_congr hbrackets₁).trans hn
  obtain ⟨mid₂, hcaret', h₂⟩ := h₁.settle_cons hn₁ hcaret
  obtain ⟨c₂, rest', ⟨hbrackets₂, hended₂⟩, hread₂, h₃⟩ := hy (h₂.skipNewlines rfl) ⟨hn₁, rfl⟩
  exact ⟨c₂, rest', ⟨hbrackets₂.trans hbrackets₁, hended₂⟩, .power hread₁ hcaret' hread₂, h₃⟩

theorem enclosed_spread {c : Spot} {toks' : List Token} {t : Token} (h : Spread c toks toks')
    (hin : c.inside = true) (hlead : c.lead = .operand) (hx : Survives (.expr true) toks x mid)
    (hsign : settle true mid = t :: rest) :
    ∃ (c' : Spot) (mid' rest' : List Token), c'.brackets = c.brackets ∧
      Reads (.expr true) toks' x mid' ∧ settle true mid' = t :: rest' ∧
      Spread (c'.step t) rest rest' := by
  obtain ⟨c₁, mid', ⟨hbrackets, -⟩, hread, h₁⟩ := hx h ⟨hin, Spot.opens_of_lead hlead⟩
  obtain ⟨rest', hsign', h₂⟩ := h₁.settle_cons ((Spot.inside_congr hbrackets).trans hin) hsign
  exact ⟨c₁, mid', rest', hbrackets, hread, hsign', h₂⟩

/-! ### Calls and selections -/

theorem survives_selection (hx : Survives (.primary n) toks x mid)
    (hy : Survives (.selectionRest n x) mid y rest) : Survives (.selection n) toks y rest := by
  rintro c toks' h ⟨hn, hopens⟩
  obtain ⟨c₁, mid', ⟨hbrackets₁, hended₁⟩, hread₁, h₁⟩ := hx h ⟨hn, hopens⟩
  obtain ⟨c₂, rest', ⟨hbrackets₂, hended₂⟩, hread₂, h₂⟩ :=
    hy h₁ ⟨(Spot.inside_congr hbrackets₁).trans hn, hended₁⟩
  exact ⟨c₂, rest', ⟨hbrackets₂.trans hbrackets₁, hended₂⟩, .selection hread₁ hread₂, h₂⟩

theorem survives_selectionStop (hstop : toks.head?.any Token.selects = false) :
    Survives (.selectionRest n x) toks x toks := by
  rintro c toks' h ⟨-, hended⟩
  exact ⟨c, toks', ⟨rfl, hended⟩, .selectionStop (h.head?_any rfl hstop), h⟩

/-- After a call or a selection has been read, more of them may follow. -/
theorem selectionRest_after {c c₁ : Spot} {mid' : List Token} (hn : c.inside = n)
    (hbrackets : c₁.brackets = c.brackets) (hended : c₁.ended = true) (h : Spread c₁ mid mid')
    (hy : Survives (.selectionRest n x) mid y rest) :
    ∃ (c' : Spot) (rest' : List Token), (c'.brackets = c.brackets ∧ c'.ended = true) ∧
      Reads (.selectionRest n x) mid' y rest' ∧ Spread c' rest rest' := by
  obtain ⟨c₂, rest', ⟨hbrackets₂, hended₂⟩, hread, h₂⟩ :=
    hy h ⟨(Spot.inside_congr hbrackets).trans hn, hended⟩
  exact ⟨c₂, rest', ⟨hbrackets₂.trans hbrackets, hended₂⟩, hread, h₂⟩

theorem survives_call {args : List (Option String × Expr)} (hargs : Survives .args toks args mid)
    (hy : Survives (.selectionRest n (call x args)) mid y rest) :
    Survives (.selectionRest n x) (.openParen :: toks) y rest := by
  rintro c toks' h ⟨hn, hended⟩
  obtain ⟨toks₁, rfl, h₁⟩ := h.cons_of_joins (Spot.joins_of_selects hended rfl)
  rw [Spot.step_openParen_of_ended hended] at h₁
  obtain ⟨c₂, mid₂, ⟨hbrackets₂, hended₂⟩, hread₂, h₂⟩ := hargs h₁ ⟨rfl, rfl⟩
  obtain ⟨c₃, rest', hleaves, hread₃, h₃⟩ := selectionRest_after hn hbrackets₂ hended₂ h₂ hy
  exact ⟨c₃, rest', hleaves, .call hread₂ hread₃, h₃⟩

theorem survives_index {i : Expr} (hi : Survives (.expr true) toks i mid)
    (hclose : settle true mid = .closeBracket :: mid')
    (hy : Survives (.selectionRest n (index x i)) mid' y rest) :
    Survives (.selectionRest n x) (.openBracket :: toks) y rest := by
  rintro c toks' h ⟨hn, hended⟩
  obtain ⟨toks₁, rfl, h₁⟩ := h.cons_of_joins (Spot.joins_of_selects hended rfl)
  obtain ⟨c₂, mid₂, mid₃, hbrackets₂, hread₂, hclose', h₂⟩ := enclosed_spread h₁ rfl rfl hi hclose
  have hbrackets₃ : (c₂.step .closeBracket).brackets = c.brackets := congrArg List.tail hbrackets₂
  obtain ⟨c₃, rest', hleaves, hread₃, h₃⟩ := selectionRest_after hn hbrackets₃ rfl h₂ hy
  exact ⟨c₃, rest', hleaves, .index hread₂ hclose' hread₃, h₃⟩

theorem survives_element {i : Expr} {mid'' : List Token} (hi : Survives (.expr true) toks i mid)
    (hclose : settle true mid = .closeBracket :: mid')
    (hclose' : settle true mid' = .closeBracket :: mid'')
    (hy : Survives (.selectionRest n (element x i)) mid'' y rest) :
    Survives (.selectionRest n x) (.openElement :: toks) y rest := by
  rintro c toks' h ⟨hn, hended⟩
  obtain ⟨toks₁, rfl, h₁⟩ := h.cons_of_joins (Spot.joins_of_selects hended rfl)
  obtain ⟨c₂, mid₂, mid₃, hbrackets₂, hread₂, hclose₂, h₂⟩ := enclosed_spread h₁ rfl rfl hi hclose
  have hbrackets₃ : (c₂.step .closeBracket).brackets = .index :: c.brackets :=
    congrArg List.tail hbrackets₂
  have htop : (c₂.step .closeBracket).brackets.head? = some .index :=
    congrArg List.head? hbrackets₃
  have hin₃ : (c₂.step .closeBracket).inside = true := Spot.inside_of_head? htop (by decide)
  obtain ⟨mid₄, hclose₃, h₃⟩ := h₂.settle_cons hin₃ hclose'
  have hbrackets₄ : ((c₂.step .closeBracket).step .closeBracket).brackets = c.brackets :=
    congrArg List.tail hbrackets₃
  obtain ⟨c₄, rest', hleaves, hread₄, h₄⟩ := selectionRest_after hn hbrackets₄ rfl h₃ hy
  exact ⟨c₄, rest', hleaves, .element hread₂ hclose₂ hclose₃ hread₄, h₄⟩

theorem survives_dollar {t : Token} {s : String} (hsettle : settle n toks = t :: mid)
    (ht : t.label? = some s) (hy : Survives (.selectionRest n (dollar x s)) mid y rest) :
    Survives (.selectionRest n x) (.dollar :: toks) y rest := by
  rintro c toks' h ⟨hn, hended⟩
  obtain ⟨toks₁, rfl, h₁⟩ := h.cons_of_joins (Spot.joins_of_selects hended rfl)
  obtain ⟨mid', hsettle', h₂⟩ := h₁.settle_cons hn hsettle
  rw [Spot.step_label_of_lead rfl ht] at h₂
  have hbrackets₂ : (c.step .dollar).finish.brackets = c.brackets := rfl
  obtain ⟨c₃, rest', hleaves, hread₃, h₃⟩ := selectionRest_after hn hbrackets₂ rfl h₂ hy
  exact ⟨c₃, rest', hleaves, .dollar hsettle' ht hread₃, h₃⟩

/-! ### Arguments and parameters -/

theorem survives_argsNil (hclose : settle true toks = .closeParen :: rest) :
    Survives .args toks [] rest := by
  rintro c toks' h ⟨hcall, -⟩
  have hin : c.inside = true := Spot.inside_of_head? hcall (by decide)
  obtain ⟨rest', hclose', h₁⟩ := h.settle_cons hin hclose
  rw [Spot.step_closeParen_of_ne (by rw [hcall]; decide)] at h₁
  exact ⟨_, rest', ⟨rfl, rfl⟩, .argsNil hclose', h₁⟩

theorem survives_args {args : List (Option String × Expr)}
    (hstop : (settle true toks).head? ≠ some .closeParen)
    (hargs : Survives .argsFrom (settle true toks) args rest) : Survives .args toks args rest := by
  rintro c toks' h ⟨hcall, hlead⟩
  have hin : c.inside = true := Spot.inside_of_head? hcall (by decide)
  obtain ⟨c₁, rest', hleaves, hread, h₁⟩ := hargs (h.settle hin) ⟨hcall, hlead⟩
  refine ⟨c₁, rest', hleaves, .args ?_ hread, h₁⟩
  rw [h.head?_settle hin]
  exact hstop

theorem argument_spread {c : Spot} {toks' : List Token} {label : Option String} {t : Token}
    (h : Spread c toks toks') (hcall : c.brackets.head? = some .call) (hlead : c.lead = .argument)
    (hlabel : takeLabel (settle true toks) = (label, mid)) (hx : Survives .argValue mid x mid')
    (hsign : settle true mid' = t :: rest) :
    ∃ (c' : Spot) (mid₁ mid₂ rest' : List Token), c'.brackets = c.brackets ∧
      takeLabel (settle true toks') = (label, mid₁) ∧ Reads .argValue mid₁ x mid₂ ∧
      settle true mid₂ = t :: rest' ∧ Spread (c'.step t) rest rest' := by
  have hin : c.inside = true := Spot.inside_of_head? hcall (by decide)
  obtain ⟨c₁, mid₁, hbrackets₁, hopens₁, hlabel', h₁⟩ := h.takeLabel hin hlead hlabel
  have hin₁ : c₁.inside = true := (Spot.inside_congr hbrackets₁).trans hin
  obtain ⟨c₂, mid₂, ⟨hbrackets₂, -⟩, hread, h₂⟩ := hx h₁ ⟨hin₁, hopens₁⟩
  have hin₂ : c₂.inside = true := (Spot.inside_congr hbrackets₂).trans hin₁
  obtain ⟨rest', hsign', h₃⟩ := h₂.settle_cons hin₂ hsign
  exact ⟨c₂, mid₁, mid₂, rest', hbrackets₂.trans hbrackets₁, hlabel', hread, hsign', h₃⟩

theorem survives_argsLast {label : Option String}
    (hlabel : takeLabel (settle true toks) = (label, mid)) (hx : Survives .argValue mid x mid')
    (hclose : settle true mid' = .closeParen :: rest) :
    Survives .argsFrom toks [(label, x)] rest := by
  rintro c toks' h ⟨hcall, hlead⟩
  obtain ⟨c₁, mid₁, mid₂, rest', hbrackets, hlabel', hread, hclose', h₁⟩ :=
    argument_spread h hcall hlead hlabel hx hclose
  rw [Spot.step_closeParen_of_ne (by rw [hbrackets, hcall]; decide)] at h₁
  exact ⟨_, rest', ⟨congrArg List.tail hbrackets, rfl⟩, .argsLast hlabel' hread hclose', h₁⟩

theorem survives_argsMore {label : Option String} {mid'' : List Token}
    {args : List (Option String × Expr)}
    (hlabel : takeLabel (settle true toks) = (label, mid)) (hx : Survives .argValue mid x mid')
    (hcomma : settle true mid' = .comma :: mid'') (hargs : Survives .argsFrom mid'' args rest) :
    Survives .argsFrom toks ((label, x) :: args) rest := by
  rintro c toks' h ⟨hcall, hlead⟩
  obtain ⟨c₁, mid₁, mid₂, mid₃, hbrackets, hlabel', hread, hcomma', h₁⟩ :=
    argument_spread h hcall hlead hlabel hx hcomma
  rw [← hbrackets] at hcall
  rw [Spot.step_comma_of_call hcall] at h₁
  obtain ⟨c₂, rest', ⟨hbrackets₂, hended₂⟩, hread₂, h₂⟩ := hargs h₁ ⟨hcall, rfl⟩
  refine ⟨c₂, rest', ⟨?_, hended₂⟩, .argsMore hlabel' hread hcomma' hread₂, h₂⟩
  rw [hbrackets₂, ← hbrackets]

theorem survives_argValue (hlhs : Survives (.tier .or true) toks lhs mid)
    (hx : Survives (.arrow true lhs) (settle true mid) x rest) :
    Survives .argValue toks x rest := by
  rintro c toks' h ⟨hin, hopens⟩
  obtain ⟨c₁, mid', ⟨hbrackets₁, hended₁⟩, hread₁, h₁⟩ := hlhs h ⟨hin, hopens⟩
  have hin₁ : c₁.inside = true := (Spot.inside_congr hbrackets₁).trans hin
  obtain ⟨c₂, rest', ⟨hbrackets₂, hended₂⟩, hread₂, h₂⟩ :=
    hx (h₁.settle hin₁) ⟨hin₁, hended₁, settle_settle true mid'⟩
  exact ⟨c₂, rest', ⟨hbrackets₂.trans hbrackets₁, hended₂⟩, .argValue hread₁ hread₂, h₂⟩

theorem survives_paramsNil (hopen : settle n toks = .openParen :: mid)
    (hclose : settle true mid = .closeParen :: rest) : Survives (.params n) toks [] rest := by
  rintro c toks' h ⟨hn, hlead⟩
  obtain ⟨mid', hopen', h₁⟩ := h.settle_cons hn hopen
  rw [Spot.step_openParen_of_header hlead] at h₁
  obtain ⟨rest', hclose', h₂⟩ := h₁.settle_cons rfl hclose
  rw [Spot.step_closeParen_of_header rfl] at h₂
  exact ⟨⟨c.brackets, .operand⟩, rest', ⟨rfl, rfl⟩, .paramsNil hopen' hclose', h₂⟩

theorem survives_params {params : List (String × Option Expr)}
    (hopen : settle n toks = .openParen :: mid)
    (hstop : (settle true mid).head? ≠ some .closeParen)
    (hparams : Survives .paramsFrom (settle true mid) params rest) :
    Survives (.params n) toks params rest := by
  rintro c toks' h ⟨hn, hlead⟩
  obtain ⟨mid', hopen', h₁⟩ := h.settle_cons hn hopen
  rw [Spot.step_openParen_of_header hlead] at h₁
  obtain ⟨c₂, rest', hleaves, hread, h₂⟩ := hparams (h₁.settle rfl) ⟨rfl, rfl⟩
  have hhead : (settle true mid').head? = (settle true mid).head? := h₁.head?_settle rfl
  exact ⟨c₂, rest', hleaves, .params hopen' (hhead ▸ hstop) hread, h₂⟩

theorem parameter_spread {c : Spot} {toks' : List Token} {s : String} {preset : Option Expr}
    {t : Token} (h : Spread c toks toks') (hheader : c.brackets.head? = some .header)
    (hname : settle true toks = .name s :: mid) (hpreset : Survives .preset mid preset mid')
    (hsign : settle true mid' = t :: rest) :
    ∃ (c' : Spot) (mid₁ mid₂ rest' : List Token), c'.brackets = c.brackets ∧
      settle true toks' = .name s :: mid₁ ∧ Reads .preset mid₁ preset mid₂ ∧
      settle true mid₂ = t :: rest' ∧ Spread (c'.step t) rest rest' := by
  have hin : c.inside = true := Spot.inside_of_head? hheader (by decide)
  obtain ⟨mid₁, hname', h₁⟩ := h.settle_cons hin hname
  have hbrackets₁ := Spot.brackets_step_name c s
  have hin₁ : (c.step (.name s)).inside = true := (Spot.inside_congr hbrackets₁).trans hin
  obtain ⟨c₂, mid₂, ⟨hbrackets₂, -⟩, hread, h₂⟩ := hpreset h₁ ⟨hin₁, Spot.ended_step_name c s⟩
  have hin₂ : c₂.inside = true := (Spot.inside_congr hbrackets₂).trans hin₁
  obtain ⟨rest', hsign', h₃⟩ := h₂.settle_cons hin₂ hsign
  exact ⟨c₂, mid₁, mid₂, rest', hbrackets₂.trans hbrackets₁, hname', hread, hsign', h₃⟩

theorem survives_paramsLast {s : String} {preset : Option Expr}
    (hname : settle true toks = .name s :: mid) (hpreset : Survives .preset mid preset mid')
    (hclose : settle true mid' = .closeParen :: rest) :
    Survives .paramsFrom toks [(s, preset)] rest := by
  rintro c toks' h ⟨hheader, -⟩
  obtain ⟨c₁, mid₁, mid₂, rest', hbrackets, hname', hread, hclose', h₁⟩ :=
    parameter_spread h hheader hname hpreset hclose
  rw [Spot.step_closeParen_of_header (by rw [hbrackets, hheader])] at h₁
  exact ⟨_, rest', ⟨congrArg List.tail hbrackets, rfl⟩, .paramsLast hname' hread hclose', h₁⟩

theorem survives_paramsMore {s : String} {preset : Option Expr} {mid'' : List Token}
    {params : List (String × Option Expr)} (hname : settle true toks = .name s :: mid)
    (hpreset : Survives .preset mid preset mid') (hcomma : settle true mid' = .comma :: mid'')
    (hparams : Survives .paramsFrom mid'' params rest) :
    Survives .paramsFrom toks ((s, preset) :: params) rest := by
  rintro c toks' h ⟨hheader, -⟩
  obtain ⟨c₁, mid₁, mid₂, mid₃, hbrackets, hname', hread, hcomma', h₁⟩ :=
    parameter_spread h hheader hname hpreset hcomma
  rw [← hbrackets] at hheader
  rw [Spot.step_comma_of_ne (by rw [hheader]; decide)] at h₁
  obtain ⟨c₂, rest', ⟨hbrackets₂, hlead₂⟩, hread₂, h₂⟩ := hparams h₁ ⟨hheader, rfl⟩
  refine ⟨c₂, rest', ⟨?_, hlead₂⟩, .paramsMore hname' hread hcomma' hread₂, h₂⟩
  rw [hbrackets₂, ← hbrackets]
  rfl

theorem survives_presetNone (hstop : (settle true toks).head? ≠ some .assign) :
    Survives .preset toks none (settle true toks) := by
  rintro c toks' h ⟨hin, hended⟩
  refine ⟨c, settle true toks', ⟨rfl, hended⟩, .presetNone ?_, h.settle hin⟩
  rw [h.head?_settle hin]
  exact hstop

theorem survives_preset (hassign : settle true toks = .assign :: mid)
    (hx : Survives (.tier .or true) mid x rest) : Survives .preset toks (some x) rest := by
  rintro c toks' h ⟨hin, -⟩
  obtain ⟨mid', hassign', h₁⟩ := h.settle_cons hin hassign
  obtain ⟨c₂, rest', hleaves, hread, h₂⟩ := hx h₁ ⟨hin, rfl⟩
  exact ⟨c₂, rest', hleaves, .preset hassign' hread, h₂⟩

/-! ### Primary expressions -/

theorem survives_const {t : Token} {v : RValue} (hsettle : settle n toks = t :: rest)
    (ht : t.constant? = some v) : Survives (.primary n) toks (const v) rest := by
  rintro c toks' h ⟨hn, -⟩
  obtain ⟨rest', hsettle', h₁⟩ := h.settle_cons hn hsettle
  exact ⟨c.step t, rest', ⟨Spot.brackets_step_constant ht, Spot.ended_step_constant ht⟩,
    .const hsettle' ht, h₁⟩

theorem survives_name {s : String} (hsettle : settle n toks = .name s :: rest) :
    Survives (.primary n) toks (name s) rest := by
  rintro c toks' h ⟨hn, -⟩
  obtain ⟨rest', hsettle', h₁⟩ := h.settle_cons hn hsettle
  exact ⟨c.step (.name s), rest', ⟨Spot.brackets_step_name c s, Spot.ended_step_name c s⟩,
    .name hsettle', h₁⟩

theorem survives_group (hopen : settle n toks = .openParen :: mid)
    (hx : Survives (.expr true) mid x mid') (hclose : settle true mid' = .closeParen :: rest) :
    Survives (.primary n) toks x rest := by
  rintro c toks' h ⟨hn, hopens⟩
  obtain ⟨mid₁, hopen', h₁⟩ := h.settle_cons hn hopen
  rw [Spot.step_openParen_of_opens hopens] at h₁
  obtain ⟨c₂, mid₂, rest', hbrackets₂, hread, hclose', h₂⟩ := enclosed_spread h₁ rfl rfl hx hclose
  have hgroup : c₂.brackets.head? ≠ some .header := by
    rw [hbrackets₂]
    exact nofun
  rw [Spot.step_closeParen_of_ne hgroup] at h₂
  exact ⟨_, rest', ⟨congrArg List.tail hbrackets₂, rfl⟩, .group hopen' hread hclose', h₂⟩

theorem survives_block {body : List Expr} (hopen : settle n toks = .openBrace :: mid)
    (hbody : Survives .block mid body rest) : Survives (.primary n) toks (block body) rest := by
  rintro c toks' h ⟨hn, -⟩
  obtain ⟨mid', hopen', h₁⟩ := h.settle_cons hn hopen
  obtain ⟨c₂, rest', hleaves, hread, h₂⟩ := hbody h₁ ⟨rfl, .inl rfl⟩
  exact ⟨c₂, rest', hleaves, .block hopen' hread, h₂⟩

theorem survives_function {params : List (String × Option Expr)} {body : Expr}
    (hword : settle n toks = .kwFunction :: mid) (hparams : Survives (.params n) mid params mid')
    (hbody : Survives (.expr n) (skipNewlines mid') body rest) :
    Survives (.primary n) toks (function params body) rest := by
  rintro c toks' h ⟨hn, -⟩
  obtain ⟨mid₁, hword', h₁⟩ := h.settle_cons hn hword
  obtain ⟨c₂, mid₂, ⟨hbrackets₂, hlead₂⟩, hread₂, h₂⟩ := hparams h₁ ⟨hn, rfl⟩
  have hn₂ : c₂.inside = n := (Spot.inside_congr hbrackets₂).trans hn
  obtain ⟨c₃, rest', ⟨hbrackets₃, hended₃⟩, hread₃, h₃⟩ :=
    hbody (h₂.skipNewlines hlead₂) ⟨hn₂, Spot.opens_of_lead hlead₂⟩
  exact ⟨c₃, rest', ⟨hbrackets₃.trans hbrackets₂, hended₃⟩, .function hword' hread₂ hread₃, h₃⟩

theorem keyword_spread {c : Spot} {toks' : List Token} {word : Token} (h : Spread c toks toks')
    (hn : c.inside = n) (hstep : c.step word = { c with lead := .header })
    (hword : settle n toks = word :: mid) (hopen : settle n mid = .openParen :: rest) :
    ∃ mid' rest' : List Token, settle n toks' = word :: mid' ∧
      settle n mid' = .openParen :: rest' ∧ Spread ⟨.header :: c.brackets, .operand⟩ rest rest' := by
  obtain ⟨mid', hword', h₁⟩ := h.settle_cons hn hword
  rw [hstep] at h₁
  obtain ⟨rest', hopen', h₂⟩ := h₁.settle_cons hn hopen
  rw [Spot.step_openParen_of_header rfl] at h₂
  exact ⟨mid', rest', hword', hopen', h₂⟩

theorem header_spread {c : Spot} {toks' : List Token} {bs : List Bracket}
    (hbrackets : c.brackets = .header :: bs) (h : Spread c toks toks') (hlead : c.lead = .operand)
    (hx : Survives (.expr true) toks x mid) (hclose : settle true mid = .closeParen :: rest) :
    ∃ mid' rest' : List Token, Reads (.expr true) toks' x mid' ∧
      settle true mid' = .closeParen :: rest' ∧ Spread ⟨bs, .operand⟩ rest rest' := by
  have hin : c.inside = true := by
    rw [Spot.inside, hbrackets]
    rfl
  obtain ⟨c₁, mid', rest', hbrackets₁, hread, hclose', h₁⟩ := enclosed_spread h hin hlead hx hclose
  have htop : c₁.brackets.head? = some .header := by
    rw [hbrackets₁, hbrackets]
    rfl
  rw [Spot.step_closeParen_of_header htop, hbrackets₁, hbrackets] at h₁
  exact ⟨mid', rest', hread, hclose', h₁⟩

theorem survives_cond {m₁ m₂ m₃ m₄ : List Token} {test yes : Expr}
    (hword : settle n toks = .kwIf :: m₁) (hopen : settle n m₁ = .openParen :: m₂)
    (htest : Survives (.expr true) m₂ test m₃) (hclose : settle true m₃ = .closeParen :: m₄)
    (hyes : Survives (.expr n) (skipNewlines m₄) yes rest)
    (hstop : (skipNewlines rest).head? ≠ some .kwElse) :
    Survives (.primary n) toks (cond test yes none) rest := by
  rintro c toks' h ⟨hn, -⟩
  obtain ⟨m₁', m₂', hword', hopen', h₂⟩ := keyword_spread h hn rfl hword hopen
  obtain ⟨m₃', m₄', hread₃, hclose', h₄⟩ := header_spread rfl h₂ rfl htest hclose
  obtain ⟨c₅, rest', hleaves, hread₅, h₅⟩ := hyes (h₄.skipNewlines rfl) ⟨hn, rfl⟩
  refine ⟨c₅, rest', hleaves, .cond hword' hopen' hread₃ hclose' hread₅ ?_, h₅⟩
  rw [h₅.head?_skipNewlines]
  exact hstop

theorem survives_condElse {m₁ m₂ m₃ m₄ m₅ m₆ : List Token} {test yes no : Expr}
    (hword : settle n toks = .kwIf :: m₁) (hopen : settle n m₁ = .openParen :: m₂)
    (htest : Survives (.expr true) m₂ test m₃) (hclose : settle true m₃ = .closeParen :: m₄)
    (hyes : Survives (.expr n) (skipNewlines m₄) yes m₅) (helse : skipNewlines m₅ = .kwElse :: m₆)
    (hno : Survives (.expr n) (skipNewlines m₆) no rest) :
    Survives (.primary n) toks (cond test yes (some no)) rest := by
  rintro c toks' h ⟨hn, -⟩
  obtain ⟨m₁', m₂', hword', hopen', h₂⟩ := keyword_spread h hn rfl hword hopen
  obtain ⟨m₃', m₄', hread₃, hclose', h₄⟩ := header_spread rfl h₂ rfl htest hclose
  obtain ⟨c₅, m₅', ⟨hbrackets₅, -⟩, hread₅, h₅⟩ := hyes (h₄.skipNewlines rfl) ⟨hn, rfl⟩
  obtain ⟨c₆, m₆', hbrackets₆, helse', h₆⟩ := h₅.skipNewlines_eq_cons helse
  have hbrackets : c₆.brackets = c.brackets := hbrackets₆.trans hbrackets₅
  have hn₆ : (c₆.step .kwElse).inside = n := (Spot.inside_congr hbrackets).trans hn
  obtain ⟨c₇, rest', ⟨hbrackets₇, hended₇⟩, hread₇, h₇⟩ := hno (h₆.skipNewlines rfl) ⟨hn₆, rfl⟩
  exact ⟨c₇, rest', ⟨hbrackets₇.trans hbrackets, hended₇⟩,
    .condElse hword' hopen' hread₃ hclose' hread₅ helse' hread₇, h₇⟩

theorem survives_loop {m₁ m₂ m₃ m₄ m₅ m₆ : List Token} {s : String} {items body : Expr}
    (hword : settle n toks = .kwFor :: m₁) (hopen : settle n m₁ = .openParen :: m₂)
    (hname : settle true m₂ = .name s :: m₃) (hin : settle true m₃ = .kwIn :: m₄)
    (hitems : Survives (.expr true) m₄ items m₅) (hclose : settle true m₅ = .closeParen :: m₆)
    (hbody : Survives (.expr n) (skipNewlines m₆) body rest) :
    Survives (.primary n) toks (loop s items body) rest := by
  rintro c toks' h ⟨hn, -⟩
  obtain ⟨m₁', m₂', hword', hopen', h₂⟩ := keyword_spread h hn rfl hword hopen
  obtain ⟨m₃', hname', h₃⟩ := h₂.settle_cons rfl hname
  obtain ⟨m₄', hin', h₄⟩ := h₃.settle_cons rfl hin
  obtain ⟨m₅', m₆', hread₅, hclose', h₆⟩ := header_spread rfl h₄ rfl hitems hclose
  obtain ⟨c₇, rest', hleaves, hread₇, h₇⟩ := hbody (h₆.skipNewlines rfl) ⟨hn, rfl⟩
  exact ⟨c₇, rest', hleaves, .loop hword' hopen' hname' hin' hread₅ hclose' hread₇, h₇⟩

/-! ### Statements -/

/-- The first of some statements, after the separators before it. -/
theorem statement_spread {c : Spot} {toks' : List Token} (h : Spread c toks toks')
    (hin : c.inside = false)
    (hstart : c.lead = .operand ∨ toks.head?.any Token.isSeparator = true)
    (hx : Survives (.expr false) (skipSeparators toks) x mid) :
    ∃ (c' : Spot) (mid' : List Token), c'.brackets = c.brackets ∧
      (skipSeparators toks').head? = (skipSeparators toks).head? ∧
      Reads (.expr false) (skipSeparators toks') x mid' ∧ mid'.head? = mid.head? ∧
      Spread c' mid mid' := by
  obtain ⟨c₁, hbrackets₁, hlead, h₁⟩ := h.skipSeparators hin
  have hlead₁ : c₁.lead = .operand := by
    obtain hlead | ⟨rfl, hnone⟩ := hlead
    · exact hlead
    · obtain hlead | hsome := hstart
      · exact hlead
      · rw [hnone] at hsome
        cases hsome
  have hin₁ : c₁.inside = false := (Spot.inside_congr hbrackets₁).trans hin
  obtain ⟨c₂, mid', ⟨hbrackets₂, -⟩, hread, h₂⟩ := hx h₁ ⟨hin₁, Spot.opens_of_lead hlead₁⟩
  have hin₂ : c₂.inside = false := (Spot.inside_congr hbrackets₂).trans hin₁
  exact ⟨c₂, mid', hbrackets₂.trans hbrackets₁, h₁.head?_of_not_inside hin₁, hread,
    h₂.head?_of_not_inside hin₂, h₂⟩

theorem survives_blockNil (hclose : skipSeparators toks = .closeBrace :: rest) :
    Survives .block toks [] rest := by
  rintro c toks' h ⟨hbrace, -⟩
  have hin : c.inside = false := Spot.inside_of_brace hbrace
  obtain ⟨c₁, hbrackets, -, h₁⟩ := h.skipSeparators hin
  rw [hclose] at h₁
  obtain ⟨rest', hclose', h₂⟩ := h₁.cons_of_not_inside ((Spot.inside_congr hbrackets).trans hin)
  exact ⟨_, rest', ⟨congrArg List.tail hbrackets, rfl⟩, .blockNil hclose', h₂⟩

/-- Before a statement that is not the first of its block there is a separator. -/
theorem head?_isSeparator (hends : toks.head?.any Token.endsStatement = true)
    (hne : (skipSeparators toks).head? ≠ some .closeBrace) :
    toks.head?.any Token.isSeparator = true := by
  cases toks with
  | nil => cases hends
  | cons t toks =>
    cases t
    case closeBrace => exact absurd rfl hne
    all_goals exact hends

theorem survives_blockMore {xs : List Expr}
    (hne : (skipSeparators toks).head? ≠ some .closeBrace)
    (hx : Survives (.expr false) (skipSeparators toks) x mid)
    (hends : mid.head?.any Token.endsStatement = true) (hxs : Survives .block mid xs rest) :
    Survives .block toks (x :: xs) rest := by
  rintro c toks' h ⟨hbrace, hstart⟩
  have hin : c.inside = false := Spot.inside_of_brace hbrace
  obtain ⟨c₁, mid', hbrackets₁, hhead, hread₁, hhead₁, h₁⟩ :=
    statement_spread h hin (hstart.imp_right fun hends => head?_isSeparator hends hne) hx
  obtain ⟨c₂, rest', ⟨hbrackets₂, hended₂⟩, hread₂, h₂⟩ :=
    hxs h₁ ⟨by rw [hbrackets₁, hbrace], .inr hends⟩
  refine ⟨c₂, rest', ⟨?_, hended₂⟩, .blockMore (hhead ▸ hne) hread₁ (hhead₁ ▸ hends) hread₂, h₂⟩
  rw [hbrackets₂, hbrackets₁]

theorem survives_programNil (hnil : skipSeparators toks = []) : Survives .program toks [] [] := by
  rintro c toks' h ⟨hbrackets, -⟩
  have hin : c.inside = false := Spot.inside_of_nil hbrackets
  obtain ⟨c₁, hbrackets₁, -, h₁⟩ := h.skipSeparators hin
  have hin₁ : c₁.inside = false := (Spot.inside_congr hbrackets₁).trans hin
  have hnil' : skipSeparators toks' = [] := by
    rw [← List.head?_eq_none_iff, h₁.head?_of_not_inside hin₁, hnil]
    rfl
  exact ⟨c, [], trivial, .programNil hnil', .nil⟩

theorem survives_programMore {xs : List Expr}
    (hread : Reads (.expr false) (skipSeparators toks) x mid)
    (hx : Survives (.expr false) (skipSeparators toks) x mid)
    (hends : mid.head?.all Token.isSeparator = true) (hxs : Survives .program mid xs []) :
    Survives .program toks (x :: xs) [] := by
  rintro c toks' h ⟨hbrackets, hstart⟩
  have hin : c.inside = false := Spot.inside_of_nil hbrackets
  have hstart : c.lead = .operand ∨ toks.head?.any Token.isSeparator = true := by
    refine hstart.imp_right fun hall => ?_
    cases toks with
    | nil =>
      obtain ⟨t, ht, -⟩ := hread.starts rfl
      cases ht
    | cons t toks => exact hall
  obtain ⟨c₁, mid', hbrackets₁, -, hread₁, hhead₁, h₁⟩ := statement_spread h hin hstart hx
  obtain ⟨c₂, rest', -, hread₂, h₂⟩ := hxs h₁ ⟨hbrackets₁.trans hbrackets, .inr hends⟩
  obtain rfl : rest' = [] := by cases hread₂ <;> rfl
  exact ⟨c₂, [], trivial, .programMore hread₁ (hhead₁ ▸ hends) hread₂, h₂⟩

/-! ### All rules -/

/-- What is read is read with newlines between the tokens that mean nothing. -/
theorem Reads.spread {g : Sought} {a : g.Result} (h : Reads g toks a rest) :
    Survives g toks a rest := by
  induction h with
  | expr _ _ hlhs hx => exact survives_expr hlhs hx
  | arrowStop h => exact survives_arrowStop h
  | arrow ht _ hx hrhs => exact survives_arrow ht hrhs hx
  | equalStop _ hstop hx => exact survives_equalStop hx hstop
  | equal _ hassign _ hx hlhs hrhs => exact survives_equal hlhs hassign hrhs hx
  | tier _ _ hlhs hx => exact survives_tier hlhs hx
  | tierStop hstop => exact survives_tierStop hstop
  | tierMore hsettle hop _ _ hrhs hx => exact survives_tierMore hsettle hop hrhs hx
  | operandTier h _ hx => exact survives_operandTier h hx
  | operandNot _ hx => exact survives_operandNot hx
  | operandSigned _ hx => exact survives_operandSigned hx
  | not hbang _ hx => exact survives_not hbang hx
  | notStop hstop _ hx => exact survives_notStop hstop hx
  | minus hminus _ hx => exact survives_minus hminus hx
  | plus hplus _ hx => exact survives_plus hplus hx
  | signedStop hminus hplus _ hx => exact survives_signedStop hminus hplus hx
  | powerStop _ hstop hx => exact survives_powerStop hx hstop
  | power _ hcaret _ hbase hexponent => exact survives_power hbase hcaret hexponent
  | selection _ _ hx hy => exact survives_selection hx hy
  | selectionStop hstop => exact survives_selectionStop hstop
  | call _ _ hargs hy => exact survives_call hargs hy
  | index _ hclose _ hi hy => exact survives_index hi hclose hy
  | element _ hclose hclose' _ hi hy => exact survives_element hi hclose hclose' hy
  | dollar hsettle ht _ hy => exact survives_dollar hsettle ht hy
  | argsNil hclose => exact survives_argsNil hclose
  | args hstop _ hargs => exact survives_args hstop hargs
  | argsLast hlabel _ hclose hx => exact survives_argsLast hlabel hx hclose
  | argsMore hlabel _ hcomma _ hx hargs => exact survives_argsMore hlabel hx hcomma hargs
  | argValue _ _ hlhs hx => exact survives_argValue hlhs hx
  | paramsNil hopen hclose => exact survives_paramsNil hopen hclose
  | params hopen hstop _ hparams => exact survives_params hopen hstop hparams
  | paramsLast hname _ hclose hpreset => exact survives_paramsLast hname hpreset hclose
  | paramsMore hname _ hcomma _ hpreset hparams =>
    exact survives_paramsMore hname hpreset hcomma hparams
  | presetNone hstop => exact survives_presetNone hstop
  | preset hassign _ hx => exact survives_preset hassign hx
  | const hsettle ht => exact survives_const hsettle ht
  | name hsettle => exact survives_name hsettle
  | group hopen _ hclose hx => exact survives_group hopen hx hclose
  | block hopen _ hbody => exact survives_block hopen hbody
  | function hword _ _ hparams hbody => exact survives_function hword hparams hbody
  | cond hword hopen _ hclose _ hstop htest hyes =>
    exact survives_cond hword hopen htest hclose hyes hstop
  | condElse hword hopen _ hclose _ helse _ htest hyes hno =>
    exact survives_condElse hword hopen htest hclose hyes helse hno
  | loop hword hopen hname hin _ hclose _ hitems hbody =>
    exact survives_loop hword hopen hname hin hitems hclose hbody
  | blockNil hclose => exact survives_blockNil hclose
  | blockMore hne _ hends _ hx hxs => exact survives_blockMore hne hx hends hxs
  | programNil h => exact survives_programNil h
  | programMore hread hends _ hx hxs => exact survives_programMore hread hx hends hxs

/-- A program is read with newlines between its tokens that mean nothing. -/
theorem ofTokens_spread {toks toks' : List Token} {xs : List Expr} (h : Spread .first toks toks')
    (hxs : ofTokens toks = .ok xs) : ofTokens toks' = .ok xs := by
  rw [ofTokens_eq_ok] at hxs ⊢
  obtain ⟨c, rest', -, hread, -⟩ := hxs.spread h ⟨rfl, .inl rfl⟩
  obtain rfl : rest' = [] := by cases hread <;> rfl
  exact hread

/-! ### Texts -/

theorem scan_newline {source a b : String} {pre post : List Token}
    (h : Token.Divided source a b pre post) :
    Token.scan (a ++ "\n" ++ b) = .ok (pre ++ .newline :: post) := by
  have hscans := Token.scans_append_newline (Token.scans_of_scanWith h.right) h.left
  refine Token.scan_eq ?_
  rw [String.toList_append, String.toList_append, List.append_assoc]
  exact hscans

theorem spread_after_newline {pre post : List Token} (hin : (Spot.after pre).inside = true)
    (hlast : pre.getLast? = some .newline) :
    Spread .first (pre ++ post) (pre ++ .newline :: post) := by
  obtain ⟨pre, rfl⟩ := List.getLast?_eq_some_iff.mp hlast
  rw [Spot.after, List.foldl_append, List.foldl_cons, List.foldl_nil, Spot.inside_step_newline]
    at hin
  rw [List.append_assoc, List.append_assoc]
  exact Spread.insert hin (Spot.joins_newline _)

/-- A program may be divided between any two of its tokens, and where that is inside parentheses or
brackets, and in no braces inside them, a newline changes nothing, unless it parts a call or a
selection from its operand or the equals sign from its label. -/
theorem readProgram_newline {source : String} {pre post : List Token} {xs : List Expr}
    (hscan : Token.scan source = .ok (pre ++ post)) (hin : (Spot.after pre).inside = true)
    (hjoins : post.head?.any (Spot.after pre).joins = false ∨ pre.getLast? = some .newline)
    (h : readProgram source = .ok xs) :
    (∃ a b, Token.Divided source a b pre post) ∧
      ∀ a b, Token.Divided source a b pre post → readProgram (a ++ "\n" ++ b) = .ok xs := by
  refine ⟨Token.exists_divided hscan, fun a b hdivided => ?_⟩
  have hspread : Spread .first (pre ++ post) (pre ++ .newline :: post) := by
    obtain hjoins | hlast := hjoins
    · exact Spread.insert hin hjoins
    · exact spread_after_newline hin hlast
  have hxs : ofTokens (pre ++ post) = .ok xs := by
    rw [readProgram, hscan] at h
    exact h
  rw [readProgram, scan_newline hdivided]
  exact ofTokens_spread hspread hxs

theorem readProgram_newline_argument :
    let pre := [.name "f", .openParen, .name "x", .comma]
    let post := [.name "y", .closeParen]
    let xs := [call (name "f") [(none, name "x"), (none, name "y")]]
    (Token.scan "f(x, y)" = .ok (pre ++ post) ∧ (Spot.after pre).inside = true ∧
        readProgram "f(x, y)" = .ok xs) ∧
      (∃ a b, Token.Divided "f(x, y)" a b pre post) ∧
      Token.Divided "f(x, y)" "f(x," " y)" pre post ∧
      readProgram ("f(x," ++ "\n" ++ " y)") = .ok xs := by
  intro pre post xs
  have hscan : Token.scan "f(x, y)" = .ok (pre ++ post) := rfl
  have hxs : readProgram "f(x, y)" = .ok xs := by
    rw [readProgram, hscan]
    rfl
  have hdivided : Token.Divided "f(x, y)" "f(x," " y)" pre post := ⟨rfl, rfl, rfl⟩
  obtain ⟨hexists, hnewline⟩ := readProgram_newline hscan rfl (.inl rfl) hxs
  exact ⟨⟨hscan, rfl, hxs⟩, hexists, hdivided, hnewline _ _ hdivided⟩

/-- A call does not start on the line after its operand, not even inside brackets. -/
theorem readProgram_call_next_line :
    let pre := [.openParen, .name "f"]
    let post := [.openParen, .name "x", .closeParen, .closeParen]
    Token.Divided "(f(x))" "(f" "(x))" pre post ∧ (Spot.after pre).inside = true ∧
      readProgram "(f(x))" = .ok [call (name "f") [(none, name "x")]] ∧
      ∀ xs, readProgram ("(f" ++ "\n" ++ "(x))") ≠ .ok xs := by
  intro pre post
  have hscan : Token.scan "(f(x))" = .ok (pre ++ post) := rfl
  have hdivided : Token.Divided "(f(x))" "(f" "(x))" pre post := ⟨rfl, rfl, rfl⟩
  refine ⟨hdivided, rfl, ?_, ?_⟩
  · rw [readProgram, hscan]
    rfl
  · intro xs hxs
    rw [readProgram, scan_newline hdivided] at hxs
    cases hxs

end ScriptBridge.Expr
