import ScriptBridge.Proofs.Syntax.Continuation
import ScriptBridge.Proofs.Syntax.Levels

/-!
# Spots between tokens

What a newline means depends on the brackets that are open and on the token before it
(`Spot`, `Spot.step`). Inside parentheses or brackets it means nothing, except before a token that
belongs to the one before it (`Spot.joins`): a call or a selection starts on the line of its
operand, and the equals sign after a label stands beside the label.

- `Spread c toks toks'`: the tokens `toks`, which stand at the spot `c`, and the same tokens with
  newlines between them that mean nothing.
- `Spread.settle`, `Spread.skipNewlines`, `Spread.skipSeparators`, `Spread.takeLabel`: what a parser
  passes over before it looks at a token leaves tokens that are spread in the same way.
-/

namespace ScriptBridge

/-- What a bracket has been opened for. -/
inductive Bracket where
  /-- An expression. -/
  | group
  /-- The arguments of a call. -/
  | call
  /-- The parameters of a function, the test of a condition or the items of a loop. -/
  | header
  /-- The index of a selection. -/
  | index
  /-- The statements of a block. -/
  | brace
  deriving DecidableEq

/-- What the token before a spot leads up to. -/
inductive Lead where
  /-- An operand. -/
  | operand
  /-- An argument, which may start with a label. -/
  | argument
  /-- The brackets after `function`, `if` or `for`. -/
  | header
  /-- What may follow an operand. -/
  | operator
  /-- What may follow an operand that may be a label too. -/
  | equals
  deriving DecidableEq

/-- A spot between tokens: the brackets that are open there, the innermost first, and what comes
next. -/
structure Spot where
  brackets : List Bracket
  lead : Lead

namespace Spot

variable {c c' : Spot} {t : Token}

/-- The spot before the first token of a program. -/
def first : Spot := ⟨[], .operand⟩

/-- Whether the spot lies inside parentheses or brackets, and in no braces inside them. -/
def inside (c : Spot) : Bool := c.brackets.head?.any (· ≠ .brace)

def ended (c : Spot) : Bool := c.lead = .operator || c.lead = .equals

def opens (c : Spot) : Bool := c.lead = .operand || c.lead = .argument

def restart (c : Spot) : Spot := { c with lead := .operand }

def finish (c : Spot) : Spot := { c with lead := .operator }

def openParen (c : Spot) : Spot :=
  match c.lead with
  | .operator | .equals => ⟨.call :: c.brackets, .argument⟩
  | .header => ⟨.header :: c.brackets, .operand⟩
  | .operand | .argument => ⟨.group :: c.brackets, .operand⟩

/-- The spot after a closing parenthesis: those after a keyword are followed by an operand. -/
def closeParen (c : Spot) : Spot :=
  ⟨c.brackets.tail, if c.brackets.head? = some .header then .operand else .operator⟩

/-- The spot after a token. -/
def step (c : Spot) : Token → Spot
  | .newline => if c.inside then c else c.restart
  | .openParen => c.openParen
  | .closeParen => c.closeParen
  | .openBracket => ⟨.index :: c.brackets, .operand⟩
  | .openElement => ⟨.index :: .index :: c.brackets, .operand⟩
  | .openBrace => ⟨.brace :: c.brackets, .operand⟩
  | .closeBracket | .closeBrace => ⟨c.brackets.tail, .operator⟩
  | .comma => if c.brackets.head? = some .call then { c with lead := .argument } else c.restart
  | .kwFunction | .kwIf | .kwFor => { c with lead := .header }
  | .name _ | .text _ => if c.lead = .argument then { c with lead := .equals } else c.finish
  | .number _ | .integer _ | .kwTrue | .kwFalse | .kwNull | .kwNA => c.finish
  | _ => c.restart

def after (toks : List Token) : Spot := toks.foldl step first

/-- Whether the token belongs to the one before the spot, so that no newline may come between: the
first token of a call or a selection after its operand, or the equals sign after a label. -/
def joins (c : Spot) : Token → Bool
  | .assign => c.lead = .equals
  | t => c.ended && t.selects

theorem inside_congr (h : c'.brackets = c.brackets) : c'.inside = c.inside := by
  rw [inside, h, inside]

theorem inside_of_head? {b : Bracket} (h : c.brackets.head? = some b) (hb : b ≠ .brace) :
    c.inside = true := by
  rw [inside, h]
  exact decide_eq_true hb

theorem inside_of_brace (h : c.brackets.head? = some .brace) : c.inside = false := by
  rw [inside, h]
  rfl

theorem inside_of_nil (h : c.brackets = []) : c.inside = false := by
  rw [inside, h]
  rfl

theorem opens_of_lead (h : c.lead = .operand) : c.opens = true := by
  rw [opens, h]
  rfl

theorem restart_of_lead (h : c.lead = .operand) : c.restart = c := by
  rw [restart, ← h]

theorem step_newline_of_inside (h : c.inside = true) : c.step .newline = c := if_pos h

theorem inside_step_newline (c : Spot) : (c.step .newline).inside = c.inside := by
  rw [step]
  split <;> rfl

theorem step_newline_of_lead (h : c.lead = .operand) : c.step .newline = c := by
  rw [step, restart_of_lead h, ite_self]

theorem step_separator (h : c.inside = false) (ht : t.isSeparator = true) :
    c.step t = c.restart := by
  cases t
  case newline => exact if_neg (by rw [h]; exact Bool.false_ne_true)
  case semicolon => rfl
  all_goals cases ht

theorem step_arrow {global : Bool} (h : t.arrow? = some global) : c.step t = c.restart := by
  cases t <;> first | rfl | cases h

theorem step_operator {tier : Tier} {op : BinaryOp} (h : tier.operator? t = some op) :
    c.step t = c.restart := by
  cases tier <;> cases t <;> first | rfl | cases h

theorem step_openParen_of_ended (h : c.ended = true) :
    c.step .openParen = ⟨.call :: c.brackets, .argument⟩ := by
  obtain ⟨brackets, lead⟩ := c
  cases lead <;> first | rfl | cases h

theorem step_openParen_of_opens (h : c.opens = true) :
    c.step .openParen = ⟨.group :: c.brackets, .operand⟩ := by
  obtain ⟨brackets, lead⟩ := c
  cases lead <;> first | rfl | cases h

theorem step_openParen_of_header (h : c.lead = .header) :
    c.step .openParen = ⟨.header :: c.brackets, .operand⟩ := by
  obtain ⟨brackets, lead⟩ := c
  cases lead <;> first | rfl | cases h

theorem step_closeParen_of_header (h : c.brackets.head? = some .header) :
    c.step .closeParen = ⟨c.brackets.tail, .operand⟩ := by
  rw [step, closeParen, if_pos h]

theorem step_closeParen_of_ne (h : c.brackets.head? ≠ some .header) :
    c.step .closeParen = ⟨c.brackets.tail, .operator⟩ := by
  rw [step, closeParen, if_neg h]

theorem step_comma_of_call (h : c.brackets.head? = some .call) :
    c.step .comma = { c with lead := .argument } :=
  if_pos h

theorem step_comma_of_ne (h : c.brackets.head? ≠ some .call) : c.step .comma = c.restart :=
  if_neg h

theorem step_label_of_lead {s : String} (h : c.lead = .operand) (ht : t.label? = some s) :
    c.step t = c.finish := by
  have hlead : ¬c.lead = .argument := by rw [h]; decide
  cases t <;> first | exact if_neg hlead | cases ht

theorem brackets_step_name (c : Spot) (s : String) : (c.step (.name s)).brackets = c.brackets := by
  rw [step]
  split <;> rfl

theorem ended_step_name (c : Spot) (s : String) : (c.step (.name s)).ended = true := by
  rw [step]
  split <;> rfl

theorem brackets_step_constant {v : RValue} (ht : t.constant? = some v) :
    (c.step t).brackets = c.brackets := by
  cases t
  case text s => exact brackets_step_name c s
  all_goals first | rfl | cases ht

theorem ended_step_constant {v : RValue} (ht : t.constant? = some v) :
    (c.step t).ended = true := by
  cases t
  case text s => exact ended_step_name c s
  all_goals first | rfl | cases ht

theorem joins_of_selects (h : c.ended = true) (ht : t.selects = true) : c.joins t = true := by
  cases t <;> first | exact (Bool.and_true _).trans h | cases ht

theorem joins_newline (c : Spot) : c.joins .newline = false := Bool.and_false _

end Spot

namespace Expr

/-- The same tokens from a spot on, with newlines between them that mean nothing. -/
inductive Spread : Spot → List Token → List Token → Prop where
  | nil {c} : Spread c [] []
  | keep {c t toks toks'} : Spread (c.step t) toks toks' → Spread c (t :: toks) (t :: toks')
  | newline {c toks toks'} :
      c.inside = true → toks.head?.any c.joins = false → Spread c toks toks' →
      Spread c toks (.newline :: toks')

namespace Spread

variable {c : Spot} {t : Token} {n : Bool} {toks toks' rest mid : List Token}

theorem refl (c : Spot) (toks : List Token) : Spread c toks toks := by
  induction toks generalizing c with
  | nil => exact .nil
  | cons t toks ih => exact .keep (ih _)

/-- Tokens are spread by a newline at a spot where it means nothing. -/
theorem insert {pre post : List Token} (hin : (pre.foldl Spot.step c).inside = true)
    (hpost : post.head?.any (pre.foldl Spot.step c).joins = false) :
    Spread c (pre ++ post) (pre ++ .newline :: post) := by
  induction pre generalizing c with
  | nil => exact .newline hin hpost (refl c post)
  | cons t pre ih => exact .keep (ih hin hpost)

/-! ### The next token -/

/-- The next token is the same, if there is no newline before it. -/
theorem head?_eq (h : Spread c toks toks') (hhead : toks'.head? ≠ some .newline) :
    toks'.head? = toks.head? := by
  cases h with
  | nil => rfl
  | keep => rfl
  | newline => exact absurd rfl hhead

theorem cons (h : Spread c (t :: toks) toks') (hhead : toks'.head? ≠ some .newline) :
    ∃ rest', toks' = t :: rest' ∧ Spread (c.step t) toks rest' := by
  cases h with
  | keep h => exact ⟨_, rfl, h⟩
  | newline => exact absurd rfl hhead

theorem cons_of_joins (h : Spread c (t :: toks) toks') (ht : c.joins t = true) :
    ∃ rest', toks' = t :: rest' ∧ Spread (c.step t) toks rest' := by
  cases h with
  | keep h => exact ⟨_, rfl, h⟩
  | newline _ hjoins =>
    rw [List.head?_cons, Option.any_some, ht] at hjoins
    cases hjoins

/-- Where newlines count, none has been put before the next token. -/
theorem not_inside_cases (h : Spread c toks toks') (hin : c.inside = false) :
    toks = [] ∧ toks' = [] ∨
      ∃ t rest rest', toks = t :: rest ∧ toks' = t :: rest' ∧ Spread (c.step t) rest rest' := by
  cases h with
  | nil => exact .inl ⟨rfl, rfl⟩
  | keep h => exact .inr ⟨_, _, _, rfl, rfl, h⟩
  | newline hinside =>
    rw [hin] at hinside
    cases hinside

theorem cons_of_not_inside (h : Spread c (t :: toks) toks') (hin : c.inside = false) :
    ∃ rest', toks' = t :: rest' ∧ Spread (c.step t) toks rest' := by
  obtain ⟨hnil, -⟩ | ⟨_, _, rest', heq, rfl, h⟩ := h.not_inside_cases hin
  · cases hnil
  · cases heq
    exact ⟨rest', rfl, h⟩

theorem head?_of_not_inside (h : Spread c toks toks') (hin : c.inside = false) :
    toks'.head? = toks.head? := by
  obtain ⟨rfl, rfl⟩ | ⟨_, _, _, rfl, rfl, -⟩ := h.not_inside_cases hin
  · rfl
  · rfl

/-- What newlines do not have, the next token does not have either. -/
theorem head?_any {p : Token → Bool} (h : Spread c toks toks') (hp : p .newline = false)
    (hnone : toks.head?.any p = false) : toks'.head?.any p = false := by
  cases h with
  | nil => rfl
  | keep => exact hnone
  | newline => exact hp

theorem head?_bind {α : Type} {f : Token → Option α} (h : Spread c toks toks')
    (hf : f .newline = none) (hnone : toks.head?.bind f = none) : toks'.head?.bind f = none := by
  cases h with
  | nil => rfl
  | keep => exact hnone
  | newline => exact hf

/-! ### What is passed over -/

theorem skipNewlines_head?_ne (toks : List Token) :
    (Expr.skipNewlines toks).head? ≠ some .newline := by
  intro h
  have hnot := List.head?_dropWhile_not Token.isNewline toks
  rw [← Expr.skipNewlines, h] at hnot
  cases hnot

theorem settle (h : Spread c toks toks') (hn : c.inside = n) :
    Spread c (Expr.settle n toks) (Expr.settle n toks') := by
  cases n with
  | false => exact h
  | true =>
    induction h with
    | nil => exact .nil
    | @keep c t toks toks' h ih =>
      by_cases ht : t.isNewline = true
      · obtain rfl : t = .newline := by cases t <;> first | rfl | cases ht
        rw [Spot.step_newline_of_inside hn] at ih
        exact ih hn
      · rw [Bool.not_eq_true] at ht
        rw [Expr.settle_cons true ht, Expr.settle_cons true ht]
        exact .keep h
    | newline _ _ _ ih => exact ih hn

theorem settle_cons (h : Spread c toks toks') (hn : c.inside = n)
    (hsettle : Expr.settle n toks = t :: rest) :
    ∃ rest', Expr.settle n toks' = t :: rest' ∧ Spread (c.step t) rest rest' := by
  have h := h.settle hn
  rw [hsettle] at h
  cases n with
  | false => exact h.cons_of_not_inside hn
  | true => exact h.cons (skipNewlines_head?_ne toks')

theorem head?_settle (h : Spread c toks toks') (hn : c.inside = n) :
    (Expr.settle n toks').head? = (Expr.settle n toks).head? := by
  cases n with
  | true => exact (h.settle hn).head?_eq (skipNewlines_head?_ne toks')
  | false => exact h.head?_of_not_inside hn

theorem skipNewlines (h : Spread c toks toks') (hlead : c.lead = .operand) :
    Spread c (Expr.skipNewlines toks) (Expr.skipNewlines toks') := by
  induction h with
  | nil => exact .nil
  | @keep c t toks toks' h ih =>
    by_cases ht : t.isNewline = true
    · obtain rfl : t = .newline := by cases t <;> first | rfl | cases ht
      rw [Spot.step_newline_of_lead hlead] at ih
      exact ih hlead
    · rw [Bool.not_eq_true] at ht
      rw [skipNewlines_cons ht, skipNewlines_cons ht]
      exact .keep h
  | newline _ _ _ ih => exact ih hlead

/-- Separators at the end of a statement, where newlines count: an operand comes next, unless there
is no separator. -/
theorem skipSeparators (h : Spread c toks toks') (hin : c.inside = false) :
    ∃ c', c'.brackets = c.brackets ∧
      (c'.lead = .operand ∨ c' = c ∧ toks.head?.any Token.isSeparator = false) ∧
      Spread c' (Expr.skipSeparators toks) (Expr.skipSeparators toks') := by
  induction h with
  | @nil c => exact ⟨c, rfl, .inr ⟨rfl, rfl⟩, .nil⟩
  | @keep c t toks toks' h ih =>
    by_cases ht : t.isSeparator = true
    · have hskip (rest : List Token) :
          Expr.skipSeparators (t :: rest) = Expr.skipSeparators rest :=
        List.dropWhile_cons_of_pos ht
      rw [Spot.step_separator hin ht] at ih
      obtain ⟨c', hbrackets, hlead, hspread⟩ := ih hin
      rw [hskip, hskip]
      refine ⟨c', hbrackets, .inl ?_, hspread⟩
      obtain hlead | ⟨rfl, -⟩ := hlead
      · exact hlead
      · rfl
    · have hskip (rest : List Token) : Expr.skipSeparators (t :: rest) = t :: rest :=
        List.dropWhile_cons_of_neg ht
      rw [hskip, hskip]
      exact ⟨c, rfl, .inr ⟨rfl, Bool.not_eq_true _ ▸ ht⟩, .keep h⟩
  | newline hinside =>
    rw [hin] at hinside
    cases hinside

theorem exists_skipNewlines (h : Spread c toks toks') :
    ∃ c' : Spot, c'.brackets = c.brackets ∧
      Spread c' (Expr.skipNewlines toks) (Expr.skipNewlines toks') := by
  cases hin : c.inside with
  | true => exact ⟨c, rfl, h.settle hin⟩
  | false =>
    obtain ⟨rfl, rfl⟩ | ⟨t, _, _, rfl, rfl, hrest⟩ := h.not_inside_cases hin
    · exact ⟨c, rfl, h⟩
    · by_cases ht : t.isNewline = true
      · -- The first newline ends a statement; those after it mean nothing any more.
        obtain rfl : t = .newline := by cases t <;> first | rfl | cases ht
        rw [Spot.step_separator hin rfl] at hrest
        exact ⟨c.restart, rfl, hrest.skipNewlines rfl⟩
      · rw [Bool.not_eq_true] at ht
        refine ⟨c, rfl, ?_⟩
        rw [skipNewlines_cons ht, skipNewlines_cons ht]
        exact h

theorem head?_skipNewlines (h : Spread c toks toks') :
    (Expr.skipNewlines toks').head? = (Expr.skipNewlines toks).head? := by
  obtain ⟨c', -, hspread⟩ := h.exists_skipNewlines
  exact hspread.head?_eq (skipNewlines_head?_ne toks')

theorem skipNewlines_eq_cons (h : Spread c toks toks')
    (hskip : Expr.skipNewlines toks = t :: rest) :
    ∃ (c' : Spot) (rest' : List Token), c'.brackets = c.brackets ∧
      Expr.skipNewlines toks' = t :: rest' ∧ Spread (c'.step t) rest rest' := by
  obtain ⟨c', hbrackets, hspread⟩ := h.exists_skipNewlines
  rw [hskip] at hspread
  obtain ⟨rest', hrest', h⟩ := hspread.cons (skipNewlines_head?_ne toks')
  exact ⟨c', rest', hbrackets, hrest', h⟩

/-! ### The label of an argument -/

theorem takeLabel_of_label {s : String} (ht : t.label? = some s) (rest : List Token) :
    Expr.takeLabel (t :: .assign :: rest) = (some s, rest) := by
  cases t <;> cases ht <;> rfl

theorem takeLabel_of_ne
    (h : ∀ (t : Token) (s : String) (rest : List Token), t.label? = some s →
      toks ≠ t :: .assign :: rest) :
    Expr.takeLabel toks = (none, toks) := by
  unfold Expr.takeLabel
  split
  · exact absurd rfl (h _ _ _ rfl)
  · exact absurd rfl (h _ _ _ rfl)
  · rfl

/-- The equals sign stays beside a label, and none comes to stand beside one. -/
theorem takeLabel {label : Option String} (h : Spread c toks toks') (hin : c.inside = true)
    (hlead : c.lead = .argument)
    (hlabel : Expr.takeLabel (Expr.settle true toks) = (label, mid)) :
    ∃ (c' : Spot) (mid' : List Token), c'.brackets = c.brackets ∧ c'.opens = true ∧
      Expr.takeLabel (Expr.settle true toks') = (label, mid') ∧ Spread c' mid mid' := by
  have hspread : Spread c (Expr.settle true toks) (Expr.settle true toks') := h.settle hin
  have hhead : (Expr.settle true toks').head? ≠ some .newline := skipNewlines_head?_ne toks'
  generalize Expr.settle true toks = left at *
  generalize Expr.settle true toks' = left' at *
  by_cases hlabelled : ∃ t s rest, Token.label? t = some s ∧ left = t :: .assign :: rest
  · obtain ⟨t, s, rest, ht, rfl⟩ := hlabelled
    rw [takeLabel_of_label ht] at hlabel
    cases hlabel
    obtain ⟨rest₁, rfl, hrest⟩ := hspread.cons hhead
    have hstep : c.step t = { c with lead := .equals } := by
      cases t <;> first | exact if_pos hlead | cases ht
    rw [hstep] at hrest
    obtain ⟨rest', rfl, hmid⟩ := hrest.cons_of_joins rfl
    exact ⟨c.restart, rest', rfl, rfl, takeLabel_of_label ht rest', hmid⟩
  · rw [takeLabel_of_ne fun t s rest ht heq => hlabelled ⟨t, s, rest, ht, heq⟩] at hlabel
    cases hlabel
    have hnone : Expr.takeLabel left' = (none, left') := by
      refine takeLabel_of_ne fun t s rest ht heq => ?_
      subst heq
      cases hspread with
      | newline => exact hhead rfl
      | keep hspread =>
        cases hspread with
        | keep => exact hlabelled ⟨_, _, _, ht, rfl⟩
    have hopens : c.opens = true := by
      rw [Spot.opens, hlead]
      rfl
    exact ⟨c, left', rfl, hopens, hnone, hspread⟩

end Spread

end Expr

end ScriptBridge
