import ScriptBridge.Proofs.Syntax.Complete

/-!
# How tightly operators bind

The levels of the grammar, from the loosest to the tightest (`Level`). What is read at a level is
read at each looser one, if the token that follows does not go on it there (`ReadsAt.loosen`). A
level whose operators group to the left reads an operand and goes on with it as the left side of the
next operator, so what is read there is stated together with how it goes on (`GoesOn`).
-/

namespace ScriptBridge

/-- The levels of expressions, from the loosest to the tightest. -/
inductive Level where
  /-- Assignments by an arrow. -/
  | arrow
  /-- Assignments by an equals sign. -/
  | equal
  /-- Operators that group to the left. -/
  | tier (t : Tier)
  | not
  | minus
  | power
  /-- Calls and selections. -/
  | selection
  | primary

namespace Level

def rank : Level → Nat
  | arrow => 1
  | equal => 2
  | tier .or => 3
  | tier .and => 4
  | not => 5
  | tier .comparison => 6
  | tier .sum => 7
  | tier .product => 8
  | tier .range => 9
  | minus => 10
  | power => 11
  | selection => 12
  | primary => 13

/-- The next level: that of the operands, or of what may stand alone. -/
def tighter : Level → Level
  | arrow => equal
  | equal => tier .or
  | tier .or => tier .and
  | tier .and => not
  | not => tier .comparison
  | tier .comparison => tier .sum
  | tier .sum => tier .product
  | tier .product => tier .range
  | tier .range => minus
  | minus => power
  | power => selection
  | selection | primary => primary

theorem rank_tighter {l : Level} (h : l.rank < 13) : l.tighter.rank = l.rank + 1 := by
  cases l with
  | tier t => cases t <;> rfl
  | primary => exact absurd h (Nat.lt_irrefl 13)
  | _ => rfl

theorem rank_pos (l : Level) : 1 ≤ l.rank := by
  cases l with
  | tier t => cases t <;> decide
  | _ => decide

theorem rank_le (l : Level) : l.rank ≤ 13 := by
  cases l with
  | tier t => cases t <;> decide
  | _ => decide

theorem rank_injective : Function.Injective rank := by
  intro l l' h
  rcases l with _ | _ | t | _ | _ | _ | _ | _ <;> rcases l' with _ | _ | t' | _ | _ | _ | _ | _
  all_goals first | rfl | cases t | skip
  all_goals first | rfl | cases t' | skip
  all_goals first | rfl | cases h

end Level

namespace Token

/-- The rank of the level at which the token goes on an expression, zero if it goes on none. -/
def goesOn : Token → Nat
  | leftAssign | superAssign => 1
  | assign => 2
  | orOr | or => 3
  | andAnd | and => 4
  | eq | ne | lt | le | gt | ge => 6
  | plus | minus => 7
  | star | slash => 8
  | colon => 9
  | caret => 11
  | openParen | openBracket | openElement | dollar => 12
  | _ => 0

/-- The rank of the tightest level at which an expression starts with the token, zero if none
does. A sign that changes nothing is not among them. -/
def opens : Token → Nat
  | bang => 5
  | minus => 10
  | number _ | integer _ | text _ | name _ | kwTrue | kwFalse | kwNull | kwNA | openParen => 13
  | _ => 0

end Token

namespace Expr

variable {n : Bool} {toks rest rest' : List Token} {x z : Expr} {k : Nat} {l : Level} {t : Token}

/-- An expression may end before these tokens: the first of them goes on no level from the `k`-th
on, and is no newline. -/
def Stops (k : Nat) (rest : List Token) : Prop :=
  ∀ t, rest.head? = some t → t.isNewline = false ∧ t.goesOn < k

/-- An expression of a level may start with these tokens. -/
def Opens (k : Nat) (toks : List Token) : Prop := ∃ t rest, toks = t :: rest ∧ k ≤ t.opens

theorem stops_nil (k : Nat) : Stops k [] := nofun

theorem stops_cons (hnewline : t.isNewline = false) (h : t.goesOn < k) : Stops k (t :: rest) := by
  intro s hs
  cases hs
  exact ⟨hnewline, h⟩

theorem Stops.mono {k' : Nat} (h : Stops k rest) (hk : k ≤ k') : Stops k' rest :=
  fun t ht => ⟨(h t ht).1, Nat.lt_of_lt_of_le (h t ht).2 hk⟩

theorem settle_cons (n : Bool) (h : t.isNewline = false) : settle n (t :: rest) = t :: rest := by
  cases n with
  | false => rfl
  | true => exact List.dropWhile_cons_of_neg (by rw [h]; exact Bool.false_ne_true)

theorem Stops.settle (h : Stops k rest) (n : Bool) : settle n rest = rest := by
  cases rest with
  | nil => cases n <;> rfl
  | cons t rest => exact settle_cons n (h t rfl).1

theorem Stops.head?_ne (h : Stops k rest) (ht : k ≤ t.goesOn) : rest.head? ≠ some t := by
  intro heq
  exact absurd (h t heq).2 (Nat.not_lt.mpr ht)

theorem Opens.settle (h : Opens k toks) (hk : 0 < k) (n : Bool) : settle n toks = toks := by
  obtain ⟨t, rest, rfl, ht⟩ := h
  refine settle_cons n ?_
  cases t <;> first | rfl | exact absurd (Nat.lt_of_lt_of_le hk ht) (Nat.lt_irrefl 0)

theorem Opens.head?_ne (h : Opens k toks) (ht : t.opens < k) : toks.head? ≠ some t := by
  obtain ⟨s, rest, rfl, hs⟩ := h
  intro heq
  cases heq
  omega

theorem goesOn_of_operator? {tier : Tier} {op : BinaryOp} (h : tier.operator? t = some op) :
    t.goesOn = (Level.tier tier).rank := by
  cases tier <;> cases t <;> first | rfl | cases h

theorem Stops.operator? {tier : Tier} (h : Stops (Level.tier tier).rank rest) :
    rest.head?.bind tier.operator? = none := by
  cases hhead : rest.head? with
  | none => rfl
  | some t =>
    cases hop : tier.operator? t with
    | none => exact hop
    | some op =>
      have hlt := (h t hhead).2
      rw [goesOn_of_operator? hop] at hlt
      exact absurd hlt (Nat.lt_irrefl _)

/-! ### Reading at a level -/

/-- An expression of a level stands at the first tokens. -/
def ReadsAt (n : Bool) (toks : List Token) (x : Expr) (rest : List Token) : Level → Prop
  | .arrow => Reads (.expr n) toks x rest
  | .equal => Reads (.equal n) toks x rest
  | .tier t => Reads (.tier t n) toks x rest
  | .not => Reads (.not n) toks x rest
  | .minus => Reads (.signed n) toks x rest
  | .power => Reads (.power n) toks x rest
  | .selection => Reads (.selection n) toks x rest
  | .primary => Reads (.primary n) toks x rest

/-- After `x` at a level, the parser goes on to `z`. Where nothing groups to the left, it stops. -/
def GoesOn (n : Bool) (x : Expr) (rest : List Token) (z : Expr) (rest' : List Token) : Level → Prop
  | .tier t => Reads (.tierRest t n x) rest z rest'
  | .selection => Reads (.selectionRest n x) rest z rest'
  | l => z = x ∧ rest' = rest ∧ Stops l.rank rest

theorem goesOn_self (n : Bool) (x : Expr) (h : Stops l.rank rest) : GoesOn n x rest x rest l := by
  cases l with
  | tier t =>
    have hread : Reads (.tierRest t n x) rest x (settle n rest) := by
      refine .tierStop ?_
      rw [h.settle]
      exact h.operator?
    rw [h.settle] at hread
    exact hread
  | selection =>
    refine .selectionStop ?_
    cases hhead : rest.head? with
    | none => rfl
    | some t =>
      have hlt : t.goesOn < 12 := (h t hhead).2
      cases t <;> first | rfl | exact absurd hlt (Nat.lt_irrefl 12)
  | _ => exact ⟨rfl, rfl, h⟩

theorem reads_operand_of_tighter {t : Tier} (h : ReadsAt n toks x rest (Level.tier t).tighter) :
    Reads (.operand t n) toks x rest := by
  cases t with
  | and => exact .operandNot h
  | range => exact .operandSigned h
  | or => exact .operandTier rfl h
  | comparison => exact .operandTier rfl h
  | sum => exact .operandTier rfl h
  | product => exact .operandTier rfl h

theorem reads_signed_of_power (h : Reads (.power n) toks x rest) (hopens : Opens 11 toks) :
    Reads (.signed n) toks x rest := by
  have hsettle := hopens.settle (by omega) n
  refine .signedStop ?_ ?_ ?_
  · rw [hsettle]
    exact hopens.head?_ne (show 10 < 11 by omega)
  · rw [hsettle]
    exact hopens.head?_ne (show 0 < 11 by omega)
  · rw [hsettle]
    exact h

theorem ReadsAt.loosen_one (h : ReadsAt n toks x rest l.tighter) (hl : 3 ≤ l.rank)
    (hlt : l.rank < 13) (hopens : Opens (l.rank + 1) toks) (hgoes : GoesOn n x rest z rest' l) :
    ReadsAt n toks z rest' l := by
  cases l with
  | arrow => exact absurd hl (by decide)
  | equal => exact absurd hl (by decide)
  | primary => exact absurd hlt (by decide)
  | tier t => exact .tier (reads_operand_of_tighter h) hgoes
  | selection => exact .selection h hgoes
  | not =>
    obtain ⟨rfl, rfl, -⟩ := hgoes
    have hsettle := hopens.settle (Nat.succ_pos _) n
    refine .notStop ?_ ?_
    · rw [hsettle]
      exact hopens.head?_ne (show 5 < 6 by omega)
    · rw [hsettle]
      exact h
  | minus =>
    obtain ⟨rfl, rfl, -⟩ := hgoes
    exact reads_signed_of_power h hopens
  | power =>
    obtain ⟨rfl, rfl, hstops⟩ := hgoes
    have hread : Reads (.power n) toks z (settle n rest') := by
      refine .powerStop h ?_
      rw [hstops.settle]
      exact hstops.head?_ne (show 11 ≤ 11 by omega)
    rw [hstops.settle] at hread
    exact hread

theorem Opens.mono {k' : Nat} (h : Opens k toks) (hk : k' ≤ k) : Opens k' toks := by
  obtain ⟨t, rest, htoks, ht⟩ := h
  exact ⟨t, rest, htoks, Nat.le_trans hk ht⟩

theorem ReadsAt.loosen {l' : Level} (h : ReadsAt n toks x rest l') (hopens : Opens l'.rank toks) :
    ∀ {l : Level}, 3 ≤ l.rank → l.rank < l'.rank → Stops (l.rank + 1) rest →
      GoesOn n x rest z rest' l → ReadsAt n toks z rest' l := by
  have hl' := l'.rank_le
  suffices hdistance : ∀ (d : Nat) (l : Level) (z : Expr) (rest' : List Token), 3 ≤ l.rank →
      l.rank + (d + 1) = l'.rank → Stops (l.rank + 1) rest → GoesOn n x rest z rest' l →
      ReadsAt n toks z rest' l by
    intro l hl hlt
    exact hdistance (l'.rank - l.rank - 1) l z rest' hl (by omega)
  intro d
  induction d with
  | zero =>
    intro l z rest' hl hrank hstops hgoes
    have htighter := Level.rank_tighter (l := l) (by omega)
    have heq : l.tighter = l' := Level.rank_injective (by omega)
    rw [← heq] at h
    exact h.loosen_one hl (by omega) (hopens.mono (by omega)) hgoes
  | succ d ih =>
    intro l z rest' hl hrank hstops hgoes
    have htighter := Level.rank_tighter (l := l) (by omega)
    have hnext : ReadsAt n toks x rest l.tighter :=
      ih l.tighter x rest (by omega) (by omega) (hstops.mono (by omega))
        (goesOn_self n x (by rw [htighter]; exact hstops))
    exact hnext.loosen_one hl (by omega) (hopens.mono (by omega)) hgoes

end Expr

end ScriptBridge
