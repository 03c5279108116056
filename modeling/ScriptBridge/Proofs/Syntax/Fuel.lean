import ScriptBridge.Proofs.Syntax.Scanning
import ScriptBridge.Syntax.Parser

/-!
# Reading a program comes to an end

The parsers call each other with one step less each time. Between two tokens that they read there
are so many calls at most (`Tier.rank` and the numbers below), each of which a parser needs steps
for, and so many again for each token that is left: then it does not stop for want of steps, and
leaves fewer tokens (`Expr.Within`). `Expr.parseFuel` gives as many, so no program is too large
(`Expr.readProgram_ne_exhausted`).
-/

namespace ScriptBridge

/-- The calls between an operand of the tier and the token that it starts with. -/
def Tier.rank : Tier → Nat
  | .or => 16
  | .and => 14
  | .comparison => 11
  | .sum => 9
  | .product => 7
  | .range => 5

theorem Tier.rank_le (tier : Tier) : tier.rank ≤ 16 := by cases tier <;> decide

namespace Expr

variable {α β : Type} {n k : Nat} {toks rest : List Token} {nested : Bool}

/-- What a parser yields is no want of steps, and it leaves fewer than `n` tokens. -/
def Within (n : Nat) : Except SyntaxError (α × List Token) → Prop
  | .ok (_, rest) => rest.length < n
  | .error e => e ≠ .exhausted

theorem Within.bind {r : Except SyntaxError (α × List Token)}
    {f : α × List Token → Except SyntaxError (β × List Token)} (hr : Within n r)
    (hf : ∀ a rest, rest.length < n → Within k (f (a, rest))) : Within k (r >>= f) := by
  rcases r with e | ⟨a, rest⟩
  · exact hr
  · exact hf a rest hr

theorem Within.mono {r : Except SyntaxError (α × List Token)} (hr : Within n r) (h : n ≤ k) :
    Within k r := by
  rcases r with e | ⟨a, rest⟩
  · exact hr
  · exact Nat.lt_of_lt_of_le hr h

theorem within_ok {a : α} (h : rest.length < n) : Within n (.ok (a, rest)) := h

theorem within_error {e : SyntaxError} (h : e ≠ .exhausted) :
    Within n (.error e : Except SyntaxError (α × List Token)) := h

theorem length_skipNewlines_le (toks : List Token) : (skipNewlines toks).length ≤ toks.length :=
  (List.dropWhile_sublist _).length_le

theorem length_skipSeparators_le (toks : List Token) :
    (skipSeparators toks).length ≤ toks.length :=
  (List.dropWhile_sublist _).length_le

theorem length_settle_le (nested : Bool) (toks : List Token) :
    (settle nested toks).length ≤ toks.length := by
  cases nested
  · exact Nat.le_refl _
  · exact length_skipNewlines_le toks

theorem length_lt_of_settle {t : Token} (h : settle nested toks = t :: rest) :
    rest.length < toks.length := by
  have hle := length_settle_le nested toks
  rw [h, List.length_cons] at hle
  exact hle

theorem within_require {isSought : Token → Bool} {sought : Expectation}
    {f : List Token → Except SyntaxError (β × List Token)}
    (hf : ∀ rest, rest.length < toks.length → Within k (f rest)) :
    Within k (require isSought sought nested toks >>= f) := by
  unfold require
  split
  · next t rest h =>
    split
    · exact hf rest (length_lt_of_settle h)
    · exact within_error (by simp)
  · exact within_error (by simp)

theorem within_makeAssign (target value : Expr) (global : Bool) (h : rest.length < n) :
    Within n (do return (← makeAssign target value global, rest)) := by
  unfold makeAssign
  split
  all_goals first | exact within_ok h | exact within_error (by simp)

mutual

theorem within_parseExpr : ∀ (fuel : Nat) (nested : Bool) (toks : List Token),
    19 + 32 * toks.length ≤ fuel → Within toks.length (parseExpr fuel nested toks)
  | 0, _, _, h => by omega
  | fuel + 1, nested, toks, h => by
    rw [parseExpr]
    refine (within_parseEqual fuel nested toks (by omega)).bind fun lhs rest hrest => ?_
    have hsettle := length_settle_le nested rest
    exact (within_parseArrow fuel nested lhs _ (by omega)).mono (by omega)

theorem within_parseArrow : ∀ (fuel : Nat) (nested : Bool) (lhs : Expr) (toks : List Token),
    1 + 32 * toks.length ≤ fuel → Within (toks.length + 1) (parseArrow fuel nested lhs toks)
  | 0, _, _, _, h => by omega
  | fuel + 1, nested, lhs, toks, h => by
    unfold parseArrow
    split
    · next rest =>
      rw [List.length_cons] at h ⊢
      have hskip := length_skipNewlines_le rest
      refine (within_parseExpr fuel nested _ (by omega)).bind fun rhs rest hrest => ?_
      exact within_makeAssign _ _ _ (by omega)
    · next rest =>
      rw [List.length_cons] at h ⊢
      have hskip := length_skipNewlines_le rest
      refine (within_parseExpr fuel nested _ (by omega)).bind fun rhs rest hrest => ?_
      exact within_makeAssign _ _ _ (by omega)
    · exact within_ok (Nat.lt_succ_self _)

theorem within_parseEqual : ∀ (fuel : Nat) (nested : Bool) (toks : List Token),
    18 + 32 * toks.length ≤ fuel → Within toks.length (parseEqual fuel nested toks)
  | 0, _, _, h => by omega
  | fuel + 1, nested, toks, h => by
    rw [parseEqual]
    refine (within_parseTier fuel .or nested toks (by simp only [Tier.rank]; omega)).bind
      fun lhs rest hrest => ?_
    have hsettle := length_settle_le nested rest
    dsimp only
    split
    · next rest' heq =>
      rw [heq, List.length_cons] at hsettle
      have hskip := length_skipNewlines_le rest'
      refine (within_parseExpr fuel nested _ (by omega)).bind fun rhs rest hrest => ?_
      exact within_makeAssign _ _ _ (show rest.length < _ by omega)
    · exact within_ok (by omega)

theorem within_parseTier : ∀ (fuel : Nat) (tier : Tier) (nested : Bool) (toks : List Token),
    tier.rank + 1 + 32 * toks.length ≤ fuel → Within toks.length (parseTier fuel tier nested toks)
  | 0, _, _, _, h => by omega
  | fuel + 1, tier, nested, toks, h => by
    rw [parseTier]
    refine (within_parseOperand fuel tier nested toks (by omega)).bind fun lhs rest hrest => ?_
    exact (within_parseTierRest fuel tier nested lhs rest (by omega)).mono (by omega)

theorem within_parseTierRest :
    ∀ (fuel : Nat) (tier : Tier) (nested : Bool) (lhs : Expr) (toks : List Token),
    1 + 32 * toks.length ≤ fuel →
      Within (toks.length + 1) (parseTierRest fuel tier nested lhs toks)
  | 0, _, _, _, _, h => by omega
  | fuel + 1, tier, nested, lhs, toks, h => by
    have hsettle := length_settle_le nested toks
    unfold parseTierRest
    split
    · exact within_ok (Nat.zero_lt_succ _)
    · next t rest heq =>
      rw [heq, List.length_cons] at hsettle
      split
      · exact within_ok (by rw [List.length_cons]; omega)
      · next op _ =>
        have hskip := length_skipNewlines_le rest
        have hrank := tier.rank_le
        refine (within_parseOperand fuel tier nested _ (by omega)).bind fun rhs rest hrest => ?_
        exact (within_parseTierRest fuel tier nested _ rest (by omega)).mono (by omega)

theorem within_parseOperand : ∀ (fuel : Nat) (tier : Tier) (nested : Bool) (toks : List Token),
    tier.rank + 32 * toks.length ≤ fuel → Within toks.length (parseOperand fuel tier nested toks)
  | 0, tier, _, _, h => by cases tier <;> simp only [Tier.rank] at h <;> omega
  | fuel + 1, tier, nested, toks, h => by
    cases tier <;> simp only [Tier.rank] at h
    all_goals rw [parseOperand]
    case and => exact within_parseNot fuel nested toks (by omega)
    case range => exact within_parseSigned fuel nested toks (by omega)
    all_goals exact within_parseTier fuel _ nested toks (by simp only [Tier.rank]; omega)

theorem within_parseNot : ∀ (fuel : Nat) (nested : Bool) (toks : List Token),
    13 + 32 * toks.length ≤ fuel → Within toks.length (parseNot fuel nested toks)
  | 0, _, _, h => by omega
  | fuel + 1, nested, toks, h => by
    have hsettle := length_settle_le nested toks
    rw [parseNot]
    split
    · next rest heq =>
      rw [heq, List.length_cons] at hsettle
      refine (within_parseNot fuel nested rest (by omega)).bind fun x rest hrest => ?_
      exact within_ok (by omega)
    · have htier := within_parseTier fuel .comparison nested (settle nested toks)
        (by simp only [Tier.rank]; omega)
      exact htier.mono hsettle

theorem within_parseSigned : ∀ (fuel : Nat) (nested : Bool) (toks : List Token),
    4 + 32 * toks.length ≤ fuel → Within toks.length (parseSigned fuel nested toks)
  | 0, _, _, h => by omega
  | fuel + 1, nested, toks, h => by
    have hsettle := length_settle_le nested toks
    rw [parseSigned]
    split
    · next rest heq =>
      rw [heq, List.length_cons] at hsettle
      refine (within_parseSigned fuel nested rest (by omega)).bind fun x rest hrest => ?_
      exact within_ok (by omega)
    · next rest heq =>
      rw [heq, List.length_cons] at hsettle
      exact (within_parseSigned fuel nested rest (by omega)).mono (by omega)
    · exact (within_parsePower fuel nested _ (by omega)).mono hsettle

theorem within_parsePower : ∀ (fuel : Nat) (nested : Bool) (toks : List Token),
    3 + 32 * toks.length ≤ fuel → Within toks.length (parsePower fuel nested toks)
  | 0, _, _, h => by omega
  | fuel + 1, nested, toks, h => by
    rw [parsePower]
    refine (within_parsePostfix fuel nested toks (by omega)).bind fun base rest hrest => ?_
    have hsettle := length_settle_le nested rest
    dsimp only
    split
    · next rest' heq =>
      rw [heq, List.length_cons] at hsettle
      have hskip := length_skipNewlines_le rest'
      refine (within_parseSigned fuel nested _ (by omega)).bind fun exponent rest hrest => ?_
      exact within_ok (show rest.length < _ by omega)
    · exact within_ok (by omega)

theorem within_parsePostfix : ∀ (fuel : Nat) (nested : Bool) (toks : List Token),
    2 + 32 * toks.length ≤ fuel → Within toks.length (parsePostfix fuel nested toks)
  | 0, _, _, h => by omega
  | fuel + 1, nested, toks, h => by
    rw [parsePostfix]
    refine (within_parsePrimary fuel nested toks (by omega)).bind fun x rest hrest => ?_
    exact (within_parsePostfixRest fuel nested x rest (by omega)).mono (by omega)

theorem within_parsePostfixRest :
    ∀ (fuel : Nat) (nested : Bool) (x : Expr) (toks : List Token),
    1 + 32 * toks.length ≤ fuel → Within (toks.length + 1) (parsePostfixRest fuel nested x toks)
  | 0, _, _, _, h => by omega
  | fuel + 1, nested, x, toks, h => by
    unfold parsePostfixRest
    split
    · next rest =>
      rw [List.length_cons] at h ⊢
      refine (within_parseArgs fuel rest (by omega)).bind fun args rest hrest => ?_
      exact (within_parsePostfixRest fuel nested _ rest (by omega)).mono (by omega)
    · next rest =>
      rw [List.length_cons] at h ⊢
      refine (within_parseExpr fuel true rest (by omega)).bind fun i rest hrest => ?_
      refine within_require fun rest hrest => ?_
      exact (within_parsePostfixRest fuel nested _ rest (by omega)).mono (by omega)
    · next rest =>
      rw [List.length_cons] at h ⊢
      refine (within_parseExpr fuel true rest (by omega)).bind fun i rest hrest => ?_
      refine within_require fun rest hrest => within_require fun rest hrest => ?_
      exact (within_parsePostfixRest fuel nested _ rest (by omega)).mono (by omega)
    · next rest =>
      rw [List.length_cons] at h ⊢
      split
      · next n rest' heq =>
        have hname := length_lt_of_settle heq
        exact (within_parsePostfixRest fuel nested _ _ (by omega)).mono (by omega)
      · next n rest' heq =>
        have hname := length_lt_of_settle heq
        exact (within_parsePostfixRest fuel nested _ _ (by omega)).mono (by omega)
      · exact within_error (by simp)
    · exact within_ok (Nat.lt_succ_self _)

theorem within_parseArgs : ∀ (fuel : Nat) (toks : List Token),
    20 + 32 * toks.length ≤ fuel → Within toks.length (parseArgs fuel toks)
  | 0, _, h => by omega
  | fuel + 1, toks, h => by
    have hsettle := length_settle_le true toks
    rw [parseArgs]
    split
    · next rest heq => exact within_ok (length_lt_of_settle heq)
    · exact (within_parseArgsFrom fuel _ (by omega)).mono hsettle

theorem within_parseArgsFrom : ∀ (fuel : Nat) (toks : List Token),
    19 + 32 * toks.length ≤ fuel → Within toks.length (parseArgsFrom fuel toks)
  | 0, _, h => by omega
  | fuel + 1, toks, h => by
    -- The value and what follows it, after a label or none.
    have hvalue (label : Option String) (toks' : List Token) (hle : toks'.length ≤ toks.length) :
        Within toks.length (do
          let (x, toks) ← parseArgValue fuel toks'
          match settle true toks with
          | .closeParen :: rest => return ([(label, x)], rest)
          | toks =>
            let toks ← requireComma true toks
            let (args, toks) ← parseArgsFrom fuel toks
            return ((label, x) :: args, toks)) := by
      refine (within_parseArgValue fuel toks' (by omega)).bind fun x rest hrest => ?_
      have hsettle := length_settle_le true rest
      dsimp only
      split
      · next rest' heq =>
        have hclose := length_lt_of_settle heq
        exact within_ok (by omega)
      · refine within_require fun rest' hrest' => ?_
        refine (within_parseArgsFrom fuel rest' (by omega)).bind fun args rest hrest => ?_
        exact within_ok (show rest.length < _ by omega)
    have hsettle := length_settle_le true toks
    rw [parseArgsFrom]
    split
    next label rest heq =>
      refine hvalue label rest ?_
      split at heq
      · next heq' =>
        cases heq
        rw [heq', List.length_cons, List.length_cons] at hsettle
        omega
      · next heq' =>
        cases heq
        rw [heq', List.length_cons, List.length_cons] at hsettle
        omega
      · cases heq
        exact hsettle

theorem within_parseArgValue : ∀ (fuel : Nat) (toks : List Token),
    18 + 32 * toks.length ≤ fuel → Within toks.length (parseArgValue fuel toks)
  | 0, _, h => by omega
  | fuel + 1, toks, h => by
    rw [parseArgValue]
    refine (within_parseTier fuel .or true toks (by simp only [Tier.rank]; omega)).bind
      fun lhs rest hrest => ?_
    have hsettle := length_settle_le true rest
    exact (within_parseArrow fuel true lhs _ (by omega)).mono (by omega)

theorem within_parseParams : ∀ (fuel : Nat) (nested : Bool) (toks : List Token),
    1 + 32 * toks.length ≤ fuel → Within toks.length (parseParams fuel nested toks)
  | 0, _, _, h => by omega
  | fuel + 1, nested, toks, h => by
    rw [parseParams]
    refine within_require fun rest hrest => ?_
    have hsettle := length_settle_le true rest
    split
    · next rest' heq =>
      have hclose := length_lt_of_settle heq
      exact within_ok (by omega)
    · exact (within_parseParamsFrom fuel _ (by omega)).mono (by omega)

theorem within_parseParamsFrom : ∀ (fuel : Nat) (toks : List Token),
    1 + 32 * toks.length ≤ fuel → Within toks.length (parseParamsFrom fuel toks)
  | 0, _, h => by omega
  | fuel + 1, toks, h => by
    rw [parseParamsFrom]
    split
    · next n rest heq =>
      have hname := length_lt_of_settle heq
      extract_lets after
      -- What follows a parameter, with a default or without.
      have hafter (preset : Option Expr) (toks' : List Token) (hle : toks'.length ≤ rest.length) :
          Within toks.length (after (preset, toks')) := by
        have hsettle := length_settle_le true toks'
        dsimp only [after]
        split
        · next rest' heq =>
          have hclose := length_lt_of_settle heq
          exact within_ok (by omega)
        · refine within_require fun rest' hrest' => ?_
          refine (within_parseParamsFrom fuel rest' (by omega)).bind fun params rest hrest => ?_
          exact within_ok (show rest.length < _ by omega)
      have hsettle := length_settle_le true rest
      split
      · next rest' heq =>
        rw [heq, List.length_cons] at hsettle
        refine (within_parseTier fuel .or true rest' (by simp only [Tier.rank]; omega)).bind
          fun x rest hrest => ?_
        exact hafter (some x) rest (by omega)
      · exact hafter none _ hsettle
    · exact within_error (by simp)

theorem within_parsePrimary : ∀ (fuel : Nat) (nested : Bool) (toks : List Token),
    1 + 32 * toks.length ≤ fuel → Within toks.length (parsePrimary fuel nested toks)
  | 0, _, _, h => by omega
  | fuel + 1, nested, toks, h => by
    rw [parsePrimary]
    split
    all_goals try exact within_ok (length_lt_of_settle ‹settle nested toks = _›)
    · next rest heq =>
      have hopen := length_lt_of_settle heq
      refine (within_parseExpr fuel true rest (by omega)).bind fun x rest hrest => ?_
      exact within_require fun rest hrest => within_ok (by omega)
    · next rest heq =>
      have hopen := length_lt_of_settle heq
      refine (within_parseBlock fuel rest (by omega)).bind fun body rest hrest => ?_
      exact within_ok (show rest.length < _ by omega)
    · next rest heq =>
      have hkeyword := length_lt_of_settle heq
      refine (within_parseParams fuel nested rest (by omega)).bind fun params rest hrest => ?_
      have hskip := length_skipNewlines_le rest
      refine (within_parseExpr fuel nested _ (by omega)).bind fun body rest hrest => ?_
      exact within_ok (show rest.length < _ by omega)
    · next rest heq =>
      have hkeyword := length_lt_of_settle heq
      refine within_require fun rest hrest => ?_
      refine (within_parseExpr fuel true rest (by omega)).bind fun test rest hrest => ?_
      refine within_require fun rest hrest => ?_
      have hskip := length_skipNewlines_le rest
      refine (within_parseExpr fuel nested _ (by omega)).bind fun yes rest hrest => ?_
      have hskip := length_skipNewlines_le rest
      dsimp only
      split
      · next rest' heq =>
        rw [heq, List.length_cons] at hskip
        have hskip' := length_skipNewlines_le rest'
        refine (within_parseExpr fuel nested _ (by omega)).bind fun no rest hrest => ?_
        exact within_ok (show rest.length < _ by omega)
      · exact within_ok (by omega)
    · next rest heq =>
      have hkeyword := length_lt_of_settle heq
      refine within_require fun rest hrest => ?_
      split
      · next n rest' heq =>
        have hname := length_lt_of_settle heq
        refine within_require fun rest hrest => ?_
        refine (within_parseExpr fuel true rest (by omega)).bind fun items rest hrest => ?_
        refine within_require fun rest hrest => ?_
        have hskip := length_skipNewlines_le rest
        refine (within_parseExpr fuel nested _ (by omega)).bind fun body rest hrest => ?_
        exact within_ok (show rest.length < _ by omega)
      · exact within_error (by simp)
    · exact within_error (by simp)

theorem within_parseBlock : ∀ (fuel : Nat) (toks : List Token),
    20 + 32 * toks.length ≤ fuel → Within toks.length (parseBlock fuel toks)
  | 0, _, h => by omega
  | fuel + 1, toks, h => by
    have hskip := length_skipSeparators_le toks
    rw [parseBlock]
    split
    · next rest heq =>
      rw [heq, List.length_cons] at hskip
      exact within_ok hskip
    · exact within_error (by simp)
    · refine (within_parseExpr fuel false _ (by omega)).bind fun x rest hrest => ?_
      have hmore (follows : Bool) : Within toks.length (if follows then do
            let (xs, toks) ← parseBlock fuel rest
            return (x :: xs, toks)
          else .error (.unexpected rest.head?)) := by
        split
        · refine (within_parseBlock fuel rest (by omega)).bind fun xs rest hrest => ?_
          exact within_ok (show rest.length < _ by omega)
        · exact within_error (by simp)
      exact hmore _

end

/-! ### Programs -/

theorem parseProgram_ne_exhausted : ∀ (fuel : Nat) (toks : List Token),
    20 + 32 * toks.length ≤ fuel → parseProgram fuel toks ≠ .error .exhausted
  | 0, _, h => by omega
  | fuel + 1, toks, h => by
    have hskip := length_skipSeparators_le toks
    rw [parseProgram]
    split
    · exact nofun
    · have hfirst := within_parseExpr fuel false (skipSeparators toks) (by omega)
      rcases hread : parseExpr fuel false (skipSeparators toks) with e | ⟨x, rest⟩
      · rw [hread] at hfirst
        exact fun heq => hfirst (Except.error.inj heq)
      · rw [hread] at hfirst
        have hlength : rest.length < (skipSeparators toks).length := hfirst
        have hrest := parseProgram_ne_exhausted fuel rest (by omega)
        change (if (rest.head?.map Token.isSeparator).getD true then do
          return x :: (← parseProgram fuel rest) else _) ≠ _
        split
        · rcases hprogram : parseProgram fuel rest with e | program
          · rw [hprogram] at hrest
            exact fun heq => hrest heq
          · exact nofun
        · exact nofun

end Expr

namespace Token

theorem next?_ne_exhausted (cs : List Char) : next? cs ≠ .error .exhausted := by
  unfold next?
  split
  · exact nofun
  · repeat' split
    all_goals exact nofun

theorem scanWith_ne_exhausted : ∀ (fuel : Nat) (cs : List Char), cs.length < fuel →
    scanWith fuel cs ≠ .error .exhausted
  | 0, _, h => by omega
  | fuel + 1, cs, h => by
    rw [scanWith]
    rcases hnext : next? cs with e | _ | ⟨t, rest⟩
    · have hne := next?_ne_exhausted cs
      rw [hnext] at hne
      exact fun heq => hne (congrArg Except.error (Except.error.inj heq))
    · intro heq
      cases heq
    · have hlength := length_lt_of_next? hnext
      have hrest := scanWith_ne_exhausted fuel rest (by omega)
      rcases hscan : scanWith fuel rest with e | toks
      · rw [hscan] at hrest
        change (do return t :: (← scanWith fuel rest)) ≠ _
        rw [hscan]
        exact fun heq => hrest heq
      · change (do return t :: (← scanWith fuel rest)) ≠ _
        rw [hscan]
        intro heq
        cases heq

end Token

theorem Expr.readProgram_ne_exhausted (source : String) :
    readProgram source ≠ .error .exhausted := by
  have hscan := Token.scanWith_ne_exhausted (source.toList.length + 1) source.toList
    (Nat.lt_succ_self _)
  rcases h : Token.scan source with e | toks
  · rw [readProgram, h]
    rw [Token.scan] at h
    rw [h] at hscan
    exact fun heq => hscan (congrArg Except.error (Except.error.inj heq))
  · rw [readProgram, h]
    exact parseProgram_ne_exhausted _ toks (by rw [parseFuel]; omega)

end ScriptBridge
