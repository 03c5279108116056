import ScriptBridge.Proofs.Decimal.Grammar
import ScriptBridge.Syntax.Lexer

/-!
# Scanning, token by token

Every token takes a character at least (`length_lt_of_next?`), so the fuel of `scanWith` never runs
out. `Token.Scans cs toks` says that `toks` are the tokens of `cs`, with no mention of fuel; a text
is scanned by taking one token after the other off its start (`scans_cons`). A text constant gives
back what was quoted (`readQuoted?_quoted`), and digits are one number (`next?_digits`).
-/

namespace ScriptBridge.Token

variable {cs rest : List Char} {t : Token} {toks : List Token}

/-! ### Length -/

theorem length_dropWhile_le (p : Char → Bool) (cs : List Char) :
    (cs.dropWhile p).length ≤ cs.length :=
  (List.dropWhile_sublist p).length_le

theorem length_skipBlanks_le (cs : List Char) : (skipBlanks cs).length ≤ cs.length := by
  have h := length_dropWhile_le (fun c => c = ' ' || c = '\t' || c = '\r') cs
  rw [skipBlanks]
  split
  · next rest heq =>
    rw [heq, List.length_cons] at h
    have hrest := length_dropWhile_le (· ≠ '\n') rest
    omega
  · exact h

theorem length_takeFraction_le (cs : List Char) : (takeFraction cs).2.length ≤ cs.length := by
  unfold takeFraction
  split
  · next rest =>
    have h := length_dropWhile_le Char.isDigit rest
    simp only [List.length_cons]
    omega
  · exact Nat.le_refl _

theorem length_takePower_le (cs : List Char) : (takePower cs).2.length ≤ cs.length := by
  unfold takePower
  split
  · next e c rest =>
    split
    · by_cases hc : c.isDigit = true
      · have h := length_dropWhile_le Char.isDigit (c :: rest)
        simp only [hc, if_true, List.length_cons] at h ⊢
        omega
      · have h := length_dropWhile_le Char.isDigit rest
        simp only [hc, List.length_cons]
        exact Nat.le_trans h (by omega)
    · exact Nat.le_refl _
  · exact Nat.le_refl _

theorem length_readNumber_le (first : Char) (cs : List Char) :
    (readNumber first cs).2.length ≤ cs.length := by
  have hwhole := length_dropWhile_le Char.isDigit cs
  have hfraction := length_takeFraction_le (cs.dropWhile Char.isDigit)
  have hpower := length_takePower_le (takeFraction (cs.dropWhile Char.isDigit)).2
  unfold readNumber
  simp only
  split
  · next rest heq =>
    rw [heq, List.length_cons] at hpower
    simp only
    omega
  · simp only
    omega

theorem length_of_readQuoted? {quote : Char} {cs s rest : List Char}
    (h : readQuoted? quote cs = some (s, rest)) : rest.length ≤ cs.length := by
  fun_induction readQuoted? quote cs generalizing s with
  | case1 => cases h
  | case2 c cs ih =>
    obtain ⟨⟨s', rest'⟩, hcs, heq⟩ := Option.map_eq_some_iff.mp h
    cases heq
    have := ih hcs
    simp only [List.length_cons]
    omega
  | case3 => cases h
  | case4 cs =>
    cases h
    simp
  | case5 c cs _ _ hne ih =>
    obtain ⟨⟨s', rest'⟩, hcs, heq⟩ := Option.map_eq_some_iff.mp h
    cases heq
    have := ih hcs
    simp only [List.length_cons]
    omega

theorem length_readSign_le (c : Char) (rest : List Char) :
    (readSign c rest).2.length ≤ rest.length := by
  unfold readSign
  split
  all_goals simp only [List.length_cons]
  all_goals omega

theorem length_lt_skipBlanks_of_next? (h : next? cs = .ok (some (t, rest))) :
    rest.length < (skipBlanks cs).length := by
  unfold next? at h
  split at h
  · cases h
  · next c cs' heq =>
    rw [heq, List.length_cons]
    split at h
    · have hnumber := length_readNumber_le c cs'
      simp only [Except.ok.injEq, Option.some.injEq] at h
      rw [h] at hnumber
      simp only at hnumber
      omega
    · split at h
      · split at h
        · cases h
        · next s rest' hq =>
          have hquoted := length_of_readQuoted? hq
          cases h
          omega
      · split at h
        · have hword := length_dropWhile_le isNameChar cs'
          cases h
          omega
        · have hsign := length_readSign_le c cs'
          simp only [Except.ok.injEq, Option.some.injEq] at h
          rw [h] at hsign
          simp only at hsign
          omega

theorem length_lt_of_next? (h : next? cs = .ok (some (t, rest))) : rest.length < cs.length :=
  Nat.lt_of_lt_of_le (length_lt_skipBlanks_of_next? h) (length_skipBlanks_le cs)

/-! ### Texts and their tokens -/

/-- The tokens of a text, whatever the fuel. -/
def Scans (cs : List Char) (toks : List Token) : Prop :=
  ∀ fuel, cs.length < fuel → scanWith fuel cs = .ok toks

theorem scans_nil : Scans [] [] := by
  intro fuel h
  obtain ⟨fuel, rfl⟩ : ∃ n, fuel = n + 1 := ⟨fuel - 1, by rw [List.length_nil] at h; omega⟩
  rfl

theorem scans_cons (h : next? cs = .ok (some (t, rest))) (hs : Scans rest toks) :
    Scans cs (t :: toks) := by
  intro fuel hf
  obtain ⟨fuel, rfl⟩ : ∃ n, fuel = n + 1 := ⟨fuel - 1, by omega⟩
  have hlen := length_lt_of_next? h
  have hrest : scanWith fuel rest = .ok toks := hs fuel (by omega)
  rw [scanWith, h]
  change (scanWith fuel rest >>= fun ts => pure (t :: ts)) = .ok (t :: toks)
  rw [hrest]
  rfl

theorem scans_blank (h : Scans cs toks) : Scans (' ' :: cs) toks := by
  intro fuel hf
  rw [List.length_cons] at hf
  obtain ⟨fuel, rfl⟩ : ∃ n, fuel = n + 1 := ⟨fuel - 1, by omega⟩
  exact h (fuel + 1) (by omega)

theorem scan_eq {source : String} (h : Scans source.toList toks) : scan source = .ok toks :=
  h _ (Nat.lt_succ_self _)

/-! ### Text constants -/

def quoted (c : Char) : List Char := if c = '\\' ∨ c = '\'' then ['\\', c] else [c]

theorem readQuoted?_quoted (s rest : List Char) :
    readQuoted? '\'' (s.flatMap quoted ++ '\'' :: rest) = some (s, rest) := by
  induction s with
  | nil => rfl
  | cons c s ih =>
    rw [List.flatMap_cons, List.append_assoc, quoted]
    by_cases hslash : c = '\\'
    · subst hslash
      simp [readQuoted?, ih, unescape]
    · by_cases hquote : c = '\''
      · subst hquote
        simp [readQuoted?, ih, unescape]
      · simp [readQuoted?, ih, hslash, hquote]

theorem next?_quote (cs : List Char) :
    next? ('\'' :: cs) =
      match readQuoted? '\'' cs with
      | none => .error .unterminatedText
      | some (s, rest) => .ok (some (text (String.ofList s), rest)) := by
  have hskip : skipBlanks ('\'' :: cs) = '\'' :: cs := rfl
  rw [next?, hskip]
  simp only [show Char.isDigit '\'' = false from rfl]
  cases readQuoted? '\'' cs <;> rfl

theorem next?_quoted (s rest : List Char) :
    next? ('\'' :: (s.flatMap quoted ++ '\'' :: rest)) =
      .ok (some (text (String.ofList s), rest)) := by
  rw [next?_quote, readQuoted?_quoted]

/-! ### Numbers -/

theorem readNumber_digits {ds : List Char} (hds : ∀ d ∈ ds, d.isDigit = true) (first : Char)
    (rest : List Char) :
    ∃ x, readNumber first (ds ++ ')' :: rest) = (number x, ')' :: rest) := by
  have hclose : Decimal.Stops (')' :: rest) := Decimal.stops_cons rfl
  refine ⟨(Decimal.read? (first :: ds ++ [] ++ [])).getD notANumber, ?_⟩
  rw [readNumber, Decimal.takeWhile_digits hds hclose, Decimal.dropWhile_digits hds hclose]
  cases rest <;> rfl

theorem skipBlanks_digit {d : Char} (h : d.isDigit = true) (cs : List Char) :
    skipBlanks (d :: cs) = d :: cs := by
  have hne : ∀ c : Char, c.isDigit = false → d ≠ c := by
    rintro c hc rfl
    rw [h] at hc
    cases hc
  have hstart : ¬(d = ' ' || d = '\t' || d = '\r') = true := by
    simp [hne ' ' rfl, hne '\t' rfl, hne '\r' rfl]
  rw [skipBlanks, List.dropWhile_cons, if_neg hstart]
  split
  · next heq =>
    obtain ⟨rfl, -⟩ := List.cons.inj heq
    exact absurd rfl (hne '#' rfl)
  · rfl

theorem next?_digits {d : Char} {ds : List Char} (hds : ∀ c ∈ d :: ds, c.isDigit = true)
    (rest : List Char) :
    ∃ x, next? (d :: ds ++ ')' :: rest) = .ok (some (number x, ')' :: rest)) := by
  obtain ⟨hd, hds⟩ := List.forall_mem_cons.mp hds
  obtain ⟨x, hx⟩ := readNumber_digits hds d rest
  refine ⟨x, ?_⟩
  rw [next?, List.cons_append, skipBlanks_digit hd]
  simp only [hd, Bool.true_or, if_true, hx]

end ScriptBridge.Token
