import ScriptBridge.Proofs.Except
import ScriptBridge.Proofs.Syntax.Scanning

/-!
# Texts one after the other

A semicolon and a newline go on no token, so the tokens of a text stay the same when one of them and
another text follow (`next?_append`). The semicolon is lost if the text ends in a comment, the
newline never is: the tokens of both texts are those of the one, a separator or two, and those of
the other (`scans_append`), and with a newline alone it is one token between them
(`scans_append_newline`).
-/

namespace ScriptBridge.Token

variable {cs rest more : List Char} {t : Token} {toks : List Token}

/-! ### A character that goes on nothing -/

section

variable {b : Char} {p : Char → Bool}

theorem takeWhile_append_cons (hb : p b = false) (cs more : List Char) :
    (cs ++ b :: more).takeWhile p = cs.takeWhile p := by
  induction cs with
  | nil => rw [List.nil_append, List.takeWhile_cons, hb]; rfl
  | cons c cs ih =>
    rw [List.cons_append, List.takeWhile_cons, List.takeWhile_cons, ih]

theorem dropWhile_append_cons (hb : p b = false) (cs more : List Char) :
    (cs ++ b :: more).dropWhile p = cs.dropWhile p ++ b :: more := by
  induction cs with
  | nil => rw [List.nil_append, List.dropWhile_cons, hb]; rfl
  | cons c cs ih =>
    rw [List.cons_append, List.dropWhile_cons, List.dropWhile_cons, ih]
    split <;> rfl

end

theorem readQuoted?_cons {quote c : Char} (hc : c ≠ '\\') (cs : List Char) :
    readQuoted? quote (c :: cs) =
      if c = quote then some ([], cs)
      else (readQuoted? quote cs).map fun (s, rest) => (c :: s, rest) := by
  rw [readQuoted?]
  · exact fun _ _ h => absurd h hc
  · exact fun h => absurd h hc

/-- A character that neither takes one behind it nor is a last backslash is no backslash. -/
theorem ne_backslash {c : Char} (hslash : ∀ d rest, c = '\\' → cs = d :: rest → False)
    (hend : c = '\\' → cs = [] → False) : c ≠ '\\' := by
  intro hc
  cases cs with
  | nil => exact hend hc rfl
  | cons d cs => exact hslash d cs hc rfl

theorem readQuoted?_append {quote : Char} {s : List Char}
    (h : readQuoted? quote cs = some (s, rest)) :
    readQuoted? quote (cs ++ more) = some (s, rest ++ more) := by
  fun_induction readQuoted? quote cs generalizing s with
  | case1 => cases h
  | case2 c cs ih =>
    obtain ⟨⟨s', rest'⟩, hcs, heq⟩ := Option.map_eq_some_iff.mp h
    cases heq
    rw [List.cons_append, List.cons_append, readQuoted?, ih hcs]
    rfl
  | case3 => cases h
  | case4 cs hslash hend =>
    cases h
    rw [List.cons_append, readQuoted?_cons (ne_backslash hslash hend), if_pos rfl]
  | case5 c cs hslash hend hne ih =>
    obtain ⟨⟨s', rest'⟩, hcs, heq⟩ := Option.map_eq_some_iff.mp h
    cases heq
    rw [List.cons_append, readQuoted?_cons (ne_backslash hslash hend), if_neg hne, ih hcs]
    rfl

theorem takeFraction_of_ne {c : Char} (hc : c ≠ '.') (cs : List Char) :
    takeFraction (c :: cs) = ([], c :: cs) := by
  unfold takeFraction
  split
  · next heq => exact absurd (List.cons.inj heq).1 hc
  · rfl

def isBreak (b : Char) : Bool := b = ';' || b = '\n'

section

variable {b : Char} (hb : isBreak b = true)

include hb

theorem isBreak_cases : b = ';' ∨ b = '\n' := by
  rw [isBreak, Bool.or_eq_true, decide_eq_true_iff, decide_eq_true_iff] at hb
  exact hb

theorem ne_of_isBreak {d : Char} (hd : isBreak d = false) : d ≠ b := by
  rintro rfl
  rw [hb] at hd
  cases hd

theorem isDigit_of_isBreak : b.isDigit = false := by
  obtain rfl | rfl := isBreak_cases hb <;> rfl

theorem takeFraction_append_break (cs more : List Char) :
    takeFraction (cs ++ b :: more) = ((takeFraction cs).1, (takeFraction cs).2 ++ b :: more) := by
  have hdigit := isDigit_of_isBreak hb
  cases cs with
  | nil => obtain rfl | rfl := isBreak_cases hb <;> rfl
  | cons c cs =>
    by_cases hpoint : c = '.'
    · subst hpoint
      simp only [List.cons_append, takeFraction, takeWhile_append_cons hdigit,
        dropWhile_append_cons hdigit]
    · rw [List.cons_append, takeFraction_of_ne hpoint, takeFraction_of_ne hpoint,
        List.cons_append]

theorem takePower_append_break (cs more : List Char) :
    takePower (cs ++ b :: more) = ((takePower cs).1, (takePower cs).2 ++ b :: more) := by
  have hdigit := isDigit_of_isBreak hb
  match cs with
  | [] =>
    cases more with
    | nil => rfl
    | cons c more => obtain rfl | rfl := isBreak_cases hb <;> rfl
  | [e] =>
    have hsign : (b.isDigit || b = '+' || b = '-') = false := by
      obtain rfl | rfl := isBreak_cases hb <;> rfl
    have hnone : ((e = 'e' || e = 'E') && (b.isDigit || b = '+' || b = '-')) = false := by
      rw [hsign, Bool.and_false]
    rw [List.cons_append, List.nil_append, takePower, hnone]
    rfl
  | e :: c :: cs =>
    rw [List.cons_append, List.cons_append, takePower, takePower]
    split
    · by_cases hc : c.isDigit = true
      · simp only [hc, if_true, ← List.cons_append, takeWhile_append_cons hdigit,
          dropWhile_append_cons hdigit]
      · simp only [hc, Bool.false_eq_true, if_false, takeWhile_append_cons hdigit,
          dropWhile_append_cons hdigit]
    · rfl

theorem readNumber_append (first : Char) (cs more : List Char) :
    readNumber first (cs ++ b :: more) =
      ((readNumber first cs).1, (readNumber first cs).2 ++ b :: more) := by
  have hdigit := isDigit_of_isBreak hb
  unfold readNumber
  simp only [takeWhile_append_cons hdigit, dropWhile_append_cons hdigit,
    takeFraction_append_break hb, takePower_append_break hb]
  generalize (takePower (takeFraction (cs.dropWhile Char.isDigit)).2).2 = left
  cases left with
  | nil => obtain rfl | rfl := isBreak_cases hb <;> rfl
  | cons c left =>
    by_cases hlong : c = 'L'
    · subst hlong
      rfl
    · rw [List.cons_append]
      split
      · next heq => exact absurd (List.cons.inj heq).1 hlong
      · split
        · next heq => exact absurd (List.cons.inj heq).1 hlong
        · rfl

theorem exists_of_append_cons {d : Char} (h : cs ++ b :: more = d :: rest)
    (hd : isBreak d = false) : ∃ cs', cs = d :: cs' := by
  cases cs with
  | nil => exact absurd (List.cons.inj h).1.symm (ne_of_isBreak hb hd)
  | cons c cs => exact ⟨cs, by rw [(List.cons.inj h).1]⟩

theorem exists_of_append_cons_cons {d e : Char} (h : cs ++ b :: more = d :: e :: rest)
    (hd : isBreak d = false) (he : isBreak e = false) : ∃ cs', cs = d :: e :: cs' := by
  obtain ⟨cs', rfl⟩ := exists_of_append_cons hb h hd
  obtain ⟨cs'', rfl⟩ := exists_of_append_cons hb (List.cons.inj h).2 he
  exact ⟨cs'', rfl⟩

theorem readSign_append (c : Char) (cs more : List Char) :
    readSign c (cs ++ b :: more) = ((readSign c cs).1, (readSign c cs).2 ++ b :: more) := by
  rw [readSign.eq_def c cs]
  split
  all_goals first | rfl | skip
  case h_25 hle hleft hsuper =>
    rw [readSign]
    · exact fun _ heq => (exists_of_append_cons hb heq rfl).elim hle
    · exact fun _ heq => (exists_of_append_cons hb heq rfl).elim hleft
    · exact fun _ heq => (exists_of_append_cons_cons hb heq rfl rfl).elim hsuper
  case h_32 =>
    unfold readSign
    split
    all_goals first | rfl | contradiction
  all_goals
    next hdouble =>
    rw [readSign]
    exact fun _ heq => (exists_of_append_cons hb heq rfl).elim hdouble

end

/-! ### The next token -/

def isBlank (c : Char) : Bool := c = ' ' || c = '\t' || c = '\r'

theorem skipBlanks_of_comment (h : cs.dropWhile isBlank = '#' :: rest) :
    skipBlanks cs = rest.dropWhile (· ≠ '\n') := by
  have hblank : cs.dropWhile (fun c => c = ' ' || c = '\t' || c = '\r') = '#' :: rest := h
  rw [skipBlanks, hblank]
  rfl

theorem skipBlanks_of_ne (h : ∀ rest, cs.dropWhile isBlank ≠ '#' :: rest) :
    skipBlanks cs = cs.dropWhile isBlank := by
  rw [skipBlanks]
  split
  · next heq => exact absurd heq (h _)
  · rfl

theorem dropWhile_append_of_ne {p : Char → Bool} (h : cs.dropWhile p ≠ []) :
    (cs ++ more).dropWhile p = cs.dropWhile p ++ more := by
  rw [List.dropWhile_append, if_neg]
  rwa [List.isEmpty_iff]

theorem skipBlanks_append_comment (hrest : cs.dropWhile isBlank = '#' :: rest)
    (hcomment : rest.dropWhile (· ≠ '\n') = []) (more : List Char) :
    skipBlanks (cs ++ more) = more.dropWhile (· ≠ '\n') := by
  have happend : (cs ++ more).dropWhile isBlank = '#' :: (rest ++ more) := by
    rw [dropWhile_append_of_ne (by rw [hrest]; exact List.cons_ne_nil _ _), hrest,
      List.cons_append]
  rw [skipBlanks_of_comment happend, List.dropWhile_append, if_pos (by rw [hcomment]; rfl)]

theorem skipBlanks_append_blank (h : cs.dropWhile isBlank = []) (more : List Char) :
    skipBlanks (cs ++ more) = skipBlanks more := by
  have happend : (cs ++ more).dropWhile isBlank = more.dropWhile isBlank := by
    rw [List.dropWhile_append, if_pos (by rw [h]; rfl)]
  by_cases hhash : ∃ rest, more.dropWhile isBlank = '#' :: rest
  · obtain ⟨rest, hrest⟩ := hhash
    rw [skipBlanks_of_comment (happend.trans hrest), skipBlanks_of_comment hrest]
  · have hhash : ∀ rest, more.dropWhile isBlank ≠ '#' :: rest :=
      fun rest hrest => hhash ⟨rest, hrest⟩
    rw [skipBlanks_of_ne hhash, skipBlanks_of_ne (by rw [happend]; exact hhash), happend]

theorem skipBlanks_append (h : skipBlanks cs ≠ []) :
    skipBlanks (cs ++ more) = skipBlanks cs ++ more := by
  by_cases hhash : ∃ rest, cs.dropWhile isBlank = '#' :: rest
  · obtain ⟨rest, hrest⟩ := hhash
    rw [skipBlanks_of_comment hrest] at h ⊢
    have happend : (cs ++ more).dropWhile isBlank = '#' :: (rest ++ more) := by
      rw [dropWhile_append_of_ne (by rw [hrest]; exact List.cons_ne_nil _ _), hrest,
        List.cons_append]
    rw [skipBlanks_of_comment happend, dropWhile_append_of_ne h]
  · have hhash : ∀ rest, cs.dropWhile isBlank ≠ '#' :: rest := fun rest hrest => hhash ⟨rest, hrest⟩
    rw [skipBlanks_of_ne hhash] at h ⊢
    rw [skipBlanks_of_ne, dropWhile_append_of_ne h]
    intro rest hrest
    rw [dropWhile_append_of_ne h] at hrest
    cases hdrop : cs.dropWhile isBlank with
    | nil => exact h hdrop
    | cons c cs' =>
      rw [hdrop] at hrest
      exact hhash cs' (by rw [hdrop, (List.cons.inj hrest).1])

theorem next?_append {b : Char} (hb : isBreak b = true) (h : next? cs = .ok (some (t, rest))) :
    next? (cs ++ b :: more) = .ok (some (t, rest ++ b :: more)) := by
  have hne : skipBlanks cs ≠ [] := by
    intro hnil
    rw [next?, hnil] at h
    cases h
  rw [next?] at h ⊢
  rw [skipBlanks_append hne]
  obtain ⟨c, cs', hskip⟩ := List.exists_cons_of_ne_nil hne
  have hhead : (cs' ++ b :: more).head?.any Char.isDigit = cs'.head?.any Char.isDigit := by
    cases cs' with
    | nil => exact isDigit_of_isBreak hb
    | cons => rfl
  rw [hskip] at h ⊢
  dsimp only [List.cons_append] at h ⊢
  rw [hhead]
  split at h
  · next hnumber =>
    simp only [Except.ok.injEq, Option.some.injEq] at h
    rw [if_pos hnumber, readNumber_append hb, h]
  next hnumber =>
  rw [if_neg hnumber]
  split at h
  · next hquote =>
    rw [if_pos hquote]
    split at h
    · cases h
    · next s rest' hread =>
      cases h
      rw [readQuoted?_append hread]
  next hquote =>
  rw [if_neg hquote]
  split at h
  · next hword =>
    cases h
    have hname : isNameChar b = false := by
      obtain rfl | rfl := isBreak_cases hb <;> decide
    rw [if_pos hword, takeWhile_append_cons hname, dropWhile_append_cons hname]
  · next hword =>
    simp only [Except.ok.injEq, Option.some.injEq] at h
    rw [if_neg hword, readSign_append hb, h]

theorem skipBlanks_of_next?_none (h : next? cs = .ok none) : skipBlanks cs = [] := by
  rw [next?] at h
  split at h
  · assumption
  · repeat' split at h
    all_goals cases h

/-- The rest of a text after its last token is a comment, or there are only blanks. -/
theorem comment_or_blank (h : skipBlanks cs = []) :
    (∃ rest, cs.dropWhile isBlank = '#' :: rest ∧ rest.dropWhile (· ≠ '\n') = []) ∨
      cs.dropWhile isBlank = [] := by
  by_cases hhash : ∃ rest, cs.dropWhile isBlank = '#' :: rest
  · obtain ⟨rest, hrest⟩ := hhash
    rw [skipBlanks_of_comment hrest] at h
    exact .inl ⟨rest, hrest, h⟩
  · rw [skipBlanks_of_ne fun rest hrest => hhash ⟨rest, hrest⟩] at h
    exact .inr h

/-- After the last token the semicolon is the next one, or it belongs to a comment. -/
theorem next?_append_of_none (h : next? cs = .ok none) :
    next? (cs ++ ';' :: '\n' :: more) = .ok (some (semicolon, '\n' :: more)) ∨
      next? (cs ++ ';' :: '\n' :: more) = .ok (some (newline, more)) := by
  obtain ⟨rest, hrest, hcomment⟩ | hblank := comment_or_blank (skipBlanks_of_next?_none h)
  · right
    rw [next?, skipBlanks_append_comment hrest hcomment]
    rfl
  · left
    rw [next?, skipBlanks_append_blank hblank]
    rfl

theorem next?_append_newline_of_none (h : next? cs = .ok none) :
    next? (cs ++ '\n' :: more) = .ok (some (newline, more)) := by
  obtain ⟨rest, hrest, hcomment⟩ | hblank := comment_or_blank (skipBlanks_of_next?_none h)
  · rw [next?, skipBlanks_append_comment hrest hcomment]
    rfl
  · rw [next?, skipBlanks_append_blank hblank]
    rfl

/-! ### All tokens -/

theorem scans_of_next?_none (h : next? cs = .ok none) : Scans cs [] := by
  intro fuel hfuel
  obtain ⟨fuel, rfl⟩ : ∃ n, fuel = n + 1 := ⟨fuel - 1, by omega⟩
  rw [scanWith, h]
  rfl

/-- Either there is no token left, or the rest is scanned after the first one. -/
theorem scanWith_cases {fuel : Nat} (h : scanWith (fuel + 1) cs = .ok toks) :
    next? cs = .ok none ∧ toks = [] ∨
      ∃ t rest toks', next? cs = .ok (some (t, rest)) ∧ scanWith fuel rest = .ok toks' ∧
        toks = t :: toks' := by
  rw [scanWith] at h
  rcases hnext : next? cs with e | _ | ⟨t, rest⟩
  · rw [hnext] at h
    cases h
  · rw [hnext] at h
    cases h
    exact .inl ⟨rfl, rfl⟩
  · rw [hnext] at h
    change (do return t :: (← scanWith fuel rest)) = _ at h
    obtain ⟨toks', htoks', heq⟩ := except_bind_eq_ok.mp h
    cases heq
    exact .inr ⟨t, rest, toks', rfl, htoks', rfl⟩

theorem scans_of_scanWith : ∀ {fuel : Nat} {cs : List Char} {toks : List Token},
    scanWith fuel cs = .ok toks → Scans cs toks
  | 0, _, _, h => by cases h
  | fuel + 1, cs, toks, h => by
    obtain ⟨hnext, rfl⟩ | ⟨t, rest, toks', hnext, hrest, rfl⟩ := scanWith_cases h
    · exact scans_of_next?_none hnext
    · exact scans_cons hnext (scans_of_scanWith hrest)

/-- The tokens of a text, a semicolon, a newline and another text. -/
theorem scans_append {cs' : List Char} {toks' : List Token} (hcs' : Scans cs' toks') :
    ∀ {fuel : Nat} {cs : List Char} {toks : List Token}, scanWith fuel cs = .ok toks →
      ∃ separators, (separators = [.semicolon, .newline] ∨ separators = [.newline]) ∧
        Scans (cs ++ ';' :: '\n' :: cs') (toks ++ (separators ++ toks'))
  | 0, _, _, h => by cases h
  | fuel + 1, cs, toks, h => by
    obtain ⟨hnext, rfl⟩ | ⟨t, rest, toks', hnext, hrest, rfl⟩ := scanWith_cases h
    · rcases next?_append_of_none hnext with hnext' | hnext'
      · exact ⟨_, .inl rfl, scans_cons hnext' (scans_cons rfl hcs')⟩
      · exact ⟨_, .inr rfl, scans_cons hnext' hcs'⟩
    · obtain ⟨separators, hseparators, hscans⟩ := scans_append hcs' hrest
      exact ⟨separators, hseparators, scans_cons (next?_append rfl hnext) hscans⟩

theorem scans_append_newline {cs' : List Char} {toks' : List Token} (hcs' : Scans cs' toks') :
    ∀ {fuel : Nat} {cs : List Char} {toks : List Token}, scanWith fuel cs = .ok toks →
      Scans (cs ++ '\n' :: cs') (toks ++ newline :: toks')
  | 0, _, _, h => by cases h
  | fuel + 1, cs, toks, h => by
    obtain ⟨hnext, rfl⟩ | ⟨t, rest, toks', hnext, hrest, rfl⟩ := scanWith_cases h
    · exact scans_cons (next?_append_newline_of_none hnext) hcs'
    · exact scans_cons (next?_append rfl hnext) (scans_append_newline hcs' hrest)

end ScriptBridge.Token
