import ScriptBridge.Proofs.Syntax.Boundary
import ScriptBridge.Proofs.Syntax.Regions

/-!
# Texts divided between their tokens

A token is the same whatever is cut off the text after it (`next?_of_append`): its readers look at
no character that they do not use up, but for those that end it (`Local`). So a text can be divided
between any two of its tokens into texts that have the tokens of either side (`exists_divided`).
-/

namespace ScriptBridge.Token

variable {cs rest more : List Char} {t : Token}

/-- A text is divided in two, with some tokens in the one part and others in the other. -/
structure Divided (source a b : String) (pre post : List Token) : Prop where
  parts : source = a ++ b
  left : scan a = .ok pre
  right : scan b = .ok post

/-! ### Readers of what is used up -/

/-- What is read does not change when characters are cut off that are not used up. -/
def Local {α : Type} (read : List Char → α × List Char) : Prop :=
  ∀ cs more, more.length ≤ (read (cs ++ more)).2.length →
    read (cs ++ more) = ((read cs).1, (read cs).2 ++ more)

theorem local_span (p : Char → Bool) :
    Local fun cs => (cs.takeWhile p, cs.dropWhile p) := by
  intro cs more h
  induction cs with
  | nil =>
    have hdrop : more.dropWhile p = more := (List.dropWhile_suffix p).eq_of_length_le h
    have htake : more.takeWhile p ++ more.dropWhile p = more := List.takeWhile_append_dropWhile
    rw [hdrop, List.append_left_eq_self] at htake
    simp only [List.nil_append, hdrop, htake]
    rfl
  | cons c cs ih =>
    by_cases hc : p c = true
    · simp only [List.cons_append, List.dropWhile_cons_of_pos hc] at h
      have ih := ih h
      rw [Prod.mk.injEq] at ih
      simp only [List.cons_append, List.takeWhile_cons_of_pos hc, List.dropWhile_cons_of_pos hc, ih]
    · simp only [List.cons_append, List.takeWhile_cons_of_neg hc, List.dropWhile_cons_of_neg hc]

theorem dropWhile_of_append {p : Char → Bool}
    (h : more.length ≤ ((cs ++ more).dropWhile p).length) :
    (cs ++ more).dropWhile p = cs.dropWhile p ++ more :=
  congrArg Prod.snd (local_span p cs more h)

theorem takeWhile_of_append {p : Char → Bool}
    (h : more.length ≤ ((cs ++ more).dropWhile p).length) :
    (cs ++ more).takeWhile p = cs.takeWhile p :=
  congrArg Prod.fst (local_span p cs more h)

theorem exists_of_append_eq_cons {c : Char} (h : cs ++ more = c :: rest)
    (hlength : more.length ≤ rest.length) : ∃ cs', cs = c :: cs' ∧ rest = cs' ++ more := by
  cases cs with
  | nil =>
    obtain rfl : more = c :: rest := h
    rw [List.length_cons] at hlength
    omega
  | cons d cs =>
    cases h
    exact ⟨cs, rfl, rfl⟩

theorem takeFraction_cases (cs : List Char) :
    takeFraction cs = ([], cs) ∨ (takeFraction cs).2.length < cs.length := by
  cases cs with
  | nil => exact .inl rfl
  | cons c cs =>
    by_cases hc : c = '.'
    · subst hc
      exact .inr (Nat.lt_succ_of_le (length_dropWhile_le Char.isDigit cs))
    · exact .inl (takeFraction_of_ne hc cs)

theorem local_takeFraction : Local takeFraction := by
  intro cs more h
  cases cs with
  | nil =>
    obtain heq | hlt := takeFraction_cases more
    · exact heq
    · exact absurd h (Nat.not_le_of_lt hlt)
  | cons c cs =>
    by_cases hc : c = '.'
    · subst hc
      simp only [List.cons_append, takeFraction] at h ⊢
      rw [dropWhile_of_append h, takeWhile_of_append h]
    · rw [List.cons_append, takeFraction_of_ne hc, takeFraction_of_ne hc, List.cons_append]

/-- There is a power or none; the letter and what makes it count are used up with it. -/
theorem takePower_cases (cs : List Char) :
    takePower cs = ([], cs) ∨ (takePower cs).2.length + 2 ≤ cs.length := by
  match cs with
  | [] | [_] => exact .inl rfl
  | e :: c :: cs =>
    rw [takePower]
    split
    · right
      have hle := length_dropWhile_le Char.isDigit cs
      by_cases hc : c.isDigit = true
      · simp only [hc, if_true, List.dropWhile_cons_of_pos, List.length_cons]
        omega
      · simp only [hc, List.length_cons]
        exact Nat.add_le_add_right hle 2
    · exact .inl rfl

theorem local_takePower : Local takePower := by
  intro cs more h
  match cs with
  | [] =>
    obtain heq | hlt := takePower_cases more
    · exact heq
    · rw [List.nil_append] at h
      omega
  | [e] =>
    obtain heq | hlt := takePower_cases ([e] ++ more)
    · exact heq
    · rw [List.length_append, List.length_singleton] at hlt
      omega
  | e :: c :: cs =>
    rw [List.cons_append, List.cons_append, takePower] at h ⊢
    rw [takePower]
    split at h
    · next hpower =>
      rw [if_pos hpower, if_pos hpower]
      by_cases hc : c.isDigit = true
      · simp only [hc, if_true, ← List.cons_append] at h ⊢
        rw [dropWhile_of_append h, takeWhile_of_append h]
      · simp only [hc, Bool.false_eq_true, if_false] at h ⊢
        rw [dropWhile_of_append h, takeWhile_of_append h]
    · next hpower =>
      rw [if_neg hpower, if_neg hpower]
      rfl

theorem length_readNumber_le_power (first : Char) (cs : List Char) :
    (readNumber first cs).2.length ≤
      (takePower (takeFraction (cs.dropWhile Char.isDigit)).2).2.length := by
  unfold readNumber
  simp only
  split
  · next heq =>
    rw [heq]
    exact Nat.le_succ _
  · exact Nat.le_refl _

theorem length_readNumber_lt (first : Char) (h : cs.head?.any Char.isDigit = true) :
    (readNumber first cs).2.length < cs.length := by
  cases cs with
  | nil => cases h
  | cons c cs =>
    have hdrop : (c :: cs).dropWhile Char.isDigit = cs.dropWhile Char.isDigit :=
      List.dropWhile_cons_of_pos h
    have hnumber := length_readNumber_le_power first (c :: cs)
    have hpower := length_takePower_le (takeFraction ((c :: cs).dropWhile Char.isDigit)).2
    have hfraction := length_takeFraction_le ((c :: cs).dropWhile Char.isDigit)
    have hwhole := length_dropWhile_le Char.isDigit cs
    rw [hdrop] at hnumber hpower hfraction
    rw [List.length_cons]
    omega

theorem local_readNumber (first : Char) : Local (readNumber first) := by
  intro cs more h
  have hpower := h.trans (length_readNumber_le_power first (cs ++ more))
  have hfraction := hpower.trans (length_takePower_le _)
  have hwhole := hfraction.trans (length_takeFraction_le _)
  have hdrop := dropWhile_of_append hwhole
  have htake := takeWhile_of_append hwhole
  rw [hdrop] at hpower hfraction
  have hpoint := local_takeFraction _ _ hfraction
  rw [hpoint] at hpower
  have hletter := local_takePower _ _ hpower
  unfold readNumber at h ⊢
  simp only [hdrop, htake, hpoint, hletter] at h ⊢
  generalize (takePower (takeFraction (cs.dropWhile Char.isDigit)).2).2 = left at h ⊢
  cases left with
  | nil =>
    -- A capital L that is cut off would have been used up.
    rw [List.nil_append] at h ⊢
    split at h
    · exact absurd h (Nat.not_succ_le_self _)
    · rfl
  | cons c left =>
    by_cases hlong : c = 'L'
    · subst hlong
      rfl
    · rw [List.cons_append]
      split
      · next heq => exact absurd (List.cons.inj heq).1 hlong
      · split
        · next heq => exact absurd (List.cons.inj heq).1 hlong
        · rfl

theorem local_readSign (c : Char) : Local (readSign c) := by
  intro cs more h
  revert h
  generalize hwhole : cs ++ more = whole
  fun_cases readSign c whole
  all_goals intro h
  -- A sign of one character that no other one goes on, and one that is used up with another.
  all_goals
    first
    | (subst hwhole; rfl)
    | (obtain ⟨cs, rfl, rfl⟩ := exists_of_append_eq_cons hwhole h; rfl)
    | skip
  case case24 rest =>
    obtain ⟨cs, rfl, hrest⟩ :=
      exists_of_append_eq_cons hwhole (Nat.le_succ_of_le h)
    obtain ⟨cs, rfl, rfl⟩ := exists_of_append_eq_cons hrest.symm h
    rfl
  case case25 hle hleft hsuper =>
    subst hwhole
    rw [readSign]
    · exact fun rest heq => hle (rest ++ more) (by rw [heq]; rfl)
    · exact fun rest heq => hleft (rest ++ more) (by rw [heq]; rfl)
    · exact fun rest heq => hsuper (rest ++ more) (by rw [heq]; rfl)
  case case32 =>
    unfold readSign
    split
    all_goals first | (subst hwhole; rfl) | contradiction
  all_goals
    next hdouble =>
    subst hwhole
    rw [readSign]
    exact fun rest heq => hdouble (rest ++ more) (by rw [heq]; rfl)

theorem length_lt_of_readQuoted? {quote : Char} {s : List Char}
    (h : readQuoted? quote cs = some (s, rest)) : rest.length < cs.length := by
  fun_cases readQuoted? quote cs with
  | case1 => cases h
  | case2 c cs =>
    obtain ⟨⟨s', rest'⟩, hcs, heq⟩ := Option.map_eq_some_iff.mp h
    cases heq
    have hle := length_of_readQuoted? hcs
    simp only [List.length_cons]
    omega
  | case3 => cases h
  | case4 cs hslash hend =>
    rw [readQuoted?_cons (ne_backslash hslash hend), if_pos rfl] at h
    cases h
    exact Nat.lt_succ_self _
  | case5 c cs hslash hend hne =>
    rw [readQuoted?_cons (ne_backslash hslash hend), if_neg hne] at h
    obtain ⟨⟨s', rest'⟩, hcs, heq⟩ := Option.map_eq_some_iff.mp h
    cases heq
    exact Nat.lt_succ_of_le (length_of_readQuoted? hcs)

theorem readQuoted?_of_append {quote : Char} {s : List Char}
    (h : readQuoted? quote (cs ++ more) = some (s, rest ++ more)) :
    readQuoted? quote cs = some (s, rest) := by
  fun_induction readQuoted? quote cs generalizing s with
  | case1 =>
    have hlt := length_lt_of_readQuoted? h
    rw [List.nil_append, List.length_append] at hlt
    omega
  | case2 c cs ih =>
    rw [List.cons_append, List.cons_append, readQuoted?] at h
    obtain ⟨⟨s', rest'⟩, hcs, heq⟩ := Option.map_eq_some_iff.mp h
    cases heq
    rw [ih hcs]
    rfl
  | case3 =>
    cases more with
    | nil => cases h
    | cons c more =>
      rw [List.cons_append, List.nil_append, readQuoted?] at h
      obtain ⟨⟨s', rest'⟩, hcs, heq⟩ := Option.map_eq_some_iff.mp h
      have hle := length_of_readQuoted? hcs
      rw [(Prod.mk.inj heq).2, List.length_append, List.length_cons] at hle
      omega
  | case4 cs hslash hend =>
    rw [List.cons_append, readQuoted?_cons (ne_backslash hslash hend), if_pos rfl] at h
    have hrest : cs ++ more = rest ++ more := (Prod.mk.inj (Option.some.inj h)).2
    rw [← (Prod.mk.inj (Option.some.inj h)).1, List.append_cancel_right hrest]
  | case5 c cs hslash hend hne ih =>
    rw [List.cons_append, readQuoted?_cons (ne_backslash hslash hend), if_neg hne] at h
    obtain ⟨⟨s', rest'⟩, hcs, heq⟩ := Option.map_eq_some_iff.mp h
    cases heq
    rw [ih hcs]
    rfl

/-! ### The next token -/

/-- What is read is the same when the text is cut off after what it leaves. -/
theorem Local.of_append {α : Type} {read : List Char → α × List Char} {a : α} (hread : Local read)
    (h : read (cs ++ more) = (a, rest ++ more)) : read cs = (a, rest) := by
  have hlength : more.length ≤ (read (cs ++ more)).2.length := by
    rw [h, List.length_append]
    exact Nat.le_add_left _ _
  rw [hread cs more hlength, Prod.mk.injEq] at h
  exact Prod.ext h.1 (List.append_cancel_right h.2)

theorem skipBlanks_of_append (h : next? (cs ++ more) = .ok (some (t, rest ++ more))) :
    skipBlanks (cs ++ more) = skipBlanks cs ++ more ∧ skipBlanks cs ≠ [] := by
  have hlt := length_lt_skipBlanks_of_next? h
  rw [List.length_append] at hlt
  have hne : skipBlanks cs ≠ [] := by
    intro hnil
    obtain ⟨rest', hrest, hcomment⟩ | hblank := comment_or_blank hnil
    · have hle := length_dropWhile_le (· ≠ '\n') more
      rw [skipBlanks_append_comment hrest hcomment] at hlt
      omega
    · have hle := length_skipBlanks_le more
      rw [skipBlanks_append_blank hblank] at hlt
      omega
  exact ⟨skipBlanks_append hne, hne⟩

/-- A token is the same when the text is cut off after it, wherever that is. -/
theorem next?_of_append (h : next? (cs ++ more) = .ok (some (t, rest ++ more))) :
    next? cs = .ok (some (t, rest)) := by
  obtain ⟨hskip, hne⟩ := skipBlanks_of_append h
  obtain ⟨c, cs', hcs⟩ := List.exists_cons_of_ne_nil hne
  rw [next?, hskip, hcs] at h
  rw [next?, hcs]
  dsimp only [List.cons_append] at h ⊢
  have hpoint : (c.isDigit || (c = '.' && (cs' ++ more).head?.any Char.isDigit)) =
      (c.isDigit || (c = '.' && cs'.head?.any Char.isDigit)) := by
    by_cases hc : c = '.'
    · subst hc
      rcases cs' with _ | ⟨d, cs'⟩
      · cases hhead : more.head?.any Char.isDigit with
        | false =>
          rw [List.nil_append, hhead]
          rfl
        | true =>
          -- The point would have used up the digit after it.
          have hlt := length_readNumber_lt '.' hhead
          have hnumber : ('.'.isDigit || (decide ('.' = '.') && true)) = true := rfl
          rw [List.nil_append, hhead, if_pos hnumber, Except.ok.injEq, Option.some.injEq] at h
          rw [h, List.length_append] at hlt
          omega
      · rfl
    · rw [decide_eq_false hc, Bool.false_and, Bool.false_and]
  rw [hpoint] at h
  split at h
  · next hnumber =>
    simp only [Except.ok.injEq, Option.some.injEq] at h
    rw [if_pos hnumber, (local_readNumber c).of_append h]
  next hnumber =>
  rw [if_neg hnumber]
  split at h
  · next hquote =>
    rw [if_pos hquote]
    split at h
    · cases h
    · next s rest' hread =>
      simp only [Except.ok.injEq, Option.some.injEq, Prod.mk.injEq] at h
      rw [h.2] at hread
      rw [readQuoted?_of_append hread, ← h.1]
  next hquote =>
  rw [if_neg hquote]
  split at h
  · next hword =>
    simp only [Except.ok.injEq, Option.some.injEq, Prod.mk.injEq] at h
    have hspan := (local_span isNameChar).of_append (Prod.ext rfl h.2)
    rw [Prod.mk.injEq] at hspan
    rw [if_pos hword, hspan.1, hspan.2, ← h.1]
  · next hword =>
    simp only [Except.ok.injEq, Option.some.injEq] at h
    rw [if_neg hword, (local_readSign c).of_append h]

/-! ### All tokens -/

/-- The tokens at the start of a text are those of a part of it; the others are those of the
rest. -/
theorem exists_append_of_scanWith : ∀ {fuel : Nat} {cs : List Char} (pre : List Token)
    {post : List Token}, scanWith fuel cs = .ok (pre ++ post) →
      ∃ cs₁ cs₂, cs = cs₁ ++ cs₂ ∧ Scans cs₁ pre ∧ Scans cs₂ post
  | _, cs, [], _, h => ⟨[], cs, rfl, scans_nil, scans_of_scanWith h⟩
  | 0, _, _ :: _, _, h => by cases h
  | fuel + 1, cs, t :: pre, post, h => by
    obtain ⟨-, hnil⟩ | ⟨t, rest, toks, hnext, hrest, heq⟩ := scanWith_cases h
    · cases hnil
    · cases heq
      obtain ⟨cs₁, cs₂, rfl, hpre, hpost⟩ := exists_append_of_scanWith pre hrest
      obtain ⟨used, hused, -, -⟩ := lexeme_of_next? hnext
      rw [← List.append_assoc] at hused
      subst hused
      exact ⟨used ++ cs₁, cs₂, rfl, scans_cons (next?_of_append hnext) hpre, hpost⟩

theorem exists_divided {source : String} {pre post : List Token}
    (h : scan source = .ok (pre ++ post)) :
    ∃ a b, Divided source a b pre post := by
  obtain ⟨cs₁, cs₂, hsource, hpre, hpost⟩ := exists_append_of_scanWith pre h
  have heq : source = String.ofList cs₁ ++ String.ofList cs₂ := by
    rw [← String.ofList_append, ← hsource, String.ofList_toList]
  refine ⟨String.ofList cs₁, String.ofList cs₂, heq, ?_, ?_⟩
  · exact scan_eq (by rwa [String.toList_ofList])
  · exact scan_eq (by rwa [String.toList_ofList])

end ScriptBridge.Token
