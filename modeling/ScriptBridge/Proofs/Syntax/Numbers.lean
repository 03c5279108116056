import ScriptBridge.Proofs.Decimal.Grammar
import ScriptBridge.Proofs.Syntax.Boundary
import ScriptBridge.Proofs.Syntax.Regions

/-!
# What numbers are read from

`Token.Slices cs slices` cuts a text into its tokens, each with the characters that it is read from.
A number is read from a complete decimal and has its value, or it is read from what only looks like
a decimal and is not a number (`scan_numbers`): the scanner takes a letter of a power with a sign
behind it even if no digit follows, and a point behind a fraction that stands alone.
-/

namespace ScriptBridge.Token

open Decimal

variable {cs rest slice : List Char} {t : Token} {toks : List Token}

/-! ### Slices of a text -/

/-- The tokens of a text, each with the characters it is read from: those that it takes of what is
no blank and no comment. -/
inductive Slices : List Char → List (List Char × Token) → Prop where
  | done {cs : List Char} (h : next? cs = .ok none) : Slices cs []
  | token {cs slice rest : List Char} {t : Token} {slices : List (List Char × Token)}
      (h : next? cs = .ok (some (t, rest))) (hslice : skipBlanks cs = slice ++ rest)
      (hrest : Slices rest slices) : Slices cs ((slice, t) :: slices)

theorem exists_slice_of_next? (h : next? cs = .ok (some (t, rest))) :
    ∃ slice, skipBlanks cs = slice ++ rest := by
  obtain ⟨used, hused, -, -⟩ := lexeme_of_next? h
  obtain ⟨blanks, hblanks, -, -⟩ := exists_of_skipBlanks cs
  have hrest : rest <:+ cs := ⟨used, hused.symm⟩
  have hskip : skipBlanks cs <:+ cs := ⟨blanks, hblanks.symm⟩
  have hlength := length_lt_skipBlanks_of_next? h
  obtain ⟨slice, hslice⟩ := List.suffix_of_suffix_length_le hrest hskip (Nat.le_of_lt hlength)
  exact ⟨slice, hslice.symm⟩

theorem exists_slices : ∀ {fuel : Nat} {cs : List Char} {toks : List Token},
    scanWith fuel cs = .ok toks → ∃ slices, Slices cs slices ∧ slices.map Prod.snd = toks
  | 0, _, _, h => by cases h
  | fuel + 1, cs, toks, h => by
    obtain ⟨hnext, rfl⟩ | ⟨t, rest, toks', hnext, hrest, rfl⟩ := scanWith_cases h
    · exact ⟨[], .done hnext, rfl⟩
    · obtain ⟨slice, hslice⟩ := exists_slice_of_next? hnext
      obtain ⟨slices, hslices, rfl⟩ := exists_slices hrest
      exact ⟨(slice, t) :: slices, .token hnext hslice hslices, rfl⟩

/-- What holds of every token and the characters it takes holds of all slices of a text. -/
theorem Slices.forall {P : List Char → Token → Prop} {slices : List (List Char × Token)}
    (hP : ∀ {cs slice rest t}, next? cs = .ok (some (t, rest)) → skipBlanks cs = slice ++ rest →
      P slice t) (h : Slices cs slices) : ∀ {slice t}, (slice, t) ∈ slices → P slice t := by
  induction h with
  | done => exact fun hmem => absurd hmem List.not_mem_nil
  | token hnext hslice _ ih =>
    intro slice t hmem
    rcases List.mem_cons.mp hmem with heq | hmem
    · cases heq
      exact hP hnext hslice
    · exact ih hmem

/-! ### The spelling of a number -/

theorem allDigits_takeWhile (cs : List Char) : AllDigits (cs.takeWhile Char.isDigit) :=
  fun _ => List.mem_takeWhile_imp

theorem takeWhile_ne_nil (h : cs.head?.any Char.isDigit = true) :
    cs.takeWhile Char.isDigit ≠ [] := by
  cases cs with
  | nil => cases h
  | cons c cs =>
    have hc : c.isDigit = true := h
    rw [List.takeWhile_cons_of_pos hc]
    exact List.cons_ne_nil _ _

theorem takeFraction_spelling (cs : List Char) :
    (takeFraction cs).1 = [] ∨ ∃ fs, AllDigits fs ∧ (takeFraction cs).1 = '.' :: fs := by
  unfold takeFraction
  split
  · next rest => exact .inr ⟨_, allDigits_takeWhile rest, rfl⟩
  · exact .inl rfl

/-- There is no power, or a complete one, or one that has no digits behind its sign. -/
theorem takePower_spelling (cs : List Char) :
    (takePower cs).1 = [] ∨ IsPower (takePower cs).1 ∨ IsOpenPower (takePower cs).1 := by
  unfold takePower
  split
  · next e d rest =>
    split
    · next hpower =>
      obtain ⟨hletter, hnext⟩ := Bool.and_eq_true_iff.mp hpower
      rw [Bool.or_eq_true, decide_eq_true_iff, decide_eq_true_iff] at hletter
      by_cases hd : d.isDigit = true
      · have hne : (d :: rest).takeWhile Char.isDigit ≠ [] := takeWhile_ne_nil hd
        simp only [hd, if_true]
        exact .inr (.inl (.unsigned hletter hne (allDigits_takeWhile _)))
      · have hs : d = '+' ∨ d = '-' := by
          simpa only [hd, Bool.false_or, Bool.or_eq_true, decide_eq_true_eq] using hnext
        simp only [hd, Bool.false_eq_true, if_false]
        cases hds : rest.takeWhile Char.isDigit with
        | nil => exact .inr (.inr (.intro hletter hs))
        | cons d' ds =>
          have hds' : AllDigits (d' :: ds) := hds ▸ allDigits_takeWhile rest
          exact .inr (.inl (.signed hletter hs (List.cons_ne_nil _ _) hds'))
    · exact .inl rfl
  · exact .inl rfl

def StartsNumber (first : Char) (cs : List Char) : Prop :=
  first.isDigit = true ∨ first = '.' ∧ cs.head?.any Char.isDigit = true

theorem spelling_cases {first : Char} (h : StartsNumber first cs) :
    IsDecimal (spelling first cs) ∨ IsMalformed (spelling first cs) := by
  have hwhole := allDigits_takeWhile cs
  have hfraction := takeFraction_spelling (cs.dropWhile Char.isDigit)
  have hpower := takePower_spelling (takeFraction (cs.dropWhile Char.isDigit)).2
  unfold spelling
  rcases h with hfirst | ⟨rfl, hhead⟩
  · have hdigits : AllDigits (first :: cs.takeWhile Char.isDigit) :=
      List.forall_mem_cons.mpr ⟨hfirst, hwhole⟩
    have hne := List.cons_ne_nil first (cs.takeWhile Char.isDigit)
    rcases hfraction with hnone | ⟨fs, hfs, heq⟩
    · rw [hnone, List.append_nil]
      exact (IsMantissa.whole hne hdigits).append_cases hpower
    · rw [heq]
      exact (IsMantissa.point hne hdigits hfs).append_cases hpower
  · have hne := takeWhile_ne_nil hhead
    rcases hfraction with hnone | ⟨gs, hgs, heq⟩
    · rw [hnone, List.append_nil]
      exact (IsMantissa.fraction hne hwhole).append_cases hpower
    · -- The scanner looks for a fraction even if the number has started with one.
      rw [heq]
      exact .inr (.points hne hwhole hgs hpower)

/-! ### Tokens that are numbers -/

def isNumber : Token → Bool
  | number _ | integer _ => true
  | _ => false

theorem isNumber_ofWord (word : String) : (ofWord word).isNumber = false := by
  unfold ofWord
  split <;> rfl

theorem isNumber_readSign (c : Char) (cs : List Char) : (readSign c cs).1.isNumber = false := by
  unfold readSign
  split <;> rfl

theorem readNumber_of_next? (h : next? cs = .ok (some (t, rest))) (ht : t.isNumber = true) :
    ∃ first cs', skipBlanks cs = first :: cs' ∧ StartsNumber first cs' ∧
      readNumber first cs' = (t, rest) := by
  rw [next?] at h
  split at h
  · cases h
  next c cs' hskip =>
  split at h
  · next hnumber =>
    simp only [Except.ok.injEq, Option.some.injEq] at h
    refine ⟨c, cs', hskip, ?_, h⟩
    simpa only [StartsNumber, Bool.or_eq_true, Bool.and_eq_true, decide_eq_true_eq] using hnumber
  split at h
  · split at h
    · cases h
    · cases h
      split at ht <;> cases ht
  split at h
  · cases h
    rw [isNumber_ofWord] at ht
    cases ht
  · simp only [Except.ok.injEq, Option.some.injEq] at h
    have hsign := isNumber_readSign c cs'
    rw [h, ht] at hsign
    cases hsign

/-- What a number may be read from: digits and a capital L are an integer; a decimal with or without
a capital L is a double; what only looks like a decimal is not a number. -/
inductive ReadFrom : List Char → Token → Prop where
  | integer {ds : List Char} {n : Int32} (hne : ds ≠ []) (hds : AllDigits ds)
      (hn : n.toInt = ofDigits ds) : ReadFrom (ds ++ ['L']) (integer n)
  | decimal {s suffix : List Char} {x : Float} (hs : IsDecimal s) (hx : read? s = some x)
      (hsuffix : suffix = [] ∨ suffix = ['L']) : ReadFrom (s ++ suffix) (number x)
  | malformed {s suffix : List Char} (hs : IsMalformed s) (hnone : read? s = none)
      (hsuffix : suffix = [] ∨ suffix = ['L']) : ReadFrom (s ++ suffix) (number notANumber)

theorem readFrom_number {s suffix : List Char} (hs : IsDecimal s ∨ IsMalformed s)
    (hsuffix : suffix = [] ∨ suffix = ['L']) :
    ReadFrom (s ++ suffix) (number ((read? s).getD notANumber)) := by
  rcases hs with hs | hs
  · obtain ⟨x, hx⟩ := hs.exists_read?
    rw [hx]
    exact .decimal hs hx hsuffix
  · rw [hs.read?_eq_none]
    exact .malformed hs hs.read?_eq_none hsuffix

theorem readFrom_integer {ds : List Char} {n : Int32} (h : readInteger? ds = some n) :
    ReadFrom (ds ++ ['L']) (integer n) := by
  unfold readInteger? at h
  split at h
  · next hds =>
    obtain ⟨hne, hdigits, hle⟩ := hds
    cases h
    exact .integer hne (List.all_eq_true.mp hdigits) (Int32.toInt_ofNat_of_lt (by omega))
  · cases h

theorem readFrom_readNumber {first : Char} (hstart : StartsNumber first cs) :
    ∃ slice, first :: cs = slice ++ (readNumber first cs).2 ∧
      ReadFrom slice (readNumber first cs).1 := by
  have hcases := spelling_cases hstart
  have happend := spelling_append first cs
  unfold readNumber
  dsimp only
  split
  · next rest heq =>
    have heq : afterSpelling cs = 'L' :: rest := heq
    refine ⟨spelling first cs ++ ['L'], ?_, ?_⟩
    · rw [← happend, heq, List.append_assoc]
      rfl
    · change ReadFrom _ (((readInteger? (spelling first cs)).map integer).getD _)
      cases hinteger : readInteger? (spelling first cs) with
      | none => exact readFrom_number hcases (.inr rfl)
      | some n => exact readFrom_integer hinteger
  · refine ⟨spelling first cs ++ [], ?_, readFrom_number hcases (.inl rfl)⟩
    rw [List.append_nil]
    exact happend.symm

theorem readFrom_of_next? (h : next? cs = .ok (some (t, rest)))
    (hslice : skipBlanks cs = slice ++ rest) (ht : t.isNumber = true) : ReadFrom slice t := by
  obtain ⟨first, cs', hskip, hstart, hread⟩ := readNumber_of_next? h ht
  obtain ⟨slice', hslice', hfrom⟩ := readFrom_readNumber hstart
  rw [hread] at hslice' hfrom
  rw [hskip, hslice'] at hslice
  rw [← List.append_cancel_right hslice]
  exact hfrom

/-- Every number of a text is read from a complete decimal, whose value it has, or it is read from
what only looks like a decimal, and is not a number. -/
theorem scan_numbers {source : String} (h : scan source = .ok toks) :
    ∃ slices, Slices source.toList slices ∧ slices.map Prod.snd = toks ∧
      ∀ slice t, (slice, t) ∈ slices → t.isNumber = true → ReadFrom slice t := by
  obtain ⟨slices, hslices, htoks⟩ := exists_slices h
  exact ⟨slices, hslices, htoks, fun slice t => hslices.forall readFrom_of_next?⟩

theorem scan_numbers_open :
    ∃ slices, Slices "7L + 1e+".toList slices ∧
      slices.map Prod.snd = [integer 7, plus, number notANumber] ∧
      ∀ slice t, (slice, t) ∈ slices → t.isNumber = true → ReadFrom slice t := by
  have hscan : scan "7L + 1e+" = .ok [integer 7, plus, number notANumber] := rfl
  exact scan_numbers hscan

example : next? ".5.3e+L".toList = .ok (some (number notANumber, [])) := rfl

/-- A number may be read from what is no decimal: the letter and the sign of a power with no digit
behind them. -/
theorem scan_no_decimal :
    ¬∀ source toks, scan source = .ok toks →
      ∃ slices, Slices source.toList slices ∧ slices.map Prod.snd = toks ∧
        ∀ slice x, (slice, number x) ∈ slices →
          ∃ s, (slice = s ∨ slice = s ++ ['L']) ∧ IsDecimal s ∧ read? s = some x := by
  intro hdecimals
  obtain ⟨slices, hslices, htoks, hall⟩ := hdecimals "1e+" [number notANumber] rfl
  cases hslices with
  | done => cases htoks
  | token hnext hslice =>
    have hone : next? "1e+".toList = .ok (some (number notANumber, [])) := rfl
    rw [hone] at hnext
    cases hnext
    rw [List.append_nil] at hslice
    subst hslice
    obtain ⟨s, rfl | hlong, -, hread⟩ := hall _ _ List.mem_cons_self
    · cases hread
    · have hlast := congrArg List.getLast? hlong
      rw [List.getLast?_concat] at hlast
      cases hlast

end ScriptBridge.Token
