import Mathlib.Data.List.TakeWhile
import ScriptBridge.Proofs.Except
import ScriptBridge.Proofs.Syntax.Scanning

/-!
# Where a character of a text stands

A hash sign starts a comment up to the end of its line, and a quote a text or a name up to the next
such quote, unless either stands in a comment or between quotes (`Region.next`). After each token
the text goes on outside both (`Lexeme`, `lexeme_of_next?`), so a character that belongs to no token
is a token of its own wherever it stands outside both (`homely_of_scanWith`).
-/

namespace ScriptBridge

/-- Where a character of a text stands. -/
inductive Region where
  /-- Outside comments and quotes. -/
  | code
  | comment
  | quoted (quote : Char)
  /-- Between quotes, after a backslash. -/
  | escaped (quote : Char)
  deriving DecidableEq

namespace Region

/-- Where the character after `c` stands. -/
def next : Region → Char → Region
  | code, c =>
    if c = '#' then comment else if c = '"' ∨ c = '\'' ∨ c = '\x60' then quoted c else code
  | comment, c => if c = '\n' then code else comment
  | quoted quote, c => if c = '\\' then escaped quote else if c = quote then code else quoted quote
  | escaped quote, _ => quoted quote

def run (p : Region) (cs : List Char) : Region := cs.foldl next p

def after (cs : List Char) : Region := run code cs

variable {p : Region} {c : Char} {cs : List Char}

theorem run_cons (p : Region) (c : Char) (cs : List Char) :
    p.run (c :: cs) = (p.next c).run cs := rfl

theorem run_append (p : Region) (cs cs' : List Char) : p.run (cs ++ cs') = (p.run cs).run cs' :=
  List.foldl_append

/-- Characters after which the text goes on outside comments and quotes. -/
theorem run_code (h : ∀ c ∈ cs, code.next c = code) : code.run cs = code := by
  induction cs with
  | nil => rfl
  | cons c cs ih =>
    rw [run_cons, h c List.mem_cons_self]
    exact ih fun c' hc' => h c' (List.mem_cons_of_mem c hc')

theorem run_comment (h : ∀ c ∈ cs, c ≠ '\n') : comment.run cs = comment := by
  induction cs with
  | nil => rfl
  | cons c cs ih =>
    rw [run_cons, next, if_neg (h c List.mem_cons_self)]
    exact ih fun c' hc' => h c' (List.mem_cons_of_mem c hc')

end Region

namespace Token

/-- Whether no token other than a text or a name between quotes has the character in it: it is no
blank, no sign, no quote and none of the characters of names and numbers. -/
def isAlien (c : Char) : Bool :=
  !(isNameChar c || c.isDigit || c = ' ' || c = '\t' || c = '\r' || c = '#' || c = '"' ||
    c = '\'' || c = '\x60') && (readSign c []).1 matches .unknown _

/-- Outside comments and quotes there is no alien in a text. -/
def Homely (p : Region) (cs : List Char) : Prop :=
  ∀ pre c post, cs = pre ++ c :: post → p.run pre = .code → isAlien c = false

variable {p : Region} {c : Char} {cs cs' rest : List Char} {t : Token}

theorem homely_nil (p : Region) : Homely p [] := by
  intro pre c post h
  cases pre <;> cases h

theorem homely_cons (hc : p = .code → isAlien c = false) (hcs : Homely (p.next c) cs) :
    Homely p (c :: cs) := by
  intro pre c' post h hpre
  cases pre with
  | nil =>
    cases h
    exact hc hpre
  | cons d pre =>
    cases h
    exact hcs pre c' post rfl hpre

theorem homely_append (hcs : Homely p cs) (hcs' : Homely (p.run cs) cs') :
    Homely p (cs ++ cs') := by
  induction cs generalizing p with
  | nil => exact hcs'
  | cons c cs ih =>
    refine homely_cons (fun hp => hcs [] c cs rfl hp) (ih ?_ hcs')
    exact fun pre c' post h hpre => hcs (c :: pre) c' post (by rw [h]; rfl) hpre

/-- Outside comments and quotes the text goes on there after the character, which is no alien. -/
def IsPlain (c : Char) : Prop := Region.code.next c = .code ∧ isAlien c = false

instance : DecidablePred IsPlain := fun _ => inferInstanceAs (Decidable (_ ∧ _))

theorem homely_of_plain (h : ∀ c ∈ cs, IsPlain c) : Homely .code cs := by
  induction cs with
  | nil => exact homely_nil _
  | cons c cs ih =>
    obtain ⟨hnext, halien⟩ := h c List.mem_cons_self
    refine homely_cons (fun _ => halien) ?_
    rw [hnext]
    exact ih fun c' hc' => h c' (List.mem_cons_of_mem c hc')

theorem run_of_plain (h : ∀ c ∈ cs, IsPlain c) : Region.code.run cs = .code :=
  Region.run_code fun c hc => (h c hc).1

/-- The first characters of a text are one token `t`, and the text goes on outside comments and
quotes after it. -/
def Lexeme (cs : List Char) (t : Token) (rest : List Char) : Prop :=
  ∃ used, cs = used ++ rest ∧ Region.code.run used = .code ∧
    ((∀ c, t ≠ .unknown c) → Homely .code used)

theorem lexeme_of_plain (cs' : List Char) (h : cs = cs' ++ rest) (hplain : ∀ c ∈ cs', IsPlain c) :
    Lexeme cs t rest :=
  ⟨cs', h, run_of_plain hplain, fun _ => homely_of_plain hplain⟩

theorem lexeme_of_all (cs' : List Char) (h : cs = cs' ++ rest)
    (hplain : cs'.all (fun c => decide (IsPlain c)) = true) : Lexeme cs t rest :=
  lexeme_of_plain cs' h fun c hc => of_decide_eq_true (List.all_eq_true.mp hplain c hc)

/-! ### Names and numbers -/

theorem next_code (hhash : c ≠ '#') (hquote : ¬(c = '"' ∨ c = '\'' ∨ c = '\x60')) :
    Region.code.next c = .code := by
  rw [Region.next, if_neg hhash, if_neg hquote]

theorem isPlain_of_isNameChar (h : isNameChar c = true) : IsPlain c := by
  refine ⟨next_code ?_ ?_, by rw [isAlien, h]; rfl⟩
  · rintro rfl
    revert h
    decide
  · rintro (rfl | rfl | rfl) <;> revert h <;> decide

theorem isPlain_of_isDigit (h : c.isDigit = true) : IsPlain c := by
  refine ⟨next_code ?_ ?_, by rw [isAlien, h, Bool.or_true]; rfl⟩
  · rintro rfl
    revert h
    decide
  · rintro (rfl | rfl | rfl) <;> revert h <;> decide

theorem takeFraction_append (cs : List Char) : (takeFraction cs).1 ++ (takeFraction cs).2 = cs := by
  unfold takeFraction
  split
  · exact congrArg ('.' :: ·) List.takeWhile_append_dropWhile
  · rfl

theorem takePower_append (cs : List Char) : (takePower cs).1 ++ (takePower cs).2 = cs := by
  unfold takePower
  split
  · next e c rest =>
    split
    · by_cases hc : c.isDigit = true
      · simp only [hc, if_true]
        exact congrArg (e :: ·) List.takeWhile_append_dropWhile
      · simp only [hc, Bool.false_eq_true, if_false]
        exact congrArg (e :: c :: ·) List.takeWhile_append_dropWhile
    · rfl
  · rfl

/-- What is read as the spelling of a number that starts with the character `first`. -/
def spelling (first : Char) (cs : List Char) : List Char :=
  first :: cs.takeWhile Char.isDigit ++ (takeFraction (cs.dropWhile Char.isDigit)).1 ++
    (takePower (takeFraction (cs.dropWhile Char.isDigit)).2).1

/-- What stands behind the spelling of a number. -/
def afterSpelling (cs : List Char) : List Char :=
  (takePower (takeFraction (cs.dropWhile Char.isDigit)).2).2

theorem spelling_append (first : Char) (cs : List Char) :
    spelling first cs ++ afterSpelling cs = first :: cs := by
  rw [spelling, afterSpelling, List.append_assoc, takePower_append, List.append_assoc,
    takeFraction_append, List.cons_append, List.takeWhile_append_dropWhile]

theorem isPlain_of_mem_takeWhile (h : c ∈ cs.takeWhile Char.isDigit) : IsPlain c :=
  isPlain_of_isDigit (List.mem_takeWhile_imp h)

theorem isPlain_of_mem_takeFraction (h : c ∈ (takeFraction cs).1) : IsPlain c := by
  unfold takeFraction at h
  split at h
  · rcases List.mem_cons.mp h with rfl | h
    · exact isPlain_of_isNameChar (by decide)
    · exact isPlain_of_mem_takeWhile h
  · cases h

theorem isPlain_of_mem_takePower (h : c ∈ (takePower cs).1) : IsPlain c := by
  unfold takePower at h
  split at h
  · next e d rest =>
    split at h
    · next hpower =>
      have hletter : IsPlain e := by
        have he := (Bool.and_eq_true_iff.mp hpower).1
        rcases Bool.or_eq_true_iff.mp he with he | he
        · rw [of_decide_eq_true he]
          exact isPlain_of_isNameChar (by decide)
        · rw [of_decide_eq_true he]
          exact isPlain_of_isNameChar (by decide)
      have hsign : IsPlain d := by
        have hd := (Bool.and_eq_true_iff.mp hpower).2
        simp only [Bool.or_eq_true, decide_eq_true_eq] at hd
        rcases hd with (hd | rfl) | rfl
        · exact isPlain_of_isDigit hd
        · exact ⟨rfl, rfl⟩
        · exact ⟨rfl, rfl⟩
      by_cases hd : d.isDigit = true
      · simp only [hd, if_true, List.nil_append, List.cons_append, List.mem_cons] at h
        rcases h with rfl | h
        · exact hletter
        · exact isPlain_of_mem_takeWhile h
      · simp only [hd, Bool.false_eq_true, if_false, List.cons_append, List.nil_append,
          List.mem_cons] at h
        rcases h with rfl | rfl | h
        · exact hletter
        · exact hsign
        · exact isPlain_of_mem_takeWhile h
    · cases h
  · cases h

theorem lexeme_readNumber {first : Char} (hfirst : IsPlain first) :
    Lexeme (first :: cs) (readNumber first cs).1 (readNumber first cs).2 := by
  have hsplit := spelling_append first cs
  have hplain : ∀ c ∈ spelling first cs, IsPlain c := by
    intro c hc
    rw [spelling, List.mem_append, List.mem_append, List.mem_cons] at hc
    rcases hc with ((rfl | hc) | hc) | hc
    · exact hfirst
    · exact isPlain_of_mem_takeWhile hc
    · exact isPlain_of_mem_takeFraction hc
    · exact isPlain_of_mem_takePower hc
  rw [readNumber]
  dsimp only
  split
  · next rest heq =>
    have heq : afterSpelling cs = 'L' :: rest := heq
    refine lexeme_of_plain (spelling first cs ++ ['L']) ?_ fun c hc => ?_
    · rw [← hsplit, heq, List.append_assoc]
      rfl
    · rcases List.mem_append.mp hc with hc | hc
      · exact hplain c hc
      · rw [List.mem_singleton.mp hc]
        exact isPlain_of_isNameChar (by decide)
  · exact lexeme_of_plain (spelling first cs) hsplit.symm hplain

/-! ### Texts between quotes -/

theorem exists_of_readQuoted? {quote : Char} {s : List Char} (hquote : quote ≠ '\\')
    (h : readQuoted? quote cs = some (s, rest)) :
    ∃ used, cs = used ++ rest ∧ (Region.quoted quote).run used = .code ∧
      Homely (.quoted quote) used := by
  fun_induction readQuoted? quote cs generalizing s with
  | case1 => cases h
  | case2 c cs ih =>
    obtain ⟨⟨s', rest'⟩, hcs, heq⟩ := Option.map_eq_some_iff.mp h
    cases heq
    obtain ⟨used, hused, hrun, hhomely⟩ := ih hcs
    refine ⟨'\\' :: c :: used, by rw [hused]; rfl, ?_, ?_⟩
    · exact hrun
    · refine homely_cons (fun h => ?_) (homely_cons (fun h => ?_) hhomely)
      · cases h
      · cases h
  | case3 => cases h
  | case4 cs =>
    cases h
    have hnext : (Region.quoted quote).next quote = .code := by
      rw [Region.next, if_neg hquote, if_pos rfl]
    refine ⟨[quote], rfl, hnext, homely_cons (fun h => ?_) (homely_nil _)⟩
    cases h
  | case5 c cs hslash hend hne ih =>
    obtain ⟨⟨s', rest'⟩, hcs, heq⟩ := Option.map_eq_some_iff.mp h
    cases heq
    obtain ⟨used, hused, hrun, hhomely⟩ := ih hcs
    have hnext : (Region.quoted quote).next c = .quoted quote := by
      rw [Region.next, if_neg, if_neg hne]
      intro hc
      cases cs with
      | nil => exact hend hc rfl
      | cons d cs => exact hslash d cs hc rfl
    refine ⟨c :: used, by rw [hused]; rfl, ?_, ?_⟩
    · rw [Region.run_cons, hnext]
      exact hrun
    · refine homely_cons (fun h => ?_) ?_
      · cases h
      · rw [hnext]
        exact hhomely

theorem lexeme_readQuoted? {quote : Char} {s : List Char}
    (hquote : quote = '"' ∨ quote = '\'' ∨ quote = '\x60')
    (h : readQuoted? quote cs = some (s, rest)) : Lexeme (quote :: cs) t rest := by
  obtain ⟨used, hused, hrun, hhomely⟩ := exists_of_readQuoted?
    (by rcases hquote with rfl | rfl | rfl <;> decide) h
  have hnext : Region.code.next quote = .quoted quote := by
    rw [Region.next, if_neg, if_pos hquote]
    rintro rfl
    revert hquote
    decide
  refine ⟨quote :: used, by rw [hused]; rfl, ?_, fun _ => homely_cons (fun _ => ?_) ?_⟩
  · rw [Region.run_cons, hnext]
    exact hrun
  · rcases hquote with rfl | rfl | rfl <;> rfl
  · rw [hnext]
    exact hhomely

/-! ### Signs -/

theorem lexeme_readSign (hnext : Region.code.next c = .code) :
    Lexeme (c :: cs) (readSign c cs).1 (readSign c cs).2 := by
  unfold readSign
  split
  case h_32 => exact ⟨[c], rfl, hnext, fun h => absurd rfl (h c)⟩
  all_goals
    first
    | exact lexeme_of_all [_] rfl rfl
    | exact lexeme_of_all [_, _] rfl rfl
    | exact lexeme_of_all [_, _, _] rfl rfl

/-! ### Blanks and comments -/

theorem homely_comment (h : ∀ c ∈ cs, c ≠ '\n') : Homely .comment cs := by
  intro pre c post heq hpre
  have hrun : Region.comment.run pre = .comment := Region.run_comment fun d hd =>
    h d (by rw [heq]; exact List.mem_append_left _ hd)
  rw [hrun] at hpre
  cases hpre

/-- What stands before the next token: blanks, and maybe a comment up to the end of its line. -/
theorem exists_of_skipBlanks (cs : List Char) :
    ∃ used, cs = used ++ skipBlanks cs ∧ Homely .code used ∧
      (Region.code.run used = .code ∧ (∀ rest, skipBlanks cs ≠ '#' :: rest) ∨
        Region.code.run used = .comment ∧ ∀ c rest, skipBlanks cs = c :: rest → c = '\n') := by
  let isBlank : Char → Bool := fun c => c = ' ' || c = '\t' || c = '\r'
  have hblank : ∀ c ∈ cs.takeWhile isBlank, IsPlain c := by
    intro c hc
    have := List.mem_takeWhile_imp hc
    simp only [isBlank, Bool.or_eq_true, decide_eq_true_eq] at this
    rcases this with (rfl | rfl) | rfl <;> decide
  have hsplit : cs = cs.takeWhile isBlank ++ cs.dropWhile isBlank :=
    List.takeWhile_append_dropWhile.symm
  unfold skipBlanks
  split
  · next rest heq =>
    have hcomment : ∀ c ∈ rest.takeWhile (· ≠ '\n'), c ≠ '\n' := by
      intro c hc
      have hne := List.mem_takeWhile_imp hc
      exact of_decide_eq_true hne
    refine ⟨cs.takeWhile isBlank ++ '#' :: rest.takeWhile (· ≠ '\n'), ?_, ?_, .inr ⟨?_, ?_⟩⟩
    · rw [List.append_assoc, List.cons_append, List.takeWhile_append_dropWhile, ← heq]
      exact hsplit
    · refine homely_append (homely_of_plain hblank) ?_
      rw [run_of_plain hblank]
      exact homely_cons (fun _ => rfl) (homely_comment hcomment)
    · rw [Region.run_append, run_of_plain hblank]
      exact Region.run_comment hcomment
    · intro c rest' hdrop
      have hhead := List.head?_dropWhile_not (· ≠ '\n') rest
      rw [hdrop] at hhead
      exact of_decide_eq_true (by simpa using hhead)
  · next hhash => exact ⟨_, hsplit, homely_of_plain hblank, .inl ⟨run_of_plain hblank, hhash⟩⟩

/-! ### Tokens -/

theorem lexeme_of_skipBlanks {cs' : List Char} (heq : skipBlanks cs = c :: cs') (hhash : c ≠ '#')
    (h : next? cs = .ok (some (t, rest))) : Lexeme (c :: cs') t rest := by
  unfold next? at h
  rw [heq] at h
  dsimp only at h
  split at h
  · next hnumber =>
    have hplain : IsPlain c := by
      rcases Bool.or_eq_true_iff.mp hnumber with hdigit | hpoint
      · exact isPlain_of_isDigit hdigit
      · rw [of_decide_eq_true (Bool.and_eq_true_iff.mp hpoint).1]
        decide
    simp only [Except.ok.injEq, Option.some.injEq] at h
    have hlexeme : Lexeme (c :: cs') _ _ := lexeme_readNumber hplain
    rw [h] at hlexeme
    exact hlexeme
  · split at h
    · next hquote =>
      simp only [Bool.or_eq_true, decide_eq_true_eq, or_assoc] at hquote
      split at h
      · cases h
      · next s rest' hread =>
        cases h
        exact lexeme_readQuoted? hquote hread
    · next hquote =>
      simp only [Bool.or_eq_true, decide_eq_true_eq, or_assoc] at hquote
      split at h
      · next hword =>
        have hstart : isNameChar c = true := by
          rcases Bool.or_eq_true_iff.mp hword with hletter | hpoint
          · rw [isNameChar, hletter]
            rfl
          · rw [of_decide_eq_true hpoint]
            decide
        cases h
        refine lexeme_of_plain (c :: cs'.takeWhile isNameChar) ?_ fun d hd => ?_
        · rw [List.cons_append, List.takeWhile_append_dropWhile]
        · rcases List.mem_cons.mp hd with rfl | hd
          · exact isPlain_of_isNameChar hstart
          · exact isPlain_of_isNameChar (List.mem_takeWhile_imp hd)
      · simp only [Except.ok.injEq, Option.some.injEq] at h
        have hlexeme : Lexeme (c :: cs') _ _ := lexeme_readSign (next_code hhash hquote)
        rw [h] at hlexeme
        exact hlexeme

/-- From one token to the end of the next the text goes on outside comments and quotes. -/
theorem lexeme_of_next? (h : next? cs = .ok (some (t, rest))) : Lexeme cs t rest := by
  obtain ⟨blanks, hblanks, hhomely, hrun⟩ := exists_of_skipBlanks cs
  cases heq : skipBlanks cs with
  | nil =>
    unfold next? at h
    rw [heq] at h
    cases h
  | cons c cs' =>
    rw [heq] at hblanks
    rcases hrun with ⟨hrun, hhash⟩ | ⟨hrun, hline⟩
    · have hhash : c ≠ '#' := fun hc => hhash cs' (by rw [heq, hc])
      obtain ⟨used, hused, hcode, hunknown⟩ := lexeme_of_skipBlanks heq hhash h
      refine ⟨blanks ++ used, ?_, ?_, fun ht => ?_⟩
      · rw [hblanks, hused, List.append_assoc]
      · rw [Region.run_append, hrun, hcode]
      · refine homely_append hhomely ?_
        rw [hrun]
        exact hunknown ht
    · -- After a comment only the end of its line comes next.
      obtain rfl := hline c cs' heq
      unfold next? at h
      rw [heq] at h
      cases h
      refine ⟨blanks ++ ['\n'], ?_, ?_, fun _ => homely_append hhomely ?_⟩
      · rw [hblanks, List.append_assoc]
        rfl
      · rw [Region.run_append, hrun]
        rfl
      · rw [hrun]
        exact homely_cons nofun (homely_nil _)

/-- A text with no more tokens has no aliens outside comments and quotes. -/
theorem homely_of_next?_none (h : next? cs = .ok none) : Homely .code cs := by
  obtain ⟨blanks, hblanks, hhomely, -⟩ := exists_of_skipBlanks cs
  unfold next? at h
  split at h
  · next heq =>
    rw [hblanks, heq, List.append_nil]
    exact hhomely
  · repeat' split at h
    all_goals cases h

theorem homely_of_scanWith : ∀ {fuel : Nat} {cs : List Char} {toks : List Token},
    scanWith fuel cs = .ok toks → (∀ c, .unknown c ∉ toks) → Homely .code cs
  | 0, _, _, h, _ => by cases h
  | fuel + 1, cs, toks, h, hknown => by
    rw [scanWith] at h
    rcases hnext : next? cs with e | _ | ⟨t, rest⟩
    · rw [hnext] at h
      cases h
    · exact homely_of_next?_none hnext
    · rw [hnext] at h
      change (do return t :: (← scanWith fuel rest)) = _ at h
      obtain ⟨toks', htoks', heq⟩ := except_bind_eq_ok.mp h
      cases heq
      obtain ⟨used, hused, hcode, hhomely⟩ := lexeme_of_next? hnext
      rw [hused]
      refine homely_append (hhomely fun c hc => hknown c ?_) ?_
      · rw [hc]
        exact List.mem_cons_self
      · rw [hcode]
        exact homely_of_scanWith htoks' fun c hc => hknown c (List.mem_cons_of_mem t hc)

end Token

end ScriptBridge
