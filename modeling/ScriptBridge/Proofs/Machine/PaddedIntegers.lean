import ScriptBridge.Proofs.Console.Grammar
import ScriptBridge.Proofs.Machine.Templates

/-!
# Integers brought to a width

The placeholder `%d` shows an integer as its digits with what the flags put before them, a sign or a
blank (`Format.integerChars`). A width adds as many characters as are missing to it
(`Format.Padded`): blanks on the right or on the left, or zeros, which come behind a minus sign but
before everything else. So the text still reads as the integer unless zeros come before a plus sign
or a blank (`Format.readsAs_padded_iff`); the whole is `Builtin.formats_integer`, and two texts that
are no numbers are `Builtin.formats_displaced`.

The text between the percent sign and the conversion is taken apart from the front, so a width of
zero is one flag more (`Format.spec?_width`).
-/

namespace ScriptBridge

open Signal (IsTenDigit Spells magnitude)

/-! ### Texts that are numbers -/

/-- The characters are a number: digits, with or without a sign before them. -/
inductive Numeral : List Char → Int → Prop where
  | spelt {cs : List Char} {k : Int} (h : Spells cs k) : Numeral cs k
  | plus {ds : List Char} (hne : ds ≠ []) (hds : ∀ d ∈ ds, IsTenDigit d) :
      Numeral ('+' :: ds) (magnitude ds)

/-- The characters are a number with blanks around it. -/
def ReadsAs (cs : List Char) (k : Int) : Prop :=
  ∃ before number after, cs = before ++ (number ++ after) ∧ (∀ c ∈ before, c = ' ') ∧
    Numeral number k ∧ ∀ c ∈ after, c = ' '

section Reading

variable {cs ds : List Char} {k : Int}

theorem Numeral.readsAs (h : Numeral cs k) : ReadsAs cs k :=
  ⟨[], cs, [], by simp, List.forall_mem_nil _, h, List.forall_mem_nil _⟩

theorem ReadsAs.blanks_append (h : ReadsAs cs k) (m : Nat) :
    ReadsAs (List.replicate m ' ' ++ cs) k := by
  obtain ⟨before, number, after, rfl, hbefore, hnumber, hafter⟩ := h
  refine ⟨List.replicate m ' ' ++ before, number, after, by simp, ?_, hnumber, hafter⟩
  exact List.forall_mem_append.mpr ⟨fun _ hc => List.eq_of_mem_replicate hc, hbefore⟩

theorem ReadsAs.append_blanks (h : ReadsAs cs k) (m : Nat) :
    ReadsAs (cs ++ List.replicate m ' ') k := by
  obtain ⟨before, number, after, rfl, hbefore, hnumber, hafter⟩ := h
  refine ⟨before, number, after ++ List.replicate m ' ', by simp, hbefore, hnumber, ?_⟩
  exact List.forall_mem_append.mpr ⟨hafter, fun _ hc => List.eq_of_mem_replicate hc⟩

theorem Numeral.forall_mem_of_digit {d : Char} (h : Numeral (d :: ds) k) (hd : IsTenDigit d) :
    ∀ c ∈ d :: ds, IsTenDigit c := by
  cases h with
  | spelt h =>
    cases h with
    | plain _ hds => exact hds
    | minus => exact absurd hd (by decide)
  | plus => exact absurd hd (by decide)

/-- What starts and ends with a digit and has another character between them is no number. -/
theorem not_readsAs_of_inner {c d e : Char} (hd : IsTenDigit d) (hc : ¬IsTenDigit c)
    (he : IsTenDigit e) : ¬ReadsAs (d :: (cs ++ c :: (ds ++ [e]))) k := by
  rintro ⟨before, number, after, heq, hbefore, hnumber, hafter⟩
  have hnil : before = [] := by
    cases before with
    | nil => rfl
    | cons b before =>
      obtain rfl : d = b := (List.cons.inj heq).1
      obtain rfl : d = ' ' := hbefore d List.mem_cons_self
      exact absurd hd (by decide)
  have hend : after = [] := by
    rcases List.eq_nil_or_concat after with rfl | ⟨after, b, rfl⟩
    · rfl
    · have hlast : (d :: (cs ++ c :: ds)) ++ [e] = (before ++ (number ++ after)) ++ [b] := by
        simpa using heq
      obtain rfl : e = b := (List.append_singleton_inj.mp hlast).2
      obtain rfl : e = ' ' := hafter e (by simp)
      exact absurd he (by decide)
  subst hnil hend
  rw [List.nil_append, List.append_nil] at heq
  subst heq
  exact hc (hnumber.forall_mem_of_digit hd c (by simp))

theorem magnitude_zeros (m : Nat) (ds : List Char) :
    magnitude (List.replicate m '0' ++ ds) = magnitude ds := by
  induction m with
  | zero => rfl
  | succ m ih =>
    rw [← ih, ← Signal.ofDigits_eq_magnitude, ← Signal.ofDigits_eq_magnitude]
    rfl

end Reading

namespace Format

variable {f : Format} {flags cs padded : List Char} {m : Nat} {k : Int}

/-! ### Integers without a width -/

/-- What the flags put before the digits of an integer. -/
def leading (flags : List Char) (k : Int) : List Char :=
  if k < 0 then ['-'] else if '+' ∈ flags then ['+'] else if ' ' ∈ flags then [' '] else []

/-- An integer with what the flags put before it. -/
def integerChars (flags : List Char) (k : Int) : List Char :=
  leading flags k ++ k.natAbs.repr.toList

theorem repr_ne_nil (n : Nat) : n.repr.toList ≠ [] := Nat.toList_repr ▸ Nat.toDigits_ne_nil

theorem head?_repr_ne_minus (n : Nat) : n.repr.toList.head? ≠ some '-' := fun h =>
  absurd (Signal.isTenDigit_of_mem_repr (List.mem_of_head? h)) (by decide)

theorem toList_toString (k : Int) :
    (toString k).toList = (if k < 0 then ['-'] else []) ++ k.natAbs.repr.toList := by
  cases k with
  | ofNat n => rfl
  | negSucc n =>
    change ("-" ++ (n + 1).repr).toList = _
    rw [String.toList_append, if_pos (Int.negSucc_lt_zero n)]
    rfl

theorem toList_integerBody (f : Format) (k : Int) :
    (f.integerBody k).toList = integerChars f.flags k := by
  have htext := toList_toString k
  rw [integerBody, withSign, integerChars, leading, htext]
  by_cases hk : k < 0
  · rw [if_pos hk, if_pos hk, List.singleton_append, List.head?_cons, if_pos rfl, htext, if_pos hk]
    rfl
  · rw [if_neg hk, if_neg hk, List.nil_append, if_neg (head?_repr_ne_minus _)]
    rw [if_neg hk, List.nil_append] at htext
    by_cases hplus : '+' ∈ f.flags
    · rw [if_pos hplus, if_pos (List.contains_iff_mem.mpr hplus), String.toList_append, htext]
      rfl
    · rw [if_neg hplus, if_neg (fun h => hplus (List.contains_iff_mem.mp h))]
      by_cases hblank : ' ' ∈ f.flags
      · rw [if_pos hblank, if_pos (List.contains_iff_mem.mpr hblank), String.toList_append, htext]
        rfl
      · rw [if_neg hblank, if_neg (fun h => hblank (List.contains_iff_mem.mp h)), htext]
        rfl

theorem integerChars_append_zero : integerChars (flags ++ ['0']) k = integerChars flags k := by
  simp [integerChars, leading]

theorem head?_integerChars : (integerChars flags k).head? = some '-' ↔ k < 0 := by
  rw [integerChars, leading]
  by_cases hk : k < 0
  · rw [if_pos hk]
    exact iff_of_true rfl hk
  · rw [if_neg hk]
    refine iff_of_false ?_ hk
    split
    · simp
    · split
      · simp
      · exact head?_repr_ne_minus _

theorem numeral_zeros (m : Nat) (k : Int) :
    (k < 0 → Numeral ('-' :: (List.replicate m '0' ++ k.natAbs.repr.toList)) k) ∧
      (¬k < 0 → Numeral (List.replicate m '0' ++ k.natAbs.repr.toList) k ∧
        Numeral ('+' :: (List.replicate m '0' ++ k.natAbs.repr.toList)) k) := by
  have hne : List.replicate m '0' ++ k.natAbs.repr.toList ≠ [] :=
    List.append_ne_nil_of_right_ne_nil _ (repr_ne_nil _)
  have hdigits : ∀ d ∈ List.replicate m '0' ++ k.natAbs.repr.toList, IsTenDigit d :=
    List.forall_mem_append.mpr ⟨fun d hd => List.eq_of_mem_replicate hd ▸ by decide,
      fun _ => Signal.isTenDigit_of_mem_repr⟩
  have hvalue : magnitude (List.replicate m '0' ++ k.natAbs.repr.toList) = k.natAbs := by
    rw [magnitude_zeros, Signal.magnitude_repr]
  constructor
  · intro hk
    have hminus := Numeral.spelt (Spells.minus hne hdigits)
    have hnatAbs : -(k.natAbs : Int) = k := by omega
    rwa [hvalue, hnatAbs] at hminus
  · intro hk
    have hplain := Numeral.spelt (Spells.plain hne hdigits)
    have hplus := Numeral.plus hne hdigits
    have hnatAbs : (k.natAbs : Int) = k := by omega
    rw [hvalue, hnatAbs] at hplain hplus
    exact ⟨hplain, hplus⟩

/-- Without a width an integer is a number, with a blank before it if the flags ask for one. -/
theorem readsAs_integerChars (flags : List Char) (k : Int) : ReadsAs (integerChars flags k) k := by
  obtain ⟨hminus, hnonneg⟩ := numeral_zeros 0 k
  rw [integerChars, leading]
  by_cases hk : k < 0
  · rw [if_pos hk]
    exact (hminus hk).readsAs
  · obtain ⟨hplain, hplus⟩ := hnonneg hk
    rw [if_neg hk]
    split
    · exact hplus.readsAs
    · split
      · exact hplain.readsAs.blanks_append 1
      · exact hplain.readsAs

/-! ### The width -/

/-- How `m` characters are added to others to bring them to a width, other than for `%s`. -/
inductive Padded (flags cs : List Char) (m : Nat) : List Char → Prop where
  | left (hleft : '-' ∈ flags) : Padded flags cs m (cs ++ List.replicate m ' ')
  | right (hleft : '-' ∉ flags) (hzero : '0' ∉ flags) :
      Padded flags cs m (List.replicate m ' ' ++ cs)
  | behindMinus {ds : List Char} (hleft : '-' ∉ flags) (hzero : '0' ∈ flags)
      (hcs : cs = '-' :: ds) : Padded flags cs m ('-' :: (List.replicate m '0' ++ ds))
  | zeros (hleft : '-' ∉ flags) (hzero : '0' ∈ flags) (hcs : cs.head? ≠ some '-') :
      Padded flags cs m (List.replicate m '0' ++ cs)

theorem padded_pad (hf : f.conversion ≠ 's') (s : String) :
    Padded f.flags s.toList (f.width - s.toList.length) (f.pad s).toList := by
  rw [pad]
  by_cases hleft : '-' ∈ f.flags
  · rw [if_pos (List.contains_iff_mem.mpr hleft), String.toList_ofList]
    exact .left hleft
  · rw [if_neg fun h => hleft (List.contains_iff_mem.mp h)]
    by_cases hzero : '0' ∈ f.flags
    · rw [if_pos (by simp [hzero, hf])]
      split
      · next ds hcs =>
        rw [String.toList_ofList, hcs]
        exact .behindMinus hleft hzero rfl
      · next hcs =>
        rw [String.toList_ofList]
        refine .zeros hleft hzero fun hhead => ?_
        obtain ⟨ds, hds⟩ := List.head?_eq_some_iff.mp hhead
        exact hcs ds hds
    · rw [if_neg (by simp [hzero]), String.toList_ofList]
      exact .right hleft hzero

theorem Padded.length_eq (h : Padded flags cs m padded) : padded.length = cs.length + m := by
  cases h with
  | behindMinus _ _ hcs =>
    rw [hcs, List.length_cons, List.length_cons, List.length_append, List.length_replicate]
    omega
  | left => rw [List.length_append, List.length_replicate]
  | right | zeros => rw [List.length_append, List.length_replicate, Nat.add_comm]

theorem Padded.eq_self (h : Padded flags cs 0 padded) : padded = cs := by
  cases h with
  | behindMinus _ _ hcs => rw [hcs, List.replicate_zero, List.nil_append]
  | left => exact List.append_nil cs
  | right | zeros => rfl

theorem padded_self (flags : List Char) (s : String) : Padded flags s.toList 0 s.toList := by
  let f : Format := ⟨flags, 0, none, 'd'⟩
  have hpadded : Padded flags s.toList (0 - s.toList.length) (f.pad s).toList :=
    padded_pad (f := f) (by simp [f]) s
  rw [Nat.zero_sub] at hpadded
  have hself := hpadded.eq_self
  rwa [hself] at hpadded

/-- There is room for zeros, and they come before a plus sign or a blank. -/
structure Displaced (flags : List Char) (m : Nat) (k : Int) : Prop where
  zero : '0' ∈ flags
  right : '-' ∉ flags
  sign : '+' ∈ flags ∨ ' ' ∈ flags
  nonneg : 0 ≤ k
  room : 0 < m

theorem leading_of_sign (hk : ¬k < 0) (hsign : '+' ∈ flags ∨ ' ' ∈ flags) :
    ∃ c, leading flags k = [c] ∧ ¬IsTenDigit c := by
  rw [leading, if_neg hk]
  split
  · exact ⟨'+', rfl, by decide⟩
  · next hplus =>
    rw [if_pos (hsign.resolve_left hplus)]
    exact ⟨' ', rfl, by decide⟩

theorem Padded.eq_of_displaced (h : Padded flags (integerChars flags k) m padded)
    (hd : Displaced flags m k) : padded = List.replicate m '0' ++ integerChars flags k := by
  cases h with
  | left hleft => exact absurd hleft hd.right
  | right _ hzero => exact absurd hd.zero hzero
  | behindMinus _ _ hcs =>
    have hk := head?_integerChars.mp (congrArg List.head? hcs)
    have hnonneg := hd.nonneg
    omega
  | zeros => rfl

theorem not_readsAs_of_displaced (hd : Displaced flags m k) :
    ¬ReadsAs (List.replicate m '0' ++ integerChars flags k) k := by
  have hk : ¬k < 0 := by
    have hnonneg := hd.nonneg
    omega
  obtain ⟨c, hc, hdigit⟩ := leading_of_sign hk hd.sign
  obtain ⟨j, rfl⟩ : ∃ j, m = j + 1 := ⟨m - 1, by have hroom := hd.room; omega⟩
  obtain ⟨ds, e, hlast⟩ :=
    (List.eq_nil_or_concat k.natAbs.repr.toList).resolve_left (repr_ne_nil _)
  have he : IsTenDigit e := Signal.isTenDigit_of_mem_repr (by rw [hlast]; simp)
  have hzero : IsTenDigit '0' := by decide
  rw [integerChars, hc, hlast, List.concat_eq_append]
  exact not_readsAs_of_inner hzero hdigit he

/-- An integer brought to a width is still the number, unless zeros come before its sign. -/
theorem readsAs_padded_iff (h : Padded flags (integerChars flags k) m padded) :
    ReadsAs padded k ↔ ¬Displaced flags m k := by
  refine ⟨fun hreads hd => ?_, fun hnot => ?_⟩
  · rw [h.eq_of_displaced hd] at hreads
    exact not_readsAs_of_displaced hd hreads
  · obtain ⟨hminus, hnonneg⟩ := numeral_zeros m k
    have hplain := readsAs_integerChars flags k
    cases h with
    | left => exact hplain.append_blanks m
    | right => exact hplain.blanks_append m
    | behindMinus _ _ hcs =>
      have hk := head?_integerChars.mp (congrArg List.head? hcs)
      rw [integerChars, leading, if_pos hk] at hcs
      obtain rfl := (List.cons.inj hcs).2
      exact (hminus hk).readsAs
    | zeros hleft hzero hcs =>
      have hk : ¬k < 0 := fun hk => hcs (head?_integerChars.mpr hk)
      by_cases hm : m = 0
      · subst hm
        exact hplain
      · -- Zeros are added, so they are not displaced only if there is nothing before the digits.
        have hsign : ¬('+' ∈ flags ∨ ' ' ∈ flags) := fun hsign =>
          hnot ⟨hzero, hleft, hsign, by omega, by omega⟩
        have hnone : leading flags k = [] := by
          rw [leading, if_neg hk, if_neg fun h => hsign (.inl h), if_neg fun h => hsign (.inr h)]
        rw [integerChars, hnone, List.nil_append]
        exact (hnonneg hk).1.readsAs

/-! ### Templates with a width -/

/-- The width that digits stand for is read if it fits 64 bits, else it is none. -/
def readWidth (width : Nat) : Nat := if width < 2 ^ 64 then width else 0

theorem wordOfDigits_repr (n : Nat) : wordOfDigits n.repr.toList = readWidth n := by
  rw [wordOfDigits, Signal.ofDigits_eq_magnitude, Signal.magnitude_repr]
  rfl

theorem head?_repr_ne_zero {n : Nat} (h : 0 < n) : n.repr.toList.head? ≠ some '0' := by
  induction n using Nat.strongRecOn with
  | ind n ih =>
    rw [Nat.toList_repr]
    by_cases hlt : n < 10
    · have hdigit : ∀ n < 10, 0 < n → n.digitChar ≠ '0' := by decide
      rw [Nat.toDigits_of_lt_base hlt, List.head?_cons]
      exact fun heq => hdigit n hlt h (Option.some.inj heq)
    · have hdiv := ih (n / 10) (by omega) (by omega)
      rw [Nat.toList_repr] at hdiv
      rwa [Nat.toDigits_of_base_le (by omega) (by omega),
        List.head?_append_of_ne_nil _ Nat.toDigits_ne_nil]

section Templates

variable (hflags : ∀ c ∈ flags, isFlag c = true)
include hflags

theorem spec?_flags : spec? (flags ++ ['d']) = some (⟨flags, 0, none, 'd'⟩, []) :=
  spec?_of_parts hflags (List.forall_mem_nil _) nofun rfl rfl (by decide)

/-- A width is read as it is, but a width of zero is one more flag. -/
theorem spec?_width (width : Nat) : spec? (flags ++ (width.repr.toList ++ ['d'])) =
    some (⟨if width = 0 then flags ++ ['0'] else flags, readWidth width, none, 'd'⟩, []) := by
  by_cases hwidth : width = 0
  · subst hwidth
    have hzero : ∀ c ∈ flags ++ ['0'], isFlag c = true :=
      List.forall_mem_append.mpr ⟨hflags, List.forall_mem_singleton.mpr rfl⟩
    have htext : flags ++ ((0 : Nat).repr.toList ++ ['d']) = (flags ++ ['0']) ++ ['d'] := by
      rw [List.append_assoc]
      rfl
    rw [htext, spec?_flags hzero, if_pos rfl]
    rfl
  · have hdigits : ∀ d ∈ width.repr.toList, d.isDigit = true := fun _ hd =>
      Signal.isDigit_iff.mpr (Signal.isTenDigit_of_mem_repr hd)
    rw [spec?_of_parts hflags hdigits (head?_repr_ne_zero (by omega)) rfl rfl (by decide),
      wordOfDigits_repr, if_neg hwidth]

/-- The template of an integer with flags and, between them and the conversion, digits. -/
theorem fill_integer {ds : List Char} (template : String) (n : Int32)
    (hds : ∀ d ∈ ds, IsTenDigit d) (htemplate : template.toList = '%' :: (flags ++ (ds ++ ['d'])))
    (hspec : spec? (flags ++ (ds ++ ['d'])) = some (f, [])) (hf : f.conversion = 'd') :
    fill template [.ofInt32 n] = .ok (f.pad (f.integerBody n.toInt)) := by
  have hbody : f.body (.ofInt32 n) = .ok (f.integerBody n.toInt) := by
    rw [body, hf]
    rfl
  have hrest : (flags ++ (ds ++ ['d'])).head? ≠ some '%' := fun h => by
    have hmem := List.mem_of_head? h
    simp only [List.mem_append, List.mem_singleton] at hmem
    rcases hmem with hmem | hmem | hmem
    · exact absurd (hflags '%' hmem) (by decide)
    · exact absurd (hds '%' hmem) (by decide)
    · exact absurd hmem (by decide)
  rw [fill, htemplate, fillWith_placeholder hrest hspec hbody, fillWith_nil]
  refine congrArg Except.ok (String.toList_inj.mp ?_)
  simp

end Templates

theorem fill_flags {flags : String} (hflags : ∀ c ∈ flags.toList, isFlag c = true) (n : Int32) :
    fill ("%" ++ flags ++ "d") [.ofInt32 n] =
      .ok (String.ofList (integerChars flags.toList n.toInt)) := by
  let f : Format := ⟨flags.toList, 0, none, 'd'⟩
  have hpadded : Padded flags.toList (f.integerBody n.toInt).toList
      (0 - (f.integerBody n.toInt).toList.length) (f.pad (f.integerBody n.toInt)).toList :=
    padded_pad (f := f) (by simp [f]) _
  rw [Nat.zero_sub] at hpadded
  rw [fill_integer hflags _ n (List.forall_mem_nil _) (by simp) (spec?_flags hflags) rfl]
  refine congrArg Except.ok (String.toList_inj.mp ?_)
  rw [hpadded.eq_self, toList_integerBody, String.toList_ofList]

theorem exists_fill_width {flags : String} (hflags : ∀ c ∈ flags.toList, isFlag c = true)
    (width : Nat) (n : Int32) :
    ∃ text, fill ("%" ++ flags ++ toString width ++ "d") [.ofInt32 n] = .ok text ∧
      Padded flags.toList (integerChars flags.toList n.toInt)
        (readWidth width - (integerChars flags.toList n.toInt).length) text.toList := by
  let f : Format :=
    ⟨if width = 0 then flags.toList ++ ['0'] else flags.toList, readWidth width, none, 'd'⟩
  have hfill : fill ("%" ++ flags ++ toString width ++ "d") [.ofInt32 n] =
      .ok (f.pad (f.integerBody n.toInt)) :=
    fill_integer hflags _ n (fun _ => Signal.isTenDigit_of_mem_repr) (by simp)
      (spec?_width hflags width) rfl
  have hpadded := padded_pad (f := f) (by simp [f]) (f.integerBody n.toInt)
  refine ⟨_, hfill, ?_⟩
  by_cases hwidth : width = 0
  · subst hwidth
    have hchars : (f.integerBody n.toInt).toList = integerChars flags.toList n.toInt := by
      rw [toList_integerBody]
      exact integerChars_append_zero
    have hmissing : readWidth 0 - (f.integerBody n.toInt).toList.length = 0 := Nat.zero_sub _
    change Padded f.flags _ (readWidth 0 - _) _ at hpadded
    rw [hmissing] at hpadded
    rw [← hchars, hmissing, hpadded.eq_self]
    exact padded_self flags.toList _
  · have hsame : f.flags = flags.toList := if_neg hwidth
    rwa [toList_integerBody, hsame] at hpadded

end Format

namespace Builtin

open Format (Displaced readWidth)

/-- With flags and a width, an integer comes to the larger of the width and of its length without a
width. Without a width it is the number, with blanks around it; with one it is so too unless zeros
are displaced, and these come before its sign then. -/
theorem formats_integer (flags : String) (hflags : ∀ c ∈ flags.toList, Format.isFlag c = true)
    (width : Nat) (n : Int32) :
    ∃ plain text : String,
      Formats ("%" ++ flags ++ "d") [.ofInt32 n] plain ∧
      Formats ("%" ++ flags ++ toString width ++ "d") [.ofInt32 n] text ∧
      text.length = max (readWidth width) plain.length ∧
      ReadsAs plain.toList n.toInt ∧
      (ReadsAs text.toList n.toInt ↔
        ¬Displaced flags.toList (readWidth width - plain.length) n.toInt) ∧
      (Displaced flags.toList (readWidth width - plain.length) n.toInt →
        text.toList = List.replicate (readWidth width - plain.length) '0' ++ plain.toList) := by
  have hone : ∀ x ∈ [RValue.ofInt32 n], x.split = [x] := by simp [RValue.split, RValue.ofInt32]
  obtain ⟨text, hfill, hpadded⟩ := Format.exists_fill_width hflags width n
  have hlength := hpadded.length_eq
  rw [String.length_toList] at hlength
  have hplain := formats_of_fill hone (Format.fill_flags hflags n)
  refine ⟨_, text, hplain, formats_of_fill hone hfill, ?_⟩
  rw [String.length_ofList, String.toList_ofList]
  refine ⟨by omega, Format.readsAs_integerChars _ _, Format.readsAs_padded_iff hpadded,
    hpadded.eq_of_displaced⟩

/-- A minus sign and zeros behind it, also where a plus sign is asked for. -/
theorem formats_integer_negative :
    (∀ c ∈ "+0".toList, Format.isFlag c = true) ∧
    Formats "%+07d" [.ofInt32 (-42)] "-000042" ∧ ReadsAs "-000042".toList (-42) := by
  have hflags : ∀ c ∈ "+0".toList, Format.isFlag c = true := List.all_eq_true.mp rfl
  obtain ⟨plain, text, -, htext, -, -, hreads, -⟩ := formats_integer "+0" hflags 7 (-42)
  have hone : ∀ x ∈ [RValue.ofInt32 (-42)], x.split = [x] := by simp [RValue.split, RValue.ofInt32]
  have hvalue : Formats "%+07d" [.ofInt32 (-42)] "-000042" := formats_of_fill hone rfl
  obtain rfl := formats_unique htext hvalue
  exact ⟨hflags, hvalue, hreads.mpr fun hd => absurd hd.nonneg (by decide)⟩

/-- Zeros come before a plus sign and before a blank, and what they leave is no number. -/
theorem formats_displaced :
    (Formats "%+05d" [.ofInt32 5] "000+5" ∧ ¬ReadsAs "000+5".toList 5) ∧
    (Formats "% 05d" [.ofInt32 5] "000 5" ∧ ¬ReadsAs "000 5".toList 5) := by
  have hone : ∀ x ∈ [RValue.ofInt32 5], x.split = [x] := by simp [RValue.split, RValue.ofInt32]
  have hplus : Displaced ['+', '0'] 3 5 := by constructor <;> decide
  have hblank : Displaced [' ', '0'] 3 5 := by constructor <;> decide
  exact ⟨⟨formats_of_fill hone rfl, Format.not_readsAs_of_displaced hplus⟩,
    formats_of_fill hone rfl, Format.not_readsAs_of_displaced hblank⟩

end Builtin

end ScriptBridge
