import Mathlib.Data.List.Induction
import Mathlib.Data.List.TakeWhile
import Mathlib.Data.Nat.Digits.Defs
import ScriptBridge.Proofs.Console.Signal

/-!
# The grammar of signals

`Signal.Reports text n` says, without looking at how texts are recognised, that a text reports the
progress `n`: the tag, an equals sign, and a number of 32 bits with blanks around it. A number is an
optional minus sign and one or more of the ten digits, whose last one counts ones, the one before it
tens and so on (`Signal.Spells`); zeros at its start do not matter.

`Signal.ofText` takes exactly these texts for progress signals, exactly the texts behind the stop
tag for stop signals, and all others for diagnostics (`Signal.ofText_iff`). The recognition goes
over a text once and takes as many blanks and as many digits as there are; `Signal.Parted` is such a
division of a text, and there is one for every text.
-/

namespace ScriptBridge

namespace Signal

variable {cs before ds rest number after : List Char} {negative : Bool} {text : String} {k l : Int}
  {n : Int32} {c : Char}

/-! ### Numbers -/

def IsTenDigit (c : Char) : Prop := '0' ≤ c ∧ c ≤ '9'

instance : DecidablePred IsTenDigit := fun _ => inferInstanceAs (Decidable (_ ∧ _))

theorem isDigit_iff : c.isDigit = true ↔ IsTenDigit c := by
  simp [Char.isDigit, IsTenDigit, Char.le_def]

theorem isTenDigit_of_all (h : ds.all Char.isDigit = true) : ∀ d ∈ ds, IsTenDigit d :=
  fun d hd => isDigit_iff.mp (List.all_eq_true.mp h d hd)

/-- The number that digits stand for, the last of them counting ones. -/
def magnitude (ds : List Char) : Nat :=
  Nat.ofDigits 10 (ds.reverse.map fun d => d.toNat - '0'.toNat)

/-- Digits are read from the front, but the last of them counts ones. -/
theorem ofDigits_eq_magnitude (ds : List Char) : Decimal.ofDigits ds = magnitude ds := by
  induction ds using List.reverseRecOn with
  | nil => rfl
  | append_singleton ds d ih =>
    have hstep : Decimal.ofDigits (ds ++ [d]) =
        10 * Decimal.ofDigits ds + Decimal.digitValue d := by
      simp [Decimal.ofDigits]
    rw [hstep, ih, magnitude, magnitude, List.reverse_concat, List.map_cons, Nat.ofDigits_cons,
      Nat.add_comm, Decimal.digitValue]

/-- The characters are a number: one or more digits, with or without a minus sign before them. -/
inductive Spells : List Char → Int → Prop where
  | plain {ds : List Char} (hne : ds ≠ []) (hds : ∀ d ∈ ds, IsTenDigit d) :
      Spells ds (magnitude ds)
  | minus {ds : List Char} (hne : ds ≠ []) (hds : ∀ d ∈ ds, IsTenDigit d) :
      Spells ('-' :: ds) (-magnitude ds)

theorem Spells.forall_mem (h : Spells number k) : ∀ c ∈ number, c = '-' ∨ IsTenDigit c := by
  intro c hc
  cases h with
  | plain _ hds => exact .inr (hds c hc)
  | minus _ hds =>
    rcases List.mem_cons.mp hc with rfl | hc
    · exact .inl rfl
    · exact .inr (hds c hc)

theorem Spells.ne_nil (h : Spells number k) : number ≠ [] := by
  cases h with
  | plain hne => exact hne
  | minus => exact List.cons_ne_nil _ _

theorem Spells.forall_mem_tail (h : Spells number k) : ∀ c ∈ number.tail, IsTenDigit c := by
  intro c hc
  cases h with
  | plain _ hds => exact hds c (List.mem_of_mem_tail hc)
  | minus _ hds => exact hds c hc

theorem Spells.unique (h : Spells number k) (h' : Spells number l) : k = l := by
  cases h with
  | plain _ hds =>
    cases h' with
    | plain => rfl
    | minus => exact absurd (hds '-' List.mem_cons_self) (by decide)
  | minus =>
    cases h' with
    | plain _ hds => exact absurd (hds '-' List.mem_cons_self) (by decide)
    | minus => rfl

theorem Spells.append (h : Spells number k) (hds : ∀ d ∈ ds, IsTenDigit d) :
    ∃ l, Spells (number ++ ds) l := by
  cases h with
  | plain hne hnumber =>
    exact ⟨_, .plain (List.append_ne_nil_of_left_ne_nil hne ds)
      (List.forall_mem_append.mpr ⟨hnumber, hds⟩)⟩
  | minus hne hnumber =>
    exact ⟨_, .minus (List.append_ne_nil_of_left_ne_nil hne ds)
      (List.forall_mem_append.mpr ⟨hnumber, hds⟩)⟩

theorem isTenDigit_of_mem_repr {n : Nat} (h : c ∈ n.repr.toList) : IsTenDigit c :=
  isDigit_iff.mp (Nat.isDigit_of_mem_toDigits (by omega) (by omega) (Nat.toList_repr ▸ h))

theorem magnitude_repr (n : Nat) : magnitude n.repr.toList = n := by
  rw [← ofDigits_eq_magnitude, Nat.toList_repr]
  exact Nat.ofDigitChars_toDigits (by omega) (by omega)

theorem spells_toString (k : Int) : Spells (toString k).toList k := by
  have hne (n : Nat) : n.repr.toList ≠ [] := Nat.toList_repr ▸ Nat.toDigits_ne_nil
  cases k with
  | ofNat n =>
    have hplain := Spells.plain (hne n) fun _ => isTenDigit_of_mem_repr
    rwa [magnitude_repr] at hplain
  | negSucc n =>
    have hminus := Spells.minus (hne (n + 1)) fun _ => isTenDigit_of_mem_repr
    rw [magnitude_repr] at hminus
    have htext : (toString (Int.negSucc n)).toList = '-' :: (n + 1).repr.toList := by
      change ("-" ++ (n + 1).repr).toList = _
      rw [String.toList_append]
      rfl
    rw [htext]
    exact hminus

/-- The text reports a progress: the tag, an equals sign, and the number with blanks around it. -/
def Reports (text : String) (n : Int32) : Prop :=
  ∃ before number after, text.toList = progressTag.toList ++ '=' :: (before ++ (number ++ after)) ∧
    (∀ c ∈ before, Text.isBlank c = true) ∧ Spells number n.toInt ∧
    ∀ c ∈ after, Text.isBlank c = true

/-! ### A text in parts -/

def sign (negative : Bool) : List Char := if negative then ['-'] else []

/-- The number that a sign and digits stand for. -/
def signedValue (negative : Bool) (ds : List Char) : Int :=
  if negative then -(magnitude ds : Int) else magnitude ds

/-- A text divided into blanks, a sign, digits and what is left, where blanks and digits are as many
as there are. -/
structure Parted (cs before : List Char) (negative : Bool) (ds rest : List Char) : Prop where
  text : cs = before ++ (sign negative ++ (ds ++ rest))
  blank : ∀ c ∈ before, Text.isBlank c = true
  digit : ∀ d ∈ ds, d.isDigit = true
  /-- What is left starts with no digit. -/
  digits_end : ∀ c ∈ rest.head?, c.isDigit = false
  /-- What follows the blanks is no blank, and without a sign it is none. -/
  blanks_end : negative = false → ∀ c ∈ (ds ++ rest).head?, Text.isBlank c = false ∧ c ≠ '-'

theorem takeWhile_stops {p : Char → Bool} (h : ∀ c ∈ cs.head?, p c = false) :
    cs.takeWhile p = [] := by
  cases cs with
  | nil => rfl
  | cons c cs => exact List.takeWhile_cons_of_neg (Bool.not_eq_true _ ▸ h c rfl)

theorem dropWhile_stops {p : Char → Bool} (h : ∀ c ∈ cs.head?, p c = false) :
    cs.dropWhile p = cs := by
  cases cs with
  | nil => rfl
  | cons c cs => exact List.dropWhile_cons_of_neg (Bool.not_eq_true _ ▸ h c rfl)

theorem not_mem_head?_dropWhile {p : Char → Bool} : ∀ c ∈ (cs.dropWhile p).head?, p c = false := by
  intro c hc
  have hhead := List.head?_dropWhile_not p cs
  rw [Option.mem_def.mp hc] at hhead
  exact hhead

theorem exists_parted (cs : List Char) : ∃ before negative ds rest,
    Parted cs before negative ds rest := by
  have hcs : cs = cs.takeWhile Text.isBlank ++ cs.dropWhile Text.isBlank :=
    List.takeWhile_append_dropWhile.symm
  have hblank : ∀ c ∈ cs.takeWhile Text.isBlank, Text.isBlank c = true :=
    fun c hc => List.mem_takeWhile_imp hc
  have hstart : ∀ c ∈ (cs.dropWhile Text.isBlank).head?, Text.isBlank c = false :=
    not_mem_head?_dropWhile
  have hdigit (cs : List Char) : ∀ d ∈ cs.takeWhile Char.isDigit, d.isDigit = true :=
    fun d hd => List.mem_takeWhile_imp hd
  have hdigits (cs : List Char) : cs.takeWhile Char.isDigit ++ cs.dropWhile Char.isDigit = cs :=
    List.takeWhile_append_dropWhile
  by_cases hminus : ∃ after, cs.dropWhile Text.isBlank = '-' :: after
  · obtain ⟨after, hafter⟩ := hminus
    refine ⟨_, true, _, after.dropWhile Char.isDigit, ?_, hblank, hdigit after,
      not_mem_head?_dropWhile, fun h => nomatch h⟩
    rw [hdigits, sign, if_pos rfl, List.singleton_append, ← hafter]
    exact hcs
  · generalize cs.dropWhile Text.isBlank = whole at hcs hstart hminus
    refine ⟨_, false, _, whole.dropWhile Char.isDigit, ?_, hblank, hdigit whole,
      not_mem_head?_dropWhile, fun _ c hc => ?_⟩
    · rw [hdigits]
      exact hcs
    · rw [hdigits] at hc
      refine ⟨hstart c hc, ?_⟩
      rintro rfl
      exact hminus (List.head?_eq_some_iff.mp hc)

/-! ### The recognition -/

/-- The recognition of a number behind its sign. -/
def readMagnitude? (negative : Bool) (cs : List Char) : Option Int32 :=
  let ds := cs.takeWhile Char.isDigit
  let n := signedValue negative ds
  if ds ≠ [] ∧ (cs.dropWhile Char.isDigit).all Text.isBlank ∧ -2147483648 ≤ n ∧ n ≤ 2147483647 then
    some (Int32.ofInt n)
  else none

theorem readProgress?_of_minus (h : cs.dropWhile Text.isBlank = '-' :: rest) :
    readProgress? cs = readMagnitude? true rest := by
  unfold readProgress? readMagnitude?
  simp only [h, signedValue, ofDigits_eq_magnitude, if_true]

theorem readProgress?_of_plain (h : cs.dropWhile Text.isBlank = rest)
    (hrest : ∀ c ∈ rest.head?, c ≠ '-') : readProgress? cs = readMagnitude? false rest := by
  unfold readProgress? readMagnitude?
  rw [h]
  cases rest with
  | nil => rfl
  | cons c rest =>
    have hc : c ≠ '-' := hrest c rfl
    simp [hc, signedValue, ofDigits_eq_magnitude]

/-- Of the parts of a text, the sign and the digits are the number, if it fits and nothing but
blanks follows it. -/
theorem readProgress?_of_parted (h : Parted cs before negative ds rest) : readProgress? cs =
    if ds ≠ [] ∧ rest.all Text.isBlank ∧ -2147483648 ≤ signedValue negative ds ∧
      signedValue negative ds ≤ 2147483647 then some (Int32.ofInt (signedValue negative ds))
    else none := by
  have hstart : cs.dropWhile Text.isBlank = sign negative ++ (ds ++ rest) := by
    rw [h.text, List.dropWhile_append_of_pos h.blank]
    refine dropWhile_stops fun c hc => ?_
    cases negative with
    | true =>
      cases hc
      rfl
    | false => exact (h.blanks_end rfl c hc).1
  have hread : readProgress? cs = readMagnitude? negative (ds ++ rest) := by
    cases negative with
    | true => exact readProgress?_of_minus hstart
    | false => exact readProgress?_of_plain hstart fun c hc => (h.blanks_end rfl c hc).2
  rw [hread, readMagnitude?, List.takeWhile_append_of_pos h.digit, takeWhile_stops h.digits_end,
    List.dropWhile_append_of_pos h.digit, dropWhile_stops h.digits_end, List.append_nil]

/-! ### Recognition and grammar -/

theorem isDigit_of_isBlank (h : Text.isBlank c = true) : c.isDigit = false := by
  have hnat : c.isDigit = true ↔ 48 ≤ c.toNat ∧ c.toNat ≤ 57 := by
    simp only [Char.isDigit, Bool.and_eq_true, decide_eq_true_eq, ge_iff_le,
      UInt32.le_iff_toNat_le]
    rfl
  simp only [Text.isBlank, Bool.or_eq_true, Bool.and_eq_true, decide_eq_true_eq, beq_iff_eq] at h
  rw [← Bool.not_eq_true, hnat]
  omega

theorem Parted.spells (h : Parted cs before negative ds rest) (hne : ds ≠ []) :
    Spells (sign negative ++ ds) (signedValue negative ds) := by
  have hds : ∀ d ∈ ds, IsTenDigit d := fun d hd => isDigit_iff.mp (h.digit d hd)
  cases negative with
  | true => exact .minus hne hds
  | false => exact .plain hne hds

/-- A number behind blanks is divided into the parts that one sees. -/
theorem Spells.exists_parted (h : Spells number k) (hbefore : ∀ c ∈ before, Text.isBlank c = true)
    (hrest : ∀ c ∈ rest.head?, c.isDigit = false) : ∃ negative ds,
    Parted (before ++ (number ++ rest)) before negative ds rest ∧ ds ≠ [] ∧
      signedValue negative ds = k := by
  cases h with
  | minus hne hds =>
    refine ⟨true, _, ⟨rfl, hbefore, fun d hd => isDigit_iff.mpr (hds d hd), hrest, ?_⟩, hne, rfl⟩
    exact fun h => nomatch h
  | plain hne hds =>
    have hdigit : ∀ d ∈ number, d.isDigit = true := fun d hd => isDigit_iff.mpr (hds d hd)
    refine ⟨false, number, ⟨rfl, hbefore, hdigit, hrest, fun _ c hc => ?_⟩, hne, rfl⟩
    obtain ⟨d, ds, rfl⟩ := List.exists_cons_of_ne_nil hne
    obtain rfl : d = c := Option.some.inj hc
    have hd : d.isDigit = true := hdigit d List.mem_cons_self
    constructor
    · by_contra hblank
      rw [isDigit_of_isBlank (by simpa using hblank)] at hd
      cases hd
    · rintro rfl
      exact absurd hd (by decide)

theorem readProgress?_eq_some : readProgress? cs = some n ↔ ∃ before number after,
    cs = before ++ (number ++ after) ∧ (∀ c ∈ before, Text.isBlank c = true) ∧
      Spells number n.toInt ∧ ∀ c ∈ after, Text.isBlank c = true := by
  constructor
  · intro h
    obtain ⟨before, negative, ds, rest, hparts⟩ := exists_parted cs
    rw [readProgress?_of_parted hparts] at h
    split at h
    · next hok =>
      obtain ⟨hne, hrest, hlow, hhigh⟩ := hok
      obtain rfl := Option.some.inj h
      refine ⟨before, sign negative ++ ds, rest, ?_, hparts.blank, ?_, List.all_eq_true.mp hrest⟩
      · rw [List.append_assoc]
        exact hparts.text
      · rw [Int32.toInt_ofInt_of_le (by omega) (by omega)]
        exact hparts.spells hne
    · cases h
  · rintro ⟨before, number, after, rfl, hbefore, hnumber, hafter⟩
    have hend : ∀ c ∈ after.head?, c.isDigit = false :=
      fun c hc => isDigit_of_isBlank (hafter c (List.mem_of_mem_head? hc))
    obtain ⟨negative, ds, hparts, hne, hvalue⟩ := hnumber.exists_parted hbefore hend
    have hlow := n.le_toInt
    have hhigh := n.toInt_lt
    rw [readProgress?_of_parted hparts, hvalue, Int32.ofInt_toInt,
      if_pos ⟨hne, List.all_eq_true.mpr hafter, by omega, by omega⟩]

theorem readProgress?_of_solid (hcs : ∀ c ∈ cs, Text.isBlank c = false) :
    readProgress? cs = some n ↔ Spells cs n.toInt := by
  have hnil {part : List Char} (hpart : part ⊆ cs) (hblank : ∀ c ∈ part, Text.isBlank c = true) :
      part = [] := by
    refine List.eq_nil_iff_forall_not_mem.mpr fun c hc => ?_
    exact Bool.false_ne_true ((hcs c (hpart hc)).symm.trans (hblank c hc))
  rw [readProgress?_eq_some]
  constructor
  · rintro ⟨before, number, after, rfl, hbefore, hnumber, hafter⟩
    obtain rfl := hnil (List.subset_append_left ..) hbefore
    obtain rfl := hnil (fun c hc => List.mem_append_right _ (List.mem_append_right _ hc)) hafter
    rwa [List.nil_append, List.append_nil]
  · intro hnumber
    exact ⟨[], cs, [], (List.append_nil cs).symm, by simp, hnumber, by simp⟩

/-! ### Texts -/

theorem ofText_eq_stop {message : String} :
    ofText text = .stop message ↔ text = stopTag ++ message := by
  constructor
  · intro h
    unfold ofText at h
    split at h
    · next rest hrest =>
      obtain rfl := Signal.stop.inj h
      apply String.toList_injective
      rw [String.toList_append, String.toList_ofList, Text.stripStart?_eq_some.mp hrest]
    · split at h <;> cases h
  · rintro rfl
    exact ofText_stopTag message

theorem ofText_of_tagged (h : text.toList = progressTag.toList ++ '=' :: cs) :
    ofText text = ((readProgress? cs).map progress).getD diagnostic := by
  have hstop : Text.stripStart? stopTag.toList (progressTag.toList ++ '=' :: cs) = none := rfl
  have htag : Text.stripStart? (progressTag.toList ++ ['=']) (progressTag.toList ++ '=' :: cs) =
      some cs := by
    rw [List.append_cons]
    exact Text.stripStart?_append _ cs
  rw [ofText, h, hstop, htag]
  simp only [Option.bind_some]
  cases readProgress? cs <;> rfl

theorem ofText_eq_progress : ofText text = .progress n ↔ Reports text n := by
  constructor
  · intro h
    unfold ofText at h
    split at h
    · cases h
    · split at h
      · next m hm =>
        obtain rfl := Signal.progress.inj h
        obtain ⟨cs, hcs, hread⟩ := Option.bind_eq_some_iff.mp hm
        obtain ⟨before, number, after, rfl, hparts⟩ := readProgress?_eq_some.mp hread
        refine ⟨before, number, after, ?_, hparts⟩
        rw [Text.stripStart?_eq_some.mp hcs, ← List.append_cons]
      · cases h
  · rintro ⟨before, number, after, htext, hparts⟩
    rw [ofText_of_tagged htext, readProgress?_eq_some.mpr ⟨before, number, after, rfl, hparts⟩]
    rfl

theorem ofText_eq_diagnostic : ofText text = .diagnostic ↔
    (∀ message, text ≠ stopTag ++ message) ∧ ∀ n, ¬Reports text n := by
  simp only [ne_eq, ← ofText_eq_stop, ← ofText_eq_progress]
  cases ofText text <;> simp

/-! ### The grammar -/

/-- A text is a stop signal with a message exactly if it is the stop tag and the message, a progress
signal exactly if it reports the progress, and a diagnostic if it is neither. So it is a diagnostic
although it starts with the progress tag if the number does not fit into 32 bits or anything but
blanks follows it, and if any character behind the tag is none of a blank, a minus sign and the ten
digits. -/
theorem ofText_iff (text : String) :
    (∀ message, ofText text = .stop message ↔ text = stopTag ++ message) ∧
    (∀ n, ofText text = .progress n ↔ Reports text n) ∧
    (ofText text = .diagnostic ↔
      (∀ message, text ≠ stopTag ++ message) ∧ ∀ n, ¬Reports text n) ∧
    (∀ before number rest k,
      text.toList = progressTag.toList ++ '=' :: (before ++ (number ++ rest)) →
      (∀ c ∈ before, Text.isBlank c = true) → Spells number k → (∀ c ∈ rest.head?, ¬IsTenDigit c) →
      (k < -2147483648 ∨ 2147483647 < k ∨ ∃ c ∈ rest, Text.isBlank c = false) →
      ofText text = .diagnostic) ∧
    (∀ cs, text.toList = progressTag.toList ++ '=' :: cs →
      (∃ c ∈ cs, Text.isBlank c = false ∧ c ≠ '-' ∧ ¬IsTenDigit c) → ofText text = .diagnostic) := by
  refine ⟨fun _ => ofText_eq_stop, fun _ => ofText_eq_progress, ofText_eq_diagnostic, ?_, ?_⟩
  · intro before number rest k htext hbefore hnumber hrest hbad
    have hend : ∀ c ∈ rest.head?, c.isDigit = false := by
      intro c hc
      rw [← Bool.not_eq_true, isDigit_iff]
      exact hrest c hc
    obtain ⟨negative, ds, hparts, -, rfl⟩ := hnumber.exists_parted hbefore hend
    rw [ofText_of_tagged htext, readProgress?_of_parted hparts, if_neg]
    · rfl
    · rintro ⟨-, hblank, hlow, hhigh⟩
      rcases hbad with hbad | hbad | ⟨c, hc, hbad⟩
      · omega
      · omega
      · rw [List.all_eq_true.mp hblank c hc] at hbad
        cases hbad
  · rintro cs htext ⟨c, hc, hblank, hminus, hdigit⟩
    rw [ofText_of_tagged htext]
    cases hread : readProgress? cs with
    | none => rfl
    | some n =>
      obtain ⟨before, number, after, rfl, hbefore, hnumber, hafter⟩ :=
        readProgress?_eq_some.mp hread
      have hmem : c ∈ number := by
        rcases List.mem_append.mp hc with hc | hc
        · exact absurd (hbefore c hc) (by simp [hblank])
        · refine (List.mem_append.mp hc).resolve_right fun hc => ?_
          exact absurd (hafter c hc) (by simp [hblank])
      exact absurd (hnumber.forall_mem c hmem) (by simp [hminus, hdigit])

/-- Blanks of all kinds and zeros before the number do not matter; the first number that does not
fit into 32 bits, a digit of another script and a plus sign do. -/
theorem ofText_iff_padded :
    ofText "<PARProgress>=\u2003-007\n" = .progress (-7) ∧
    ofText "<PARProgress>=2147483648" = .diagnostic ∧
    ofText "<PARProgress>=4\u0662" = .diagnostic ∧
    ofText "<PARProgress>=+4" = .diagnostic := by
  have hseven : Spells ['-', '0', '0', '7'] (-7 : Int32).toInt :=
    .minus (by simp) (isTenDigit_of_all rfl)
  have hlarge : Spells "2147483648".toList 2147483648 := .plain (by simp) (isTenDigit_of_all rfl)
  obtain ⟨-, hprogress, -, -, -⟩ := ofText_iff "<PARProgress>=\u2003-007\n"
  obtain ⟨-, -, -, hnumber, -⟩ := ofText_iff "<PARProgress>=2147483648"
  obtain ⟨-, -, -, -, hforeign⟩ := ofText_iff "<PARProgress>=4\u0662"
  obtain ⟨-, -, -, -, hplus⟩ := ofText_iff "<PARProgress>=+4"
  refine ⟨(hprogress _).mpr ⟨['\u2003'], _, ['\n'], rfl, ?_, hseven, ?_⟩, ?_, ?_, ?_⟩
  · exact List.all_eq_true.mp rfl
  · exact List.all_eq_true.mp rfl
  · exact hnumber [] _ [] _ rfl (by simp) hlarge (by simp) (.inr (.inl (by decide)))
  · exact hforeign ['4', '\u0662'] rfl ⟨'\u0662', by simp, by decide, by decide, by decide⟩
  · exact hplus ['+', '4'] rfl ⟨'+', by simp, by decide, by decide, by decide⟩

end Signal

end ScriptBridge
