import ScriptBridge.Proofs.Text.Utf8
import ScriptBridge.Text.Percent

/-!
# Percent encoding, character by character

`Percent.Denotes` says which octets an encoded text stands for: those of its characters, except that
a percent sign and the two digits behind it stand for one octet. A text is read exactly if it stands
for the octets of a text, and as that text (`Percent.read?_eq_some`); it stands for octets at all
exactly if every percent sign starts a group (`Percent.exists_denotes_iff`). What is written is read
back (`Percent.read?_encode`).

The reader takes a plus sign in the place of a first digit, so the digits that may come first are a
parameter of these notions: `Percent.hexDigits` as they should be, `Percent.firstDigits` as they
are. The two differ in nothing but texts with a plus sign behind a percent sign
(`Percent.denotes_firstDigits_iff`).
-/

namespace ScriptBridge.Percent

variable {b : UInt8} {octets : List UInt8} {c : Char} {cs : List Char} {n : Nat}
  {firsts : List (Char × Nat)}

def hexDigits : List (Char × Nat) :=
  "0123456789ABCDEF".toList.zipIdx ++ "abcdef".toList.zipIdx 10

/-- What the reader takes for a first digit: a digit, or a plus sign for nothing. -/
def firstDigits : List (Char × Nat) := ('+', 0) :: hexDigits

/-- The encoded text stands for the octets, when `firsts` may come first in a group. -/
inductive Denotes (firsts : List (Char × Nat)) : List Char → List UInt8 → Prop
  | nil : Denotes firsts [] []
  | plain {c : Char} {cs : List Char} {octets : List UInt8} (hc : c ≠ '%')
    (h : Denotes firsts cs octets) : Denotes firsts (c :: cs) (String.utf8EncodeChar c ++ octets)
  | group {high low : Char} {x y : Nat} {cs : List Char} {octets : List UInt8}
    (hhigh : (high, x) ∈ firsts) (hlow : (low, y) ∈ hexDigits) (h : Denotes firsts cs octets) :
    Denotes firsts ('%' :: high :: low :: cs) (UInt8.ofNat (16 * x + y) :: octets)

/-- Behind every percent sign are two digits. -/
def Grouped (firsts : List (Char × Nat)) (cs : List Char) : Prop :=
  ∀ pre post, cs = pre ++ '%' :: post → ∃ high low rest, post = high :: low :: rest ∧
    high ∈ firsts.map (·.1) ∧ low ∈ hexDigits.map (·.1)

/-- The text is read exactly if every percent sign starts a group and the octets are UTF-8, and as
the text of these octets. -/
def ReadsBy (firsts : List (Char × Nat)) (s : String) : Prop :=
  ((∃ t, read? s = some t) ↔ Grouped firsts s.toList ∧
    ∃ octets t, Denotes firsts s.toList octets ∧ octets = Utf8.encode t) ∧
  ∀ t, read? s = some t → Denotes firsts s.toList (Utf8.encode t)

/-! ### Characters of one octet -/

theorem utf8EncodeChar_ofNat (h : b.toNat ≤ 0x7f) :
    String.utf8EncodeChar (Char.ofNat b.toNat) = [b] :=
  (Utf8.Codes.one h).encode

theorem eq_of_mem_codes (h : Utf8.Codes octets n) (hmem : b ∈ octets) (hb : b.toNat ≤ 0x7f) :
    octets = [b] ∧ n = b.toNat := by
  cases h with
  | one =>
    obtain rfl := List.mem_singleton.mp hmem
    exact ⟨rfl, rfl⟩
  | two _ _ hb' =>
    simp only [Utf8.IsTail] at hb'
    simp only [List.mem_cons, List.not_mem_nil, or_false] at hmem
    rcases hmem with rfl | rfl <;> omega
  | three _ _ hb' _ _ hc' =>
    simp only [Utf8.IsTail] at hb' hc'
    simp only [List.mem_cons, List.not_mem_nil, or_false] at hmem
    rcases hmem with rfl | rfl | rfl <;> omega
  | four _ _ hb' _ _ hc' hd' =>
    simp only [Utf8.IsTail] at hb' hc' hd'
    simp only [List.mem_cons, List.not_mem_nil, or_false] at hmem
    rcases hmem with rfl | rfl | rfl | rfl <;> omega

theorem eq_of_mem_utf8EncodeChar (hmem : b ∈ String.utf8EncodeChar c) (hb : b.toNat ≤ 0x7f) :
    String.utf8EncodeChar c = [b] ∧ c = Char.ofNat b.toNat := by
  obtain ⟨hoctets, hc⟩ := eq_of_mem_codes (Utf8.codes_utf8EncodeChar c) hmem hb
  exact ⟨hoctets, by rw [← hc, Char.ofNat_toNat]⟩

theorem exists_of_flatMap_cons (hcs : cs.flatMap String.utf8EncodeChar = b :: octets)
    (hb : b.toNat ≤ 0x7f) :
    ∃ rest, cs = Char.ofNat b.toNat :: rest ∧ octets = rest.flatMap String.utf8EncodeChar := by
  cases cs with
  | nil => cases hcs
  | cons c cs =>
    rw [List.flatMap_cons] at hcs
    have hne : String.utf8EncodeChar c ≠ [] := by
      rw [← List.length_pos_iff, String.length_utf8EncodeChar]
      exact c.utf8Size_pos
    obtain ⟨a, more, hc⟩ := List.exists_cons_of_ne_nil hne
    rw [hc, List.cons_append, List.cons.injEq] at hcs
    obtain ⟨rfl, hoctets⟩ := hcs
    obtain ⟨hone, rfl⟩ := eq_of_mem_utf8EncodeChar (hc ▸ List.mem_cons_self) hb
    rw [hc, List.cons.injEq] at hone
    exact ⟨cs, rfl, by rw [← hoctets, hone.2, List.nil_append]⟩

/-! ### Groups -/

theorem mem_hexDigits_of_hexValue? (h : hexValue? b = some n) :
    (Char.ofNat b.toNat, n) ∈ hexDigits := by
  have hall : ∀ k : Fin 256, ∀ n ∈ hexValue? (UInt8.ofNat k), (Char.ofNat k, n) ∈ hexDigits := by
    decide +kernel
  exact hall ⟨b.toNat, b.toNat_lt⟩ n (by rw [UInt8.ofNat_toNat]; exact h)

theorem le_of_hexValue? (h : hexValue? b = some n) : b.toNat ≤ 0x7f := by
  unfold hexValue? at h
  grind

def firstValue? (b : UInt8) : Option Nat := if b = 0x2b then some 0 else hexValue? b

theorem groupValue?_eq (high low : UInt8) : groupValue? high low =
    (firstValue? high).bind fun x => (hexValue? low).map fun y => UInt8.ofNat (16 * x + y) := by
  unfold groupValue? firstValue?
  by_cases hplus : high = 0x2b
  · rw [if_pos hplus, if_pos hplus]
    cases hexValue? low <;> rfl
  · rw [if_neg hplus, if_neg hplus]
    cases hexValue? high <;> cases hexValue? low <;> rfl

theorem mem_firstDigits_of_firstValue? (h : firstValue? b = some n) :
    (Char.ofNat b.toNat, n) ∈ firstDigits ∧ b.toNat ≤ 0x7f := by
  unfold firstValue? at h
  split at h
  · next hplus =>
    subst hplus
    cases h
    exact ⟨List.mem_cons_self, by decide⟩
  · exact ⟨List.mem_cons_of_mem _ (mem_hexDigits_of_hexValue? h), le_of_hexValue? h⟩

theorem exists_of_groupValue? {high low octet : UInt8} (h : groupValue? high low = some octet) :
    (high.toNat ≤ 0x7f ∧ low.toNat ≤ 0x7f) ∧ ∃ x y, (Char.ofNat high.toNat, x) ∈ firstDigits ∧
      (Char.ofNat low.toNat, y) ∈ hexDigits ∧ octet = UInt8.ofNat (16 * x + y) := by
  rw [groupValue?_eq, Option.bind_eq_some_iff] at h
  obtain ⟨x, hx, h⟩ := h
  obtain ⟨y, hy, rfl⟩ := Option.map_eq_some_iff.mp h
  obtain ⟨hhigh, hle⟩ := mem_firstDigits_of_firstValue? hx
  exact ⟨⟨hle, le_of_hexValue? hy⟩, x, y, hhigh, mem_hexDigits_of_hexValue? hy, rfl⟩

theorem groupValue?_of_mem {high low : Char} {x y : Nat} (hhigh : (high, x) ∈ firstDigits)
    (hlow : (low, y) ∈ hexDigits) : ∃ h l, String.utf8EncodeChar high = [h] ∧
      String.utf8EncodeChar low = [l] ∧ groupValue? h l = some (UInt8.ofNat (16 * x + y)) := by
  have hfirsts : ∀ e ∈ firstDigits, String.utf8EncodeChar e.1 = [UInt8.ofNat e.1.toNat] ∧
      firstValue? (UInt8.ofNat e.1.toNat) = some e.2 := by decide
  have hdigits : ∀ e ∈ hexDigits, String.utf8EncodeChar e.1 = [UInt8.ofNat e.1.toNat] ∧
      hexValue? (UInt8.ofNat e.1.toNat) = some e.2 := by decide
  obtain ⟨hh, hx⟩ := hfirsts _ hhigh
  obtain ⟨hl, hy⟩ := hdigits _ hlow
  refine ⟨_, _, hh, hl, ?_⟩
  rw [groupValue?_eq, hx, hy]
  rfl

/-! ### Reading -/

theorem decode?_plain (hb : b ≠ 0x25) : decode? (b :: octets) = (decode? octets).map (b :: ·) := by
  rw [decode?.eq_def]
  exact if_neg hb

theorem decode?_group {high low octet : UInt8} (h : groupValue? high low = some octet) :
    decode? (0x25 :: high :: low :: octets) = (decode? octets).map (octet :: ·) := by
  rw [decode?, if_pos rfl]
  simp only [h]
  cases decode? octets <;> rfl

theorem exists_of_decode?_percent {more : List UInt8}
    (h : decode? (0x25 :: octets) = some more) : ∃ high low octet rest more',
      octets = high :: low :: rest ∧ groupValue? high low = some octet ∧
      decode? rest = some more' ∧ more = octet :: more' := by
  rw [decode?.eq_def] at h
  simp only [if_true] at h
  split at h
  · next high low rest =>
    simp only [bind, Option.bind_eq_some_iff, pure, Option.some_inj] at h
    obtain ⟨octet, hgroup, more', hrest, rfl⟩ := h
    exact ⟨high, low, octet, rest, more', rfl, hgroup, hrest, rfl⟩
  · cases h

theorem decode?_append {plain : List UInt8} (h : 0x25 ∉ plain) (octets : List UInt8) :
    decode? (plain ++ octets) = (decode? octets).map (plain ++ ·) := by
  induction plain with
  | nil => simp
  | cons b plain ih =>
    rw [List.mem_cons, not_or] at h
    rw [List.cons_append, decode?_plain (Ne.symm h.1), ih h.2, Option.map_map]
    rfl

theorem not_mem_utf8EncodeChar (hc : c ≠ '%') : 0x25 ∉ String.utf8EncodeChar c := fun hmem =>
  hc (eq_of_mem_utf8EncodeChar hmem (by decide)).2

theorem decode?_of_denotes (h : Denotes firstDigits cs octets) :
    decode? (cs.flatMap String.utf8EncodeChar) = some octets := by
  induction h with
  | nil => rfl
  | plain hc _ ih =>
    rw [List.flatMap_cons, decode?_append (not_mem_utf8EncodeChar hc), ih]
    rfl
  | @group high low x y cs octets hhigh hlow _ ih =>
    obtain ⟨h, l, hh, hl, hgroup⟩ := groupValue?_of_mem hhigh hlow
    have hpercent : String.utf8EncodeChar '%' = [0x25] := by decide
    simp only [List.flatMap_cons, hpercent, hh, hl, List.singleton_append]
    rw [decode?_group hgroup, ih]
    rfl

theorem denotes_of_decode? (h : decode? (cs.flatMap String.utf8EncodeChar) = some octets) :
    Denotes firstDigits cs octets := by
  -- A group takes three characters at once, so the induction is on the length.
  induction hlength : cs.length using Nat.strongRecOn generalizing cs octets with
  | ind k ih =>
    cases cs with
    | nil =>
      cases h
      exact .nil
    | cons c cs =>
      rw [List.flatMap_cons] at h
      by_cases hc : c = '%'
      · have hpercent : String.utf8EncodeChar '%' = [0x25] := by decide
        rw [hc, hpercent, List.singleton_append] at h
        obtain ⟨high, low, octet, rest, more, hoctets, hgroup, hrest, rfl⟩ :=
          exists_of_decode?_percent h
        obtain ⟨⟨hh, hl⟩, x, y, hhigh, hlow, rfl⟩ := exists_of_groupValue? hgroup
        obtain ⟨cs, rfl, hmore⟩ := exists_of_flatMap_cons hoctets hh
        obtain ⟨cs, rfl, rfl⟩ := exists_of_flatMap_cons hmore.symm hl
        rw [hc]
        exact .group hhigh hlow (ih _ (by simp only [← hlength, List.length_cons]; omega) hrest rfl)
      · rw [decode?_append (not_mem_utf8EncodeChar hc)] at h
        obtain ⟨more, hrest, rfl⟩ := Option.map_eq_some_iff.mp h
        exact .plain hc (ih _ (by simp only [← hlength, List.length_cons]; omega) hrest rfl)

/-- A text is read exactly if it stands for the octets of a text, and as that text. -/
theorem read?_eq_some {s t : String} :
    read? s = some t ↔ Denotes firstDigits s.toList (Utf8.encode t) := by
  rw [read?, Option.bind_eq_some_iff]
  constructor
  · rintro ⟨octets, hoctets, ht⟩
    rw [Utf8.read?_eq_some] at ht
    exact ht ▸ denotes_of_decode? hoctets
  · intro h
    exact ⟨_, decode?_of_denotes h, Utf8.read?_encode t⟩

theorem read?_append {start : String} (h : '%' ∉ start.toList) (s : String) :
    read? (start ++ s) = (read? s).map (start ++ ·) := by
  have hplain : 0x25 ∉ Utf8.encode start := by
    intro hmem
    obtain ⟨c, hc, hmem⟩ := List.mem_flatMap.mp hmem
    exact not_mem_utf8EncodeChar (fun heq => h (heq ▸ hc)) hmem
  rw [read?, read?, Utf8.encode_append, decode?_append hplain]
  cases decode? (Utf8.encode s) with
  | none => rfl
  | some octets => exact Utf8.read?_append start octets

/-! ### Where percent signs stand -/

theorem Grouped.of_append (start : List Char) (h : Grouped firsts (start ++ cs)) :
    Grouped firsts cs := fun pre post hcs =>
  h (start ++ pre) post (by rw [hcs, List.append_assoc])

theorem Denotes.grouped (hfirsts : '%' ∉ firsts.map (·.1)) (h : Denotes firsts cs octets) :
    Grouped firsts cs := by
  intro pre post hcs
  induction h generalizing pre with
  | nil => simp at hcs
  | plain hc _ ih =>
    cases pre with
    | nil => exact absurd (List.cons.inj hcs).1 hc
    | cons _ pre => exact ih pre (List.cons.inj hcs).2
  | @group high low x y cs octets hhigh hlow _ ih =>
    have hmem : high ∈ firsts.map (·.1) := List.mem_map_of_mem hhigh
    have hmem' : low ∈ hexDigits.map (·.1) := List.mem_map_of_mem hlow
    match pre, hcs with
    | [], hcs =>
      obtain ⟨-, rfl⟩ := List.cons.inj hcs
      exact ⟨high, low, cs, rfl, hmem, hmem'⟩
    | [_], hcs =>
      obtain ⟨rfl, -⟩ := List.cons.inj (List.cons.inj hcs).2
      exact absurd hmem hfirsts
    | [_, _], hcs =>
      obtain ⟨rfl, -⟩ := List.cons.inj (List.cons.inj (List.cons.inj hcs).2).2
      exact absurd hmem' (by decide)
    | _ :: _ :: _ :: pre, hcs =>
      exact ih pre (List.cons.inj (List.cons.inj (List.cons.inj hcs).2).2).2

theorem Grouped.exists_denotes (h : Grouped firsts cs) : ∃ octets, Denotes firsts cs octets := by
  induction hlength : cs.length using Nat.strongRecOn generalizing cs with
  | ind k ih =>
    cases cs with
    | nil => exact ⟨[], .nil⟩
    | cons c cs =>
      by_cases hc : c = '%'
      · subst hc
        obtain ⟨high, low, rest, rfl, hhigh, hlow⟩ := h [] cs rfl
        obtain ⟨⟨high, x⟩, hx, rfl⟩ := List.mem_map.mp hhigh
        obtain ⟨⟨low, y⟩, hy, rfl⟩ := List.mem_map.mp hlow
        have hrest : Grouped firsts rest := .of_append ['%', high, low] h
        obtain ⟨octets, hoctets⟩ :=
          ih _ (by simp only [← hlength, List.length_cons]; omega) hrest rfl
        exact ⟨_, .group hx hy hoctets⟩
      · have hrest : Grouped firsts cs := .of_append [c] h
        obtain ⟨octets, hoctets⟩ :=
          ih _ (by simp only [← hlength, List.length_cons]; omega) hrest rfl
        exact ⟨_, .plain hc hoctets⟩

/-- A text stands for octets exactly if every percent sign starts a group. -/
theorem exists_denotes_iff (hfirsts : '%' ∉ firsts.map (·.1)) :
    (∃ octets, Denotes firsts cs octets) ↔ Grouped firsts cs :=
  ⟨fun ⟨_, h⟩ => h.grouped hfirsts, Grouped.exists_denotes⟩

theorem Denotes.mono {firsts' : List (Char × Nat)} (hsubset : firsts ⊆ firsts')
    (h : Denotes firsts cs octets) : Denotes firsts' cs octets := by
  induction h with
  | nil => exact .nil
  | plain hc _ ih => exact .plain hc ih
  | group hhigh hlow _ ih => exact .group (hsubset hhigh) hlow ih

/-- Without a plus sign behind a percent sign the digits are as they should be. -/
theorem denotes_firstDigits_iff (h : ¬['%', '+'] <:+: cs) :
    Denotes firstDigits cs octets ↔ Denotes hexDigits cs octets := by
  refine ⟨fun hdenotes => ?_, .mono (List.subset_cons_self _ _)⟩
  induction hdenotes with
  | nil => exact .nil
  | plain hc _ ih => exact .plain hc (ih fun hcs => h (hcs.trans (List.suffix_cons _ _).isInfix))
  | @group high low x y cs octets hhigh hlow _ ih =>
    have hdigit : (high, x) ∈ hexDigits := by
      rcases List.mem_cons.mp hhigh with heq | hdigit
      · cases heq
        exact absurd ⟨[], low :: cs, rfl⟩ h
      · exact hdigit
    refine .group hdigit hlow (ih fun hcs => h (hcs.trans ?_))
    exact (List.suffix_append ['%', high, low] cs).isInfix

/-! ### What is read -/

theorem readsBy_of_iff {s : String} (hfirsts : '%' ∉ firsts.map (·.1))
    (hread : ∀ t, read? s = some t ↔ Denotes firsts s.toList (Utf8.encode t)) :
    ReadsBy firsts s := by
  refine ⟨⟨?_, ?_⟩, fun t => (hread t).mp⟩
  · rintro ⟨t, ht⟩
    rw [hread] at ht
    exact ⟨ht.grouped hfirsts, _, t, ht, rfl⟩
  · rintro ⟨-, _, t, ht, rfl⟩
    exact ⟨t, (hread t).mpr ht⟩

theorem readsBy_firstDigits (s : String) : ReadsBy firstDigits s :=
  readsBy_of_iff (by decide) fun _ => read?_eq_some

theorem readsBy_hexDigits {s : String} (h : ¬['%', '+'] <:+: s.toList) : ReadsBy hexDigits s :=
  readsBy_of_iff (by decide) fun _ => read?_eq_some.trans (denotes_firstDigits_iff h)

/-! ### Writing -/

theorem Denotes.encodeOctet (h : Denotes hexDigits cs octets) (b : UInt8) :
    Denotes hexDigits (Percent.encodeOctet b ++ cs) (b :: octets) := by
  have hplain : ∀ k : Fin 256, isPlain (UInt8.ofNat k) = true →
      k.val ≤ 0x7f ∧ Char.ofNat k ≠ '%' := by decide +kernel
  have hdigit : ∀ k : Fin 16, (hexDigit k, k.val) ∈ hexDigits := by decide
  rw [Percent.encodeOctet]
  split
  · next hb =>
    obtain ⟨hle, hne⟩ := hplain ⟨b.toNat, b.toNat_lt⟩ (by rw [UInt8.ofNat_toNat]; exact hb)
    have hone := h.plain hne
    rwa [utf8EncodeChar_ofNat hle] at hone
  · have hlt := b.toNat_lt
    have hoctet : UInt8.ofNat (16 * (b.toNat / 16) + b.toNat % 16) = b := by
      rw [Nat.div_add_mod, UInt8.ofNat_toNat]
    have hgroup := h.group (hdigit ⟨b.toNat / 16, by omega⟩) (hdigit ⟨b.toNat % 16, by omega⟩)
    rwa [hoctet] at hgroup

theorem denotes_encode (octets : List UInt8) : Denotes hexDigits (encode octets) octets := by
  induction octets with
  | nil => exact .nil
  | cons b octets ih => exact ih.encodeOctet b

theorem read?_encode (t : String) : read? (String.ofList (encode (Utf8.encode t))) = some t := by
  rw [read?_eq_some, String.toList_ofList]
  exact (denotes_encode _).mono (List.subset_cons_self _ _)

end ScriptBridge.Percent
