import ScriptBridge.Text.Utf8

/-!
# Reading UTF-8 back

Octets read as a text exactly if they are what the text is written as (`Utf8.read?_eq_some`): what
is written is read back, and nothing else is accepted, no longer form of a character, no surrogate
and no piece of a character. The argument goes character by character; `Utf8.Codes` are the octets
that one character may have.
-/

namespace ScriptBridge.Utf8

/-- Whether an octet may go on a character. -/
def IsTail (b : UInt8) : Prop := 0x80 ≤ b.toNat ∧ b.toNat ≤ 0xbf

/-- The octets of one character, and its code point: the bits of the first octet below its mark,
then six bits of each of the others. -/
inductive Codes : List UInt8 → Nat → Prop
  | one {a : UInt8} (ha : a.toNat ≤ 0x7f) : Codes [a] a.toNat
  /-- Below `0xc2` a shorter form would do. -/
  | two {a b : UInt8} (hlow : 0xc2 ≤ a.toNat) (hhigh : a.toNat ≤ 0xdf) (hb : IsTail b) :
    Codes [a, b] (a.toNat % 32 * 64 + b.toNat % 64)
  /-- Behind `0xe0` a shorter form might do, and behind `0xed` are the surrogates. -/
  | three {a b c : UInt8} (hlow : 0xe0 ≤ a.toNat) (hhigh : a.toNat ≤ 0xef) (hb : IsTail b)
    (hshort : a.toNat = 0xe0 → 0xa0 ≤ b.toNat) (hsurrogate : a.toNat = 0xed → b.toNat ≤ 0x9f)
    (hc : IsTail c) :
    Codes [a, b, c] ((a.toNat % 16 * 64 + b.toNat % 64) * 64 + c.toNat % 64)
  /-- Behind `0xf0` a shorter form might do, and behind `0xf4` the code points end. -/
  | four {a b c d : UInt8} (hlow : 0xf0 ≤ a.toNat) (hhigh : a.toNat ≤ 0xf4) (hb : IsTail b)
    (hshort : a.toNat = 0xf0 → 0x90 ≤ b.toNat) (hend : a.toNat = 0xf4 → b.toNat ≤ 0x8f)
    (hc : IsTail c) (hd : IsTail d) :
    Codes [a, b, c, d]
      (((a.toNat % 8 * 64 + b.toNat % 64) * 64 + c.toNat % 64) * 64 + d.toNat % 64)

variable {a b c d : UInt8} {octets rest : List UInt8} {n : Nat} {p : Pending}

/-! ### Writing -/

theorem Codes.of_eq {k : Nat} (h : Codes octets k) (hk : k = n) : Codes octets n := hk ▸ h

theorem isTail_ofNat (n : Nat) : IsTail (UInt8.ofNat (n % 64 + 128)) := by
  rw [IsTail, UInt8.toNat_ofNat']
  omega

theorem codes_utf8EncodeChar (x : Char) : Codes (String.utf8EncodeChar x) x.toNat := by
  have hvalid : x.toNat < 0xd800 ∨ 0xdfff < x.toNat ∧ x.toNat < 0x110000 := x.valid
  have hval : x.val.toNat = x.toNat := rfl
  rw [String.utf8EncodeChar, hval]
  generalize x.toNat = n at hvalid
  split
  · refine (Codes.one ?_).of_eq ?_ <;> rw [UInt8.toNat_ofNat'] <;> omega
  split
  · refine (Codes.two ?_ ?_ (isTail_ofNat n)).of_eq ?_ <;> simp only [UInt8.toNat_ofNat'] <;> omega
  split
  · refine (Codes.three ?_ ?_ (isTail_ofNat (n / 64)) ?_ ?_ (isTail_ofNat n)).of_eq ?_ <;>
      simp only [UInt8.toNat_ofNat'] <;> omega
  · refine (Codes.four ?_ ?_ (isTail_ofNat (n / 4096)) ?_ ?_ (isTail_ofNat (n / 64))
      (isTail_ofNat n)).of_eq ?_ <;> simp only [UInt8.toNat_ofNat'] <;> omega

theorem Codes.toNat_ofNat (h : Codes octets n) : (Char.ofNat n).toNat = n := by
  have hvalid : n.isValidChar := by
    cases h with
    | one | two => exact .inl (by omega)
    | three hlow hhigh hb hshort hsurrogate hc | four hlow hhigh hb hshort hend hc hd =>
      unfold IsTail at hb
      unfold Nat.isValidChar
      omega
  rw [Char.ofNat, dif_pos hvalid]
  rfl

theorem ofNat_eq {k : Nat} (h : k = a.toNat) : UInt8.ofNat k = a := by
  rw [h, UInt8.ofNat_toNat]

/-- The octets of a code point are what its character is written as. -/
theorem Codes.encode (h : Codes octets n) : String.utf8EncodeChar (Char.ofNat n) = octets := by
  have hval : (Char.ofNat n).val.toNat = n := h.toNat_ofNat
  rw [String.utf8EncodeChar, hval]
  cases h with
  | one ha => rw [if_pos ha, ofNat_eq rfl]
  | @two a b hlow hhigh hb =>
    unfold IsTail at hb
    rw [if_neg (by omega), if_pos (by omega), @ofNat_eq a _ (by omega), @ofNat_eq b _ (by omega)]
  | @three a b c hlow hhigh hb hshort hsurrogate hc =>
    unfold IsTail at hb hc
    rw [if_neg (by omega), if_neg (by omega), if_pos (by omega), @ofNat_eq a _ (by omega),
      @ofNat_eq b _ (by omega), @ofNat_eq c _ (by omega)]
  | @four a b c d hlow hhigh hb hshort hend hc hd =>
    unfold IsTail at hb hc hd
    rw [if_neg (by omega), if_neg (by omega), if_neg (by omega), @ofNat_eq a _ (by omega),
      @ofNat_eq b _ (by omega), @ofNat_eq c _ (by omega), @ofNat_eq d _ (by omega)]

/-! ### Reading -/

theorem decodeFrom_tail (hlow : p.low ≤ b.toNat) (hhigh : b.toNat ≤ p.high) (hneed : 1 < p.need) :
    decodeFrom (some p) (b :: rest) =
      decodeFrom (some { bits := p.bits * 64 + b.toNat % 64, need := p.need - 1 }) rest := by
  rw [decodeFrom, step]
  simp only [hlow, hhigh, and_self, if_true, if_neg (show ¬p.need ≤ 1 by omega), List.nil_append]

theorem decodeFrom_last (hlow : p.low ≤ b.toNat) (hhigh : b.toNat ≤ p.high) (hneed : p.need = 1) :
    decodeFrom (some p) (b :: rest) =
      some (Char.ofNat (p.bits * 64 + b.toNat % 64)) :: decodeFrom none rest := by
  rw [decodeFrom, step]
  simp only [hlow, hhigh, and_self, if_true, if_pos (show p.need ≤ 1 by omega)]
  rfl

/-- What the first octet of a character of several octets leaves begun. -/
def begun (a : UInt8) : Pending :=
  if a.toNat ≤ 0xdf then { bits := a.toNat % 32, need := 1 }
  else if a.toNat ≤ 0xef then
    { bits := a.toNat % 16, need := 2, low := if a.toNat = 0xe0 then 0xa0 else 0x80,
      high := if a.toNat = 0xed then 0x9f else 0xbf }
  else
    { bits := a.toNat % 8, need := 3, low := if a.toNat = 0xf0 then 0x90 else 0x80,
      high := if a.toNat = 0xf4 then 0x8f else 0xbf }

theorem first_begun (hlow : 0xc2 ≤ a.toNat) (hhigh : a.toNat ≤ 0xf4) :
    first a.toNat = ([], some (begun a)) := by
  unfold first begun
  generalize a.toNat = k at hlow hhigh
  grind

theorem decodeFrom_begun (hlow : 0xc2 ≤ a.toNat) (hhigh : a.toNat ≤ 0xf4) :
    decodeFrom none (a :: rest) = decodeFrom (some (begun a)) rest := by
  rw [decodeFrom, step, first_begun hlow hhigh]
  rfl

theorem begun_bounds (hlow : 0xe0 ≤ a.toNat) :
    ((begun a).low ≤ b.toNat ∧ b.toNat ≤ (begun a).high) ↔ IsTail b ∧
      (a.toNat = 0xe0 → 0xa0 ≤ b.toNat) ∧ (a.toNat = 0xed → b.toNat ≤ 0x9f) ∧
      (a.toNat = 0xf0 → 0x90 ≤ b.toNat) ∧ (a.toNat = 0xf4 → b.toNat ≤ 0x8f) := by
  unfold begun IsTail
  grind

theorem Codes.decodeFrom (h : Codes octets n) (rest : List UInt8) :
    Utf8.decodeFrom none (octets ++ rest) = some (Char.ofNat n) :: Utf8.decodeFrom none rest := by
  cases h with
  | one ha =>
    rw [List.singleton_append, Utf8.decodeFrom, step, first, if_pos ha]
    rfl
  | two hlow hhigh hb =>
    rw [List.cons_append, decodeFrom_begun hlow (by omega), begun, if_pos hhigh]
    exact decodeFrom_last hb.1 hb.2 rfl
  | @three a b c hlow hhigh hb hshort hsurrogate hc =>
    obtain ⟨hfrom, hto⟩ := (begun_bounds hlow).mpr
      ⟨hb, hshort, hsurrogate, by omega, by omega⟩
    have hneed : (begun a).need = 2 := by grind [begun]
    have hbits : (begun a).bits = a.toNat % 16 := by grind [begun]
    rw [List.cons_append, decodeFrom_begun (by omega) (by omega), List.cons_append,
      decodeFrom_tail hfrom hto (by omega), hbits]
    exact decodeFrom_last hc.1 hc.2 (by rw [hneed])
  | @four a b c d hlow hhigh hb hshort hend hc hd =>
    obtain ⟨hfrom, hto⟩ := (begun_bounds (by omega)).mpr
      ⟨hb, by omega, by omega, hshort, hend⟩
    have hneed : (begun a).need = 3 := by grind [begun]
    have hbits : (begun a).bits = a.toNat % 8 := by grind [begun]
    rw [List.cons_append, decodeFrom_begun (by omega) (by omega), List.cons_append,
      decodeFrom_tail hfrom hto (by omega), List.cons_append,
      decodeFrom_tail hc.1 hc.2 (by simp only [hneed]; omega), hbits]
    exact decodeFrom_last hd.1 hd.2 (by simp only [hneed])

/-- A character that has begun goes on, or there is a piece that is no character. -/
theorem exists_of_clean (h : none ∉ decodeFrom (some p) octets) :
    ∃ b rest, octets = b :: rest ∧ p.low ≤ b.toNat ∧ b.toNat ≤ p.high := by
  cases octets with
  | nil => exact absurd List.mem_cons_self h
  | cons b rest =>
    by_cases hb : p.low ≤ b.toNat ∧ b.toNat ≤ p.high
    · exact ⟨b, rest, rfl, hb⟩
    · rw [decodeFrom, step, if_neg hb] at h
      exact absurd List.mem_cons_self h

/-- Octets without a piece that is no character start with a character. -/
theorem exists_codes (h : none ∉ decodeFrom none (a :: octets)) :
    ∃ start rest n, a :: octets = start ++ rest ∧ Codes start n := by
  by_cases hone : a.toNat ≤ 0x7f
  · exact ⟨[a], octets, _, rfl, .one hone⟩
  -- A first octet that starts no character is a piece of its own.
  have hlow : 0xc2 ≤ a.toNat := by
    refine Nat.le_of_not_lt fun hlow => ?_
    rw [decodeFrom, step, first, if_neg hone, if_pos hlow] at h
    exact absurd List.mem_cons_self h
  have hhigh : a.toNat ≤ 0xf4 := by
    refine Nat.le_of_not_lt fun hhigh => ?_
    have hfirst : first a.toNat = ([none], none) := by
      unfold first
      grind
    rw [decodeFrom, step, hfirst] at h
    exact absurd List.mem_cons_self h
  rw [decodeFrom_begun hlow hhigh] at h
  obtain ⟨b, octets, rfl, hfrom, hto⟩ := exists_of_clean h
  by_cases htwo : a.toNat ≤ 0xdf
  · have hb : IsTail b := by grind [begun, IsTail]
    exact ⟨[a, b], octets, _, rfl, .two hlow htwo hb⟩
  obtain ⟨hb, he0, hed, hf0, hf4⟩ := (begun_bounds (by omega)).mp ⟨hfrom, hto⟩
  rw [decodeFrom_tail hfrom hto (by grind [begun])] at h
  obtain ⟨c, octets, rfl, hc⟩ := exists_of_clean h
  by_cases hthree : a.toNat ≤ 0xef
  · exact ⟨[a, b, c], octets, _, rfl, .three (by omega) hthree hb he0 hed hc⟩
  rw [decodeFrom_tail hc.1 hc.2 (by grind [begun])] at h
  obtain ⟨d, octets, rfl, hd⟩ := exists_of_clean h
  exact ⟨[a, b, c, d], octets, _, rfl, .four (by omega) hhigh hb hf0 hf4 hc hd⟩

/-! ### Texts -/

theorem decodeFrom_utf8EncodeChar (x : Char) (rest : List UInt8) :
    decodeFrom none (String.utf8EncodeChar x ++ rest) = some x :: decodeFrom none rest := by
  rw [(codes_utf8EncodeChar x).decodeFrom, Char.ofNat_toNat]

/-- Octets that are read as characters start with what the first of these is written as. -/
theorem exists_of_decoded {cs : List Char} (h : decodeFrom none (a :: octets) = cs.map some) :
    ∃ x cs' rest, cs = x :: cs' ∧ a :: octets = String.utf8EncodeChar x ++ rest ∧
      decodeFrom none rest = cs'.map some := by
  have hclean : none ∉ decodeFrom none (a :: octets) := by
    rw [h]
    simp
  obtain ⟨start, rest, n, hoctets, hcodes⟩ := exists_codes hclean
  rw [hoctets, hcodes.decodeFrom] at h
  cases cs with
  | nil => cases h
  | cons x cs =>
    rw [List.map_cons, List.cons.injEq, Option.some_inj] at h
    obtain ⟨rfl, hrest⟩ := h
    exact ⟨_, cs, rest, rfl, by rw [hoctets, hcodes.encode], hrest⟩

theorem decode_eq_map_some {cs : List Char} :
    decode octets = cs.map some ↔ octets = cs.flatMap String.utf8EncodeChar := by
  rw [decode]
  constructor
  · intro h
    induction cs generalizing octets with
    | nil =>
      cases octets with
      | nil => rfl
      | cons a octets =>
        obtain ⟨x, cs', rest, hcs, -⟩ := exists_of_decoded h
        cases hcs
    | cons x cs ih =>
      cases octets with
      | nil => cases h
      | cons a octets =>
        obtain ⟨_, _, rest, hcs, hoctets, hrest⟩ := exists_of_decoded h
        cases hcs
        rw [hoctets, List.flatMap_cons, ih hrest]
  · rintro rfl
    induction cs with
    | nil => rfl
    | cons x cs ih => rw [List.flatMap_cons, decodeFrom_utf8EncodeChar, ih, List.map_cons]

theorem mapM_id_eq_some {α : Type} {xs : List (Option α)} {ys : List α} :
    xs.mapM id = some ys ↔ xs = ys.map some := by
  induction xs generalizing ys with
  | nil => cases ys <;> simp
  | cons x xs ih =>
    cases x with
    | none => cases ys <;> simp
    | some y =>
      simp only [List.mapM_cons, id, bind, Option.bind_some, Option.bind_eq_some_iff, ih, pure,
        Option.some_inj]
      constructor
      · rintro ⟨ys', rfl, rfl⟩
        rfl
      · intro h
        obtain ⟨z, zs, rfl, hz, hzs⟩ := List.map_eq_cons_iff.mp h.symm
        exact ⟨zs, hzs.symm, by rw [Option.some_inj.mp hz]⟩

/-- Octets read as a text exactly if they are what the text is written as. -/
theorem read?_eq_some {s : String} : read? octets = some s ↔ octets = encode s := by
  rw [read?, Option.map_eq_some_iff, encode, ← decode_eq_map_some]
  constructor
  · rintro ⟨cs, hcs, rfl⟩
    rwa [String.toList_ofList, ← mapM_id_eq_some]
  · intro h
    exact ⟨s.toList, mapM_id_eq_some.mpr h, String.ofList_toList⟩

theorem read?_encode (s : String) : read? (encode s) = some s := read?_eq_some.mpr rfl

theorem encode_append (s t : String) : encode (s ++ t) = encode s ++ encode t := by
  rw [encode, String.toList_append, List.flatMap_append]
  rfl

theorem decode_append (cs : List Char) (octets : List UInt8) :
    decode (cs.flatMap String.utf8EncodeChar ++ octets) = cs.map some ++ decode octets := by
  induction cs with
  | nil => rfl
  | cons x cs ih =>
    rw [List.flatMap_cons, List.append_assoc, decode, decodeFrom_utf8EncodeChar, ← decode, ih]
    rfl

theorem read?_append (s : String) (octets : List UInt8) :
    read? (encode s ++ octets) = (read? octets).map (s ++ ·) := by
  have hstart : (s.toList.map some).mapM id = some s.toList := mapM_id_eq_some.mpr rfl
  rw [read?, read?, encode, decode_append, List.mapM_append, hstart]
  cases (decode octets).mapM id with
  | none => rfl
  | some cs => simp

end ScriptBridge.Utf8
