import Mathlib
import ScriptBridge.Decimal.Binary

/-!
# Doubles and their bits

`Decimal.shape` takes a double apart as the model of doubles does (`shape_eq`), so what is computed
with shapes is said of the numbers that doubles stand for. Mantissas have 53 digits, or fewer at the
smallest exponent (`Canonical`). A number of at most 53 digits is a double: it is not rounded
(`round_exact`), and it is kept as it is (`unpack_pack`).
-/

namespace ScriptBridge.Decimal

open Float.Model Float.Model.UnpackedFloat

def Shape.of : UnpackedFloat → Shape
  | .notANumber => .nan
  | .infinity s => .infinite (s == .negative)
  | .zero s => .finite (s == .negative) 0 (-1074)
  | .finite s m e _ => .finite (s == .negative) m e

/-! ### The fields of a double -/

section Fields

variable (b : BitVec 64)

theorem toNat_unpackExponent :
    (@unpackExponent .binary64 b).toNat = b.toNat / 2 ^ 52 % 2 ^ 11 := by
  rw [unpackExponent, BitVec.toNat_cast, BitVec.extractLsb_toNat, Nat.shiftRight_eq_div_pow]
  rfl

theorem toNat_unpackMantissa : (@unpackMantissa .binary64 b).toNat = b.toNat % 2 ^ 52 := by
  rw [unpackMantissa, BitVec.toNat_cast, BitVec.extractLsb_toNat, Nat.shiftRight_zero]
  rfl

theorem toNat_unpackSign : (@unpackSign .binary64 b).toNat = b.toNat / 2 ^ 63 := by
  rw [unpackSign, BitVec.toNat_cast, BitVec.extractLsb_toNat, Nat.shiftRight_eq_div_pow]
  have hlt := b.isLt
  exact Nat.mod_eq_of_lt (show b.toNat / 2 ^ 63 < 2 by omega)

theorem isNegative_unpackSign :
    (Sign.ofBitVec (@unpackSign .binary64 b) == .negative) = (b.toNat / 2 ^ 63 == 1) := by
  rw [← toNat_unpackSign]
  generalize @unpackSign .binary64 b = s
  revert s
  decide

theorem toNat_one_append (m : BitVec 52) : (1#1 ++ m).toNat = 2 ^ 52 + m.toNat := by
  rw [BitVec.toNat_append, ← Nat.shiftLeft_add_eq_or_of_lt m.isLt]
  rfl

theorem of_unpack : Shape.of (UnpackedFloat.unpack .binary64 b) =
    if b.toNat / 2 ^ 52 % 2 ^ 11 = 2047 then
      if b.toNat % 2 ^ 52 = 0 then .infinite (b.toNat / 2 ^ 63 == 1) else .nan
    else if b.toNat / 2 ^ 52 % 2 ^ 11 = 0 then
      .finite (b.toNat / 2 ^ 63 == 1) (b.toNat % 2 ^ 52) (-1074)
    else .finite (b.toNat / 2 ^ 63 == 1) (2 ^ 52 + b.toNat % 2 ^ 52)
      (((b.toNat / 2 ^ 52 % 2 ^ 11 : Nat) : Int) - 1075) := by
  rw [← isNegative_unpackSign, ← toNat_unpackExponent, ← toNat_unpackMantissa]
  have hones : @unpackExponent .binary64 b = -1#11 ↔
      (@unpackExponent .binary64 b).toNat = 2047 := BitVec.toNat_inj.symm
  have hzeros : @unpackExponent .binary64 b = 0#11 ↔
      (@unpackExponent .binary64 b).toNat = 0 := BitVec.toNat_inj.symm
  have hmantissa : @unpackMantissa .binary64 b = 0#_ ↔
      (@unpackMantissa .binary64 b).toNat = 0 := BitVec.toNat_inj.symm
  unfold UnpackedFloat.unpack
  simp only [hones, hzeros, hmantissa]
  by_cases hmax : (@unpackExponent .binary64 b).toNat = 2047
  · rw [if_pos hmax, if_pos hmax]
    split <;> rfl
  · rw [if_neg hmax, if_neg hmax]
    by_cases hzero : (@unpackExponent .binary64 b).toNat = 0
    · rw [if_pos hzero, if_pos hzero]
      split
      · next hm =>
        rw [hm]
        rfl
      · rw [Shape.of, hzero]
        rfl
    · rw [if_neg hzero, if_neg hzero, Shape.of, toNat_one_append]
      rfl

end Fields

/-! ### Doubles and shapes -/

variable {x y : Float} {s : Sign} {m : Nat} {e : Int} {negative : Bool}

theorem shape_eq (x : Float) : shape x = Shape.of x.toModel.unpack :=
  (of_unpack x.toModel.toBits.toBitVec).symm

/-- The number `m · 2 ^ e` as doubles have it. -/
structure Canonical (m : Nat) (e : Int) : Prop where
  lt : m < 2 ^ 53
  ge : -1074 ≤ e
  normal : -1074 < e → 2 ^ 52 ≤ m

theorem canonical_of_shape (h : shape x = .finite negative m e) : Canonical m e := by
  unfold shape at h
  have hpow : Nat.pow 2 52 = 2 ^ 52 := rfl
  simp only [hpow] at h
  split at h
  · split at h <;> cases h
  · split at h <;> cases h <;> exact ⟨by omega, by omega, by omega⟩

theorem canonical_of_unpack {hm : 0 < m} (h : x.toModel.unpack = .finite s m e hm) :
    Canonical m e :=
  canonical_of_shape (by rw [shape_eq, h]; rfl)

theorem unpack_of_shape (h : shape x = .finite true m e) (hm : 0 < m) :
    x.toModel.unpack = .finite .negative m e hm := by
  rw [shape_eq] at h
  cases hx : x.toModel.unpack with
  | finite s m' e' hpos =>
    rw [hx] at h
    obtain ⟨hs, rfl, rfl⟩ := Shape.finite.inj h
    cases s with
    | negative => rfl
    | positive => exact absurd hs (by decide)
  | zero s =>
    rw [hx] at h
    obtain ⟨-, rfl, -⟩ := Shape.finite.inj h
    cases hm
  | infinity s =>
    rw [hx] at h
    cases h
  | notANumber =>
    rw [hx] at h
    cases h

/-! ### The order of doubles -/

theorem lt_iff : x < y ↔ x.toModel.unpack.compare y.toModel.unpack = some .lt := by
  show decide (x.toModel < y.toModel) = true ↔ _
  rw [decide_eq_true_eq]
  show x.toModel.unpack.lt y.toModel.unpack = true ↔ _
  rw [UnpackedFloat.lt, beq_iff_eq]

theorem le_iff :
    x ≤ y ↔ (x.toModel.unpack.compare y.toModel.unpack).any (·.isLE) = true := by
  show decide (x.toModel ≤ y.toModel) = true ↔ _
  rw [decide_eq_true_eq]
  rfl

/-! Of two negative doubles the greater one comes first by its exponent and then by its mantissa. -/

theorem compare_negative {m₁ m₂ : Nat} {e₁ e₂ : Int} {h₁ : 0 < m₁} {h₂ : 0 < m₂} :
    UnpackedFloat.compare (.finite .negative m₁ e₁ h₁) (.finite .negative m₂ e₂ h₂) =
      some ((compare e₁ e₂).then (compare m₁ m₂)).swap := rfl

theorem before_of_then {m₁ m₂ : Nat} {e₁ e₂ : Int}
    (h : (compare e₁ e₂).then (compare m₁ m₂) = .lt) : e₁ < e₂ ∨ e₁ = e₂ ∧ m₁ < m₂ := by
  rcases Ordering.then_eq_lt.mp h with he | ⟨he, hm⟩
  · exact .inl (Int.compare_eq_lt.mp he)
  · exact .inr ⟨Int.compare_eq_eq.mp he, Nat.compare_eq_lt.mp hm⟩

/-! ### Numbers of at most 53 digits -/

section Rounding

open ExtendedMantissa

theorem shiftRight_succ (em : ExtendedMantissa) (k : Nat) :
    em >>> (k + 1) = (em >>> k).shiftRightOne := rfl

theorem shiftRight_mantissa (em : ExtendedMantissa) (k : Nat) :
    (em >>> k).mantissa = em.mantissa / 2 ^ k := by
  induction k with
  | zero => exact (Nat.div_one _).symm
  | succ k ih => rw [shiftRight_succ, shiftRightOne, ih, Nat.div_div_eq_div_mul, Nat.pow_succ]

theorem shiftRight_mul (m k : Nat) :
    (⟨m * 2 ^ k, false, false⟩ : ExtendedMantissa) >>> k = ⟨m, false, false⟩ := by
  induction k generalizing m with
  | zero =>
    rw [Nat.pow_zero, Nat.mul_one]
    rfl
  | succ k ih =>
    have hmul : m * 2 ^ (k + 1) = 2 * m * 2 ^ k := by
      rw [Nat.pow_succ]
      ac_rfl
    rw [shiftRight_succ, hmul, ih (2 * m), shiftRightOne]
    simp

theorem targetExponent_eq {L : Nat} (h : m.log2 = L) (e : Int) :
    Format.binary64.targetExponent (totalExponent m e) = max (L + e - 52) (-1074) := by
  simp only [Format.targetExponent, totalExponent, h, Format.mantissaBits, Format.minExponent]
  omega

theorem shiftToTargetExponent_exact {k L : Nat} (hm : (m * 2 ^ k).log2 = L)
    (ht : max (L + e - 52) (-1074) = e + k) :
    shiftToTargetExponent .binary64 (m * 2 ^ k) e .exact = (⟨m, false, false⟩, e + k) := by
  unfold shiftToTargetExponent shiftToExponent
  rw [targetExponent_eq hm, ht]
  have hshift : (e + k - e).toNat = k := by omega
  simp only [hshift]
  exact congrArg (·, _) (shiftRight_mul m k)

variable {c : Nat}

theorem log2_mul_two_pow (hc : 0 < c) (k : Nat) : (c * 2 ^ k).log2 = c.log2 + k := by
  induction k with
  | zero => rw [Nat.pow_zero, Nat.mul_one, Nat.add_zero]
  | succ k ih =>
    have hpos : 0 < c * 2 ^ k := Nat.mul_pos hc (Nat.two_pow_pos k)
    have hmul : c * 2 ^ (k + 1) = 2 * (c * 2 ^ k) := by
      rw [Nat.pow_succ]
      ac_rfl
    rw [hmul, Nat.log2_two_mul (Nat.ne_of_gt hpos), ih, Nat.add_assoc]

theorem log2_le (hc : 0 < c) (hlt : c < 2 ^ 53) : c.log2 ≤ 52 :=
  Nat.lt_succ_iff.mp ((Nat.log2_lt (Nat.ne_of_gt hc)).mpr hlt)

theorem log2_filled (hc : 0 < c) (hlt : c < 2 ^ 53) : (c * 2 ^ (52 - c.log2)).log2 = 52 := by
  have hle := log2_le hc hlt
  rw [log2_mul_two_pow hc]
  omega

theorem round_exact (s : Sign) (hc : 0 < c) (hlt : c < 2 ^ 53) (k : Nat) (he : -1022 ≤ e + k) :
    UnpackedFloat.round .binary64 s (c * 2 ^ k) e =
      .finite s (c * 2 ^ (52 - c.log2)) (c.log2 + e + k - 52)
        (Nat.mul_pos hc (Nat.two_pow_pos _)) := by
  have hlog := log2_le hc hlt
  have hfilled := log2_filled hc hlt
  have hpos : 0 < c * 2 ^ (52 - c.log2) := Nat.mul_pos hc (Nat.two_pow_pos _)
  have htarget : Format.binary64.targetExponent (totalExponent (c * 2 ^ k) e) =
      c.log2 + e + k - 52 := by
    rw [targetExponent_eq (log2_mul_two_pow hc k)]
    omega
  unfold UnpackedFloat.round
  simp only [htarget, decreaseExponent, Nat.shiftLeft_eq]
  -- The number gets as many zeros as it may need, `a` of them, and loses those too many, `b`.
  generalize ha : (e - (c.log2 + e + k - 52)).toNat = a
  obtain ⟨b, hb⟩ : ∃ b, k + a = 52 - c.log2 + b := ⟨k + a - (52 - c.log2), by omega⟩
  have hmantissa : c * 2 ^ k * 2 ^ a = c * 2 ^ (52 - c.log2) * 2 ^ b := by
    rw [Nat.mul_assoc, ← Nat.pow_add, hb, Nat.pow_add, Nat.mul_assoc]
  have hfirst := @shiftToTargetExponent_exact (c * 2 ^ (52 - c.log2)) (e - a) b (52 + b)
    (by rw [log2_mul_two_pow hpos, hfilled]) (by omega)
  have hsecond := @shiftToTargetExponent_exact (c * 2 ^ (52 - c.log2)) (e - a + b) 0 52
    (by rw [Nat.pow_zero, Nat.mul_one, hfilled]) (by omega)
  rw [Nat.pow_zero, Nat.mul_one] at hsecond
  have hround : (⟨c * 2 ^ (52 - c.log2), false, false⟩ : ExtendedMantissa).roundedMantissa =
    c * 2 ^ (52 - c.log2) := rfl
  have hexponent : e - a + b + (0 : Nat) = c.log2 + e + k - 52 := by omega
  unfold roundWithAccuracy
  simp only [hmantissa, hfirst, hround, hsecond, dif_neg (Nat.ne_of_gt hpos), hexponent]

theorem finite_congr {m' : Nat} {e' : Int} {h : 0 < m} {h' : 0 < m'} (hm : m = m') (he : e = e') :
    UnpackedFloat.finite s m e h = .finite s m' e' h' := by
  subst hm he
  rfl

theorem unpack_pack {hpos : 0 < m} (hm : m.log2 = 52) (hge : -1074 ≤ e) (hle : e ≤ 971) :
    (Float.Model.pack (.finite s m e hpos)).unpack = .finite s m e hpos := by
  obtain ⟨hlow, hhigh⟩ := (Nat.log2_eq_iff (Nat.ne_of_gt hpos)).mp hm
  show UnpackedFloat.unpack .binary64 (UnpackedFloat.pack .binary64 (.finite s m e hpos)) = _
  have hbias : Format.binary64.exponentBias = 1023 := rfl
  have hbits : Format.binary64.mantissaBits = 53 := rfl
  simp only [UnpackedFloat.pack, hbias, hbits]
  generalize hbiased : (e + (1023 : Nat) + (52 : Nat)).toNat = biased
  rw [if_neg (by omega), if_pos (by omega)]
  unfold UnpackedFloat.unpack
  simp only [unpackExponent_packComponents, unpackMantissa_packComponents,
    unpackSign_packComponents, Sign.ofBitVec_toBitVec, hbias]
  have hexponent : (BitVec.ofNat 11 biased).toNat = biased := Nat.mod_eq_of_lt (by omega)
  have hones : BitVec.ofNat 11 biased ≠ -1#11 := by
    intro h
    have htoNat : biased = 2047 := hexponent.symm.trans (congrArg BitVec.toNat h)
    omega
  have hzeros : BitVec.ofNat 11 biased ≠ 0#11 := by
    intro h
    have htoNat : biased = 0 := hexponent.symm.trans (congrArg BitVec.toNat h)
    omega
  rw [if_neg hones, if_neg hzeros]
  refine finite_congr ?_ (by rw [hexponent]; omega)
  rw [toNat_one_append, BitVec.toNat_ofNat]
  omega

end Rounding

/-! ### Without fraction -/

theorem toInt_positive {k : Nat} (hpos : 0 < m) (low high : Int) :
    UnpackedFloat.toInt low high (.finite .positive m (-k) hpos) = (m / 2 ^ k : Nat) := by
  have hup : (-(k : Int) - 0).toNat = 0 := by omega
  have hdown : (0 - (-(k : Int) - (0 : Nat))).toNat = k := by omega
  simp only [UnpackedFloat.toInt, roundToInt, decreaseExponent, hup, shiftToExponent,
    Nat.shiftLeft_zero, hdown, shiftRight_mantissa]
  rfl

end ScriptBridge.Decimal
