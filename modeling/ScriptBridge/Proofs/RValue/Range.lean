import ScriptBridge.Proofs.Decimal.Doubles
import ScriptBridge.RValue.Operate

/-!
# Ranges of integers

A range that starts at a whole number consists of integers if its bounds lie among the integers of
scripts. How many there are is counted with doubles, whose difference may be rounded; but below zero
the difference between a whole number and a smaller number is exact (`steps_eq`). Hence a range goes
as far as its last bound there and does not reach the number that stands for a missing integer
(`steps_lt`), and above zero no range that is short enough does (`rangeItem_ne`).
-/

namespace ScriptBridge.RValue

open Float.Model Float.Model.UnpackedFloat
open Decimal

variable {x y : Float} {m : Nat} {e : Int}

/-! ### Numbers above the limit -/

theorem unpack_limit : (-2147483648 : Float).toModel.unpack =
    .finite .negative (2 ^ 52) (-21) (Nat.two_pow_pos 52) := rfl

theorem before_of_lt {hm : 0 < m} (h : x.toModel.unpack = .finite .negative m e hm)
    (hlt : -2147483648 < x) : e < -21 ∨ e = -21 ∧ m < 2 ^ 52 := by
  have hcompare := lt_iff.mp hlt
  rw [unpack_limit, h, compare_negative] at hcompare
  have hgt := Ordering.swap_eq_lt.mp (Option.some.inj hcompare)
  rcases Ordering.then_eq_gt.mp hgt with he | ⟨he, hm⟩
  · exact .inl (Int.compare_eq_gt.mp he)
  · exact .inr ⟨(Int.compare_eq_eq.mp he).symm, Nat.compare_eq_gt.mp hm⟩

/-- A negative number above the limit has a fraction of 21 digits at least. -/
theorem div_lt_of_lt {hm : 0 < m} (h : x.toModel.unpack = .finite .negative m e hm)
    (hlt : -2147483648 < x) : ∃ i : Nat, e = -(i : Int) ∧ 21 ≤ i ∧ m / 2 ^ i < 2147483648 := by
  have hdigits := (canonical_of_unpack h).lt
  rcases before_of_lt h hlt with he | ⟨rfl, hm'⟩
  · obtain ⟨k, rfl⟩ : ∃ k : Nat, e = -((22 + k : Nat) : Int) := ⟨(-22 - e).toNat, by omega⟩
    refine ⟨22 + k, rfl, by omega, ?_⟩
    have hle : m / 2 ^ 22 / 2 ^ k ≤ m / 2 ^ 22 := Nat.div_le_self _ _
    rw [Nat.pow_add, ← Nat.div_div_eq_div_mul]
    omega
  · exact ⟨21, rfl, Nat.le_refl _, by omega⟩

theorem exists_of_not_le {hm : 0 < m} (h : x.toModel.unpack = .finite .negative m e hm)
    (hlow : -2147483648 < y) (hle : ¬ x ≤ y) :
    ∃ m' e', ∃ hm' : 0 < m', y.toModel.unpack = .finite .negative m' e' hm' ∧
      (e < e' ∨ e = e' ∧ m < m') := by
  rw [le_iff, h] at hle
  rw [lt_iff, unpack_limit] at hlow
  cases hy : y.toModel.unpack with
  | notANumber =>
    rw [hy] at hlow
    cases hlow
  | infinity s =>
    rw [hy] at hlow hle
    cases s with
    | positive => exact absurd rfl hle
    | negative => cases hlow
  | zero s =>
    rw [hy] at hle
    exact absurd rfl hle
  | finite s m' e' hm' =>
    rw [hy] at hle
    cases s with
    | positive => exact absurd rfl hle
    | negative =>
      refine ⟨m', e', hm', rfl, ?_⟩
      rw [compare_negative] at hle
      cases hthen : (Ord.compare e e').then (Ord.compare m m') with
      | lt => exact before_of_then hthen
      | eq =>
        rw [hthen] at hle
        exact absurd rfl hle
      | gt =>
        rw [hthen] at hle
        exact absurd rfl hle

/-! ### Steps between negative numbers -/

theorem toNat_ofNatClamp {n : Nat} (h : n < 2 ^ 64) : (UInt64.ofNatClamp n).toNat = n := by
  have hsize : n < UInt64.size := h
  rw [UInt64.ofNatClamp, dif_pos hsize]
  rfl

section

variable {n i j : Nat} {hx : 0 < n * 2 ^ j} {hy : 0 < m}

theorem sub_negative (hfirst : x.toModel.unpack = .finite .negative (n * 2 ^ j) (-j) hx)
    (hlast : y.toModel.unpack = .finite .negative m (-i) hy) (hij : i ≤ j) (hlt : n * 2 ^ i < m) :
    UnpackedFloat.sub .binary64 y.toModel.unpack x.toModel.unpack =
      UnpackedFloat.round .binary64 .negative ((m - n * 2 ^ i) * 2 ^ (j - i)) (-j) := by
  rw [hfirst, hlast]
  have hmin : min (-(i : Int)) (-(j : Int)) = -j := by omega
  have hup : (-(i : Int) - -(j : Int)).toNat = j - i := by omega
  have hstay : (-(j : Int) - -(j : Int)).toNat = 0 := by omega
  have hpow : n * 2 ^ j = n * 2 ^ i * 2 ^ (j - i) := by
    rw [Nat.mul_assoc, ← Nat.pow_add, Nat.add_sub_cancel' hij]
  have hle : n * 2 ^ i * 2 ^ (j - i) < m * 2 ^ (j - i) :=
    Nat.mul_lt_mul_of_pos_right hlt (Nat.two_pow_pos _)
  simp only [UnpackedFloat.sub, hmin, decreaseExponent, hup, hstay, Nat.shiftLeft_eq,
    Nat.pow_zero, Nat.mul_one, Sign.apply, hpow, Nat.sub_mul]
  generalize n * 2 ^ i * 2 ^ (j - i) = a at hle ⊢
  generalize m * 2 ^ (j - i) = b at hle ⊢
  have hneg : Ord.compare (-(b : Int) - -(a : Int)) 0 = .lt := Int.compare_eq_lt.mpr (by omega)
  have hnat : (-(-(b : Int) - -(a : Int))).toNat = b - a := by omega
  simp only [UnpackedFloat.normalize, hneg, hnat]

/-- From the whole number `- n` down to a number there are as many steps as there are whole numbers
between them: the difference of the doubles has no more digits than the smaller number. -/
theorem steps_eq (hfirst : x.toModel.unpack = .finite .negative (n * 2 ^ j) (-j) hx)
    (hlast : y.toModel.unpack = .finite .negative m (-i) hy) (hij : i ≤ j) (hlt : n * 2 ^ i < m)
    (hm : m < 2 ^ 53) : steps x y = m / 2 ^ i - n := by
  have hn : 0 < n := Nat.pos_of_mul_pos_right hx
  have hi : i < 53 := by
    have hle : 2 ^ i ≤ n * 2 ^ i := Nat.le_mul_of_pos_left _ hn
    exact (Nat.pow_lt_pow_iff_right Nat.one_lt_two).mp (by omega)
  generalize hc : m - n * 2 ^ i = c
  have hcpos : 0 < c := by omega
  have hclt : c < 2 ^ 53 := by omega
  have hlog := log2_le hcpos hclt
  have hfilled := log2_filled hcpos hclt
  have hpos : 0 < c * 2 ^ (52 - c.log2) := Nat.mul_pos hcpos (Nat.two_pow_pos _)
  have hsub : UnpackedFloat.sub .binary64 y.toModel.unpack x.toModel.unpack =
      .finite .negative (c * 2 ^ (52 - c.log2)) (-((52 - c.log2 + i : Nat) : Int)) hpos := by
    rw [sub_negative hfirst hlast hij hlt, hc, round_exact .negative hcpos hclt _ (by omega)]
    exact finite_congr rfl (by omega)
  have hdifference : (y - x).toModel.unpack =
      .finite .negative (c * 2 ^ (52 - c.log2)) (-((52 - c.log2 + i : Nat) : Int)) hpos := by
    show (Float.Model.pack (UnpackedFloat.sub .binary64 _ _)).unpack = _
    rw [hsub]
    exact unpack_pack hfilled (by omega) (by omega)
  have habs : (y - x).abs.toModel.unpack =
      .finite .positive (c * 2 ^ (52 - c.log2)) (-((52 - c.log2 + i : Nat) : Int)) hpos := by
    show (Float.Model.pack (y - x).toModel.unpack.abs).unpack = _
    rw [hdifference]
    exact unpack_pack hfilled (by omega) (by omega)
  have hdiv : c * 2 ^ (52 - c.log2) / 2 ^ (52 - c.log2 + i) = m / 2 ^ i - n := by
    rw [Nat.pow_add, Nat.mul_comm, Nat.mul_div_mul_left _ _ (Nat.two_pow_pos _), ← hc,
      Nat.mul_comm n, Nat.sub_mul_div]
  show (UInt64.ofNatClamp ((y - x).abs.toModel.unpack.toInt 0 (UInt64.size - 1)).toNat).toNat = _
  rw [habs, toInt_positive, hdiv, Int.toNat_natCast]
  have hle : m / 2 ^ i ≤ m := Nat.div_le_self _ _
  exact toNat_ofNatClamp (by omega)

end

/-! ### Whole numbers -/

theorem shape_of_wholePart? {n : Nat} (h : wholePart? x = some (-(n : Int))) (hn : 0 < n) :
    ∃ m e, 0 < m ∧ shape x = .finite true m e ∧
      (scaleBinary m 1 e).1 / (scaleBinary m 1 e).2 = n := by
  unfold wholePart? at h
  split at h
  · next negative m e hshape =>
    generalize hq : (scaleBinary m 1 e).1 / (scaleBinary m 1 e).2 = q
    have hvalue : (if negative then -(q : Int) else q) = -(n : Int) := by
      rw [← hq]
      exact Option.some.inj h
    cases negative with
    | true =>
      rw [if_pos rfl] at hvalue
      obtain rfl : q = n := by omega
      refine ⟨m, e, Nat.pos_of_ne_zero fun hm => ?_, hshape, hq⟩
      subst hm
      unfold scaleBinary at hq
      split at hq <;> simp only [Nat.zero_mul, Nat.zero_div] at hq <;> omega
    | false =>
      rw [if_neg Bool.false_ne_true] at hvalue
      omega
  · cases h

theorem scaleBinary_neg (m : Nat) {i : Nat} (hi : 0 < i) :
    scaleBinary m 1 (-(i : Int)) = (m, 2 ^ i) := by
  have hneg : (-(-(i : Int))).toNat = i := by omega
  rw [scaleBinary, if_neg (by omega), hneg, Nat.one_mul]
  rfl

theorem lt_of_wholePart? {n : Int} (h : wholePart? x = some n) (hlow : -2147483648 < x) :
    -2147483648 < n := by
  by_cases hn : 0 ≤ n
  · omega
  · obtain ⟨k, rfl⟩ : ∃ k : Nat, n = -(k : Int) := ⟨(-n).toNat, by omega⟩
    obtain ⟨m, e, hm, hshape, hdiv⟩ := shape_of_wholePart? h (by omega)
    obtain ⟨i, rfl, hi, hlt⟩ := div_lt_of_lt (unpack_of_shape hshape hm) hlow
    rw [scaleBinary_neg m (by omega)] at hdiv
    dsimp only at hdiv
    omega

/-- From a negative whole number down to a number above the limit it is no further than to the
limit. -/
theorem steps_lt {n : Nat} (hwhole : isWhole x = true) (h : wholePart? x = some (-(n : Int)))
    (hn : 0 < n) (hlow : -2147483648 < y) (hle : ¬ x ≤ y) : steps x y + n < 2147483648 := by
  obtain ⟨m, e, hm, hshape, hdiv⟩ := shape_of_wholePart? h hn
  have hx := unpack_of_shape hshape hm
  obtain ⟨m', e', hm', hy, hbefore⟩ := exists_of_not_le hx hlow hle
  obtain ⟨i, rfl, hi, hvalue⟩ := div_lt_of_lt hy hlow
  have hcanonical := canonical_of_unpack hx
  have hcanonical' := canonical_of_unpack hy
  obtain ⟨j, rfl⟩ : ∃ j : Nat, e = -(j : Int) := ⟨(-e).toNat, by omega⟩
  have hij : i ≤ j := by omega
  have hmod : m % 2 ^ j = 0 := by
    unfold isWhole at hwhole
    rw [hshape] at hwhole
    dsimp only at hwhole
    rw [scaleBinary_neg m (by omega)] at hwhole
    exact of_decide_eq_true hwhole
  rw [scaleBinary_neg m (by omega)] at hdiv
  obtain rfl : m = n * 2 ^ j := by
    rw [← hdiv, Nat.div_mul_cancel (Nat.dvd_of_mod_eq_zero hmod)]
  have hlt : n * 2 ^ i < m' := by
    rcases hbefore with he | ⟨he, hlt⟩
    · have hge := hcanonical.ge
      have hsmall := hcanonical.lt
      have hnormal := hcanonical'.normal (by omega)
      have hle : n * 2 ^ (i + 1) ≤ n * 2 ^ j :=
        Nat.mul_le_mul_left _ (Nat.pow_le_pow_right Nat.two_pos (by omega))
      rw [Nat.pow_succ, ← Nat.mul_assoc] at hle
      omega
    · obtain rfl : i = j := by omega
      exact hlt
  have hge : n ≤ m' / 2 ^ i := (Nat.le_div_iff_mul_le (Nat.two_pow_pos i)).mpr (Nat.le_of_lt hlt)
  rw [steps_eq hx hy hij hlt hcanonical'.lt]
  omega

/-! ### Integers -/

theorem ofIntClamp_ne {n : Int} (h : -2147483648 < n) : Int32.ofIntClamp n ≠ Int32.minValue := by
  intro heq
  have htoInt := congrArg Int32.toInt heq
  have hmin : Int32.minValue.toInt = -2147483648 := rfl
  have hmax : Int32.maxValue.toInt = 2147483647 := rfl
  by_cases hle : n ≤ 2147483647
  · rw [Int32.toInt_ofIntClamp (by omega) (by omega)] at htoInt
    omega
  · rw [Int32.ofIntClamp, dif_pos (by omega), dif_neg (by omega)] at heq
    cases heq

/-- No item of a range of integers stands for a missing integer, if the range is short enough. -/
theorem rangeItem_ne {n : Int} {i : Nat} (hstart : rangeStart? x y = some n)
    (hi : i ≤ steps x y) (hshort : steps x y + 1 < 2147483648) :
    Int32.ofIntClamp (n + (if x ≤ y then 1 else -1) * i) ≠ Int32.minValue := by
  unfold rangeStart? inIntegers at hstart
  split at hstart
  · next hbounds =>
    simp only [Bool.and_eq_true, decide_eq_true_eq] at hbounds
    obtain ⟨⟨hwhole, hx, -⟩, hy, -⟩ := hbounds
    have hn := lt_of_wholePart? hstart hx
    apply ofIntClamp_ne
    by_cases hle : x ≤ y
    · rw [if_pos hle]
      omega
    · rw [if_neg hle]
      by_cases hneg : n < 0
      · obtain ⟨k, rfl⟩ : ∃ k : Nat, n = -(k : Int) := ⟨(-n).toNat, by omega⟩
        have hsteps := steps_lt hwhole hstart (by omega) hy hle
        omega
      · omega
  · cases hstart

end ScriptBridge.RValue
