import ScriptBridge.Proofs.RValue.Range
import ScriptBridge.RValue.Coerce

/-!
# Integers as doubles

An integer of scripts has so few digits that it is a double as it is (`unpack_intToFloat`). So it
has the same text as a double as it has as an integer (`numberText_intToFloat`).
-/

namespace ScriptBridge.RValue

open Float.Model Float.Model.UnpackedFloat
open Decimal

variable {x : Float} {c : Nat} {s : UnpackedFloat.Sign} {hc : 0 < c} {n : Int32}

def wholeFloat (s : UnpackedFloat.Sign) (c : Nat) (hc : 0 < c) : UnpackedFloat :=
  .finite s (c * 2 ^ (52 - c.log2)) (-((52 - c.log2 : Nat) : Int))
    (Nat.mul_pos hc (Nat.two_pow_pos _))

/-! ### Whole numbers as doubles -/

theorem unpack_pack_wholeFloat (hlt : c < 2 ^ 53) :
    (Float.Model.pack (wholeFloat s c hc)).unpack = wholeFloat s c hc :=
  unpack_pack (log2_filled hc hlt) (by omega) (by omega)

theorem unpack_toFloat (hc : 0 < c) (hlt : c < 2 ^ 53) :
    (UInt64.ofNat c).toFloat.toModel.unpack = wholeFloat .positive c hc := by
  have hlog := log2_le hc hlt
  have hnat : (UInt64.ofNat c).toNat = c := Nat.mod_eq_of_lt (by omega)
  have hsign : Ord.compare (c : Int) 0 = .gt := Int.compare_eq_gt.mpr (by omega)
  have hround : UnpackedFloat.ofUInt64 .binary64 (UInt64.ofNat c) = wholeFloat .positive c hc := by
    have hexact := @round_exact 0 c .positive hc hlt 0 (by omega)
    rw [Nat.pow_zero, Nat.mul_one] at hexact
    simp only [UnpackedFloat.ofUInt64, UnpackedFloat.ofNat, UnpackedFloat.ofInt,
      UnpackedFloat.normalize, hnat, hsign, Int.toNat_natCast, hexact]
    exact finite_congr rfl (by omega)
  show (Float.Model.pack (UnpackedFloat.ofUInt64 .binary64 (UInt64.ofNat c))).unpack = _
  rw [hround, unpack_pack_wholeFloat hlt]

theorem unpack_neg (hx : x.toModel.unpack = wholeFloat s c hc) (hlt : c < 2 ^ 53) :
    (-x).toModel.unpack = wholeFloat (-s) c hc := by
  show (Float.Model.pack x.toModel.unpack.neg).unpack = _
  rw [hx]
  exact unpack_pack_wholeFloat hlt

theorem unpack_intToFloat (hn : 0 < n.toInt.natAbs) : (intToFloat n).toModel.unpack =
    wholeFloat (if n.toInt < 0 then .negative else .positive) n.toInt.natAbs hn := by
  have hlow := n.le_toInt
  have hhigh := n.toInt_lt
  have hmagnitude := unpack_toFloat hn (by omega)
  unfold intToFloat
  split
  · exact unpack_neg hmagnitude (by omega)
  · exact hmagnitude

/-! ### Texts of whole numbers -/

theorem shape_of_unpack (hx : x.toModel.unpack = wholeFloat s c hc) :
    shape x = .finite (s == .negative) (c * 2 ^ (52 - c.log2)) (-((52 - c.log2 : Nat) : Int)) := by
  rw [shape_eq, hx]
  rfl

theorem log2_lt_of_lt (hc : 0 < c) (hlt : c < 2 ^ 52) : 0 < 52 - c.log2 := by
  have hlog := (Nat.log2_lt (Nat.ne_of_gt hc)).mpr hlt
  omega

theorem isWhole_of_unpack (hx : x.toModel.unpack = wholeFloat s c hc) (hlt : c < 2 ^ 52) :
    isWhole x = true := by
  unfold isWhole
  rw [shape_of_unpack hx]
  dsimp only
  rw [scaleBinary_neg _ (log2_lt_of_lt hc hlt)]
  exact decide_eq_true (Nat.mul_mod_left _ _)

theorem wholePart?_of_unpack (hx : x.toModel.unpack = wholeFloat s c hc) (hlt : c < 2 ^ 52) :
    wholePart? x = some (s.apply c) := by
  unfold wholePart?
  rw [shape_of_unpack hx]
  dsimp only
  rw [scaleBinary_neg _ (log2_lt_of_lt hc hlt)]
  dsimp only
  rw [Nat.mul_div_cancel _ (Nat.two_pow_pos _)]
  cases s <;> rfl

theorem shortWhole?_of_unpack (hx : x.toModel.unpack = wholeFloat s c hc)
    (hlt : c < Nat.pow 10 14) (magnitude : Int) : shortWhole? x magnitude = some (s.apply c) := by
  have hbound : c < 2 ^ 52 := Nat.lt_trans hlt (by decide)
  have habs : (s.apply c).natAbs = c := by cases s <;> simp [UnpackedFloat.Sign.apply]
  rw [shortWhole?, if_pos (isWhole_of_unpack hx hbound), wholePart?_of_unpack hx hbound]
  -- The number is short by its digits, so its logarithm is not asked for.
  exact Option.filter_some_pos (decide_eq_true (.inl (by rwa [habs])))

theorem numberText_of_unpack (hx : x.toModel.unpack = wholeFloat s c hc)
    (hlt : c < Nat.pow 10 14) : numberText x = toString (s.apply c) := by
  have hnan : x.isNaN = false := by
    show x.toModel.unpack.isNaN = false
    rw [hx]
    rfl
  have hinf : x.isInf = false := by
    show x.toModel.unpack.isInf = false
    rw [hx]
    rfl
  have hzero : (x == 0) = false := by
    show (x.toModel.unpack.compare (0 : Float).toModel.unpack == some .eq) = false
    rw [hx]
    cases s <;> rfl
  simp only [numberText, hnan, hinf, hzero, shortWhole?_of_unpack hx hlt]
  rfl

theorem numberText_intToFloat (n : Int32) : numberText (intToFloat n) = toString n.toInt := by
  have hlow := n.le_toInt
  have hhigh := n.toInt_lt
  by_cases hzero : n = 0
  · subst hzero
    rfl
  · have hne : n.toInt ≠ 0 := fun heq => hzero (Int32.toInt_inj.mp heq)
    have hpos : 0 < n.toInt.natAbs := Int.natAbs_pos.mpr hne
    have hlt : n.toInt.natAbs < Nat.pow 10 14 := by
      show n.toInt.natAbs < 100000000000000
      omega
    rw [numberText_of_unpack (unpack_intToFloat hpos) hlt]
    congr 1
    split
    · show -(n.toInt.natAbs : Int) = n.toInt
      omega
    · show (n.toInt.natAbs : Int) = n.toInt
      omega

theorem intToFloat_boolToInt (b : Bool) : intToFloat (boolToInt b) = boolToFloat b := by
  cases b <;> rfl

end ScriptBridge.RValue
