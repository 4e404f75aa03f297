import DesignCode.Proofs.Script.Numeral
import Mathlib.Tactic.SplitIfs

/-!
# Signs of doubles

A finite double other than zero is above zero exactly if its sign bit is not set (`pos_iff`).  Only negative
doubles are written with a minus sign (`Css.head?_number`), so that doubles that are written alike are above zero
together (`Css.pos_iff_of_number_eq`).
-/

namespace DesignCode

namespace Decimal

/-! ### The sign bit -/

section

open Float.Model (UnpackedFloat)
open Float.Model.UnpackedFloat (Sign unpackSign)

theorem unpackSign_iff (b : BitVec 64) : @unpackSign .binary64 b = 1#1 ↔ b >>> 63 = 1#64 := by
  have top : (@unpackSign .binary64 b).toNat = b.toNat >>> 63 % 2 := by
    unfold unpackSign
    rw [BitVec.toNat_cast, BitVec.extractLsb_toNat]
    rfl
  have bound := b.isLt
  rw [← BitVec.toNat_inj, ← BitVec.toNat_inj, top, BitVec.toNat_ushiftRight, BitVec.toNat_ofNat,
    BitVec.toNat_ofNat, Nat.shiftRight_eq_div_pow]
  omega

theorem isNegative_iff (x : Float) :
    isNegative x = true ↔ @unpackSign .binary64 x.toBits.toBitVec = 1#1 := by
  rw [isNegative, decide_eq_true_iff, unpackSign_iff, ← UInt64.toBitVec_inj]
  rfl

theorem ofBitVec_eq_positive_iff (v : BitVec 1) : Sign.ofBitVec v = .positive ↔ ¬ v = 1#1 := by
  have cases : v = 0#1 ∨ v = 1#1 := by decide +revert
  rcases cases with rfl | rfl <;> simp [Sign.ofBitVec]

theorem lt_iff (x y : Float) : x < y ↔ x.toModel.unpack.lt y.toModel.unpack = true :=
  decide_eq_true_iff

theorem sign_unpack {spec : Float.Model.Format} {b : BitVec spec.numBits} {s : Sign} {m : Nat}
    {e : Int} {pos : 0 < m} (h : UnpackedFloat.unpack spec b = .finite s m e pos) :
    s = .ofBitVec (unpackSign b) := by
  unfold UnpackedFloat.unpack at h
  dsimp only at h
  by_cases ones : UnpackedFloat.unpackExponent b = -1#_
  · rw [if_pos ones] at h
    by_cases zero : UnpackedFloat.unpackMantissa b = 0#_
    · rw [if_pos zero] at h
      contradiction
    · rw [if_neg zero] at h
      contradiction
  · rw [if_neg ones] at h
    by_cases least : UnpackedFloat.unpackExponent b = 0#_
    · rw [if_pos least] at h
      by_cases zero : UnpackedFloat.unpackMantissa b = 0#_
      · rw [dif_pos zero] at h
        contradiction
      · rw [dif_neg zero] at h
        exact (UnpackedFloat.finite.inj h).1.symm
    · rw [if_neg least] at h
      exact (UnpackedFloat.finite.inj h).1.symm

/-- A finite double other than zero is unpacked with a sign, a mantissa and an exponent. -/
theorem exists_unpack {x : Float} (finite : x.isFinite = true) (nonzero : ¬ (x == 0) = true) :
    ∃ s m e pos, x.toModel.unpack = .finite s m e pos := by
  have finite : x.toModel.unpack.isFinite = true := finite
  have nonzero : ¬ x.toModel.unpack.beq (.zero .positive) = true := nonzero
  cases value : x.toModel.unpack with
  | finite s m e pos => exact ⟨s, m, e, pos, rfl⟩
  | zero s => exact absurd rfl (value ▸ nonzero)
  | infinity s => exact absurd (value ▸ finite) Bool.noConfusion
  | notANumber => exact absurd (value ▸ finite) Bool.noConfusion

/-- A finite double other than zero is above zero exactly if its sign bit is not set. -/
theorem pos_iff {x : Float} (finite : x.isFinite = true) (nonzero : ¬ (x == 0) = true) :
    0 < x ↔ ¬ isNegative x = true := by
  obtain ⟨s, m, e, pos, value⟩ := exists_unpack finite nonzero
  have sign : s = .ofBitVec (@unpackSign .binary64 x.toBits.toBitVec) := sign_unpack value
  have zero : (0 : Float).toModel.unpack = .zero .positive := rfl
  rw [isNegative_iff, ← ofBitVec_eq_positive_iff, ← sign, lt_iff, zero, value]
  cases s with
  | positive => exact iff_of_true rfl rfl
  | negative => exact iff_of_false Bool.noConfusion nofun

end

/-! ### The sign of a text -/

theorem head?_ne_of_isUnsignedDecimal {text : List Char} (h : Script.isUnsignedDecimal text = true) :
    text.head? ≠ some '-' := by
  cases text with
  | nil => simp
  | cons c cs =>
    intro first
    obtain rfl : c = '-' := by simpa using first
    exact absurd h (by simp [Script.isUnsignedDecimal, Script.isWhole])

/-- A minus sign stands only in front of the texts of negative values. -/
theorem head?_signed (x : Float) {text : List Char} (h : Script.isUnsignedDecimal text = true) :
    (signed x text).head? = some '-' ↔ isNegative x = true := by
  unfold signed
  split_ifs with negative
  · simp [negative]
  · simp [negative, head?_ne_of_isUnsignedDecimal h]

end Decimal

namespace Css

theorem head?_number {v : Float} (finite : v.isFinite = true) (nonzero : ¬ (v == 0) = true) :
    (number v).toList.head? = some '-' ↔ ¬ 0 < v := by
  rw [Decimal.pos_iff finite nonzero, not_not, number, if_pos ⟨finite, nonzero⟩,
    String.toList_ofList, Decimal.shortest, if_pos finite]
  exact Decimal.head?_signed v (Decimal.isUnsignedDecimal_plain _)

/-- Doubles that are written alike are above zero together. -/
theorem pos_iff_of_number_eq {v w : Float} (hv : v.isFinite = true ∧ ¬ (v == 0) = true)
    (hw : w.isFinite = true ∧ ¬ (w == 0) = true) (same : number v = number w) : 0 < v ↔ 0 < w := by
  rw [← not_iff_not, ← head?_number hv.1 hv.2, same, head?_number hw.1 hw.2]

end Css

end DesignCode
