import Mathlib
import DesignCode.Proofs.Decimal.Rounding
import DesignCode.Proofs.Decimal.Sign

/-!
# Bits of doubles

A double is made from a sign, a mantissa and an exponent and has the same ones again
(`unpack_pack`).  `Binary.ofFloat` reads those that the arithmetic works with (`unpack_eq`).  Mathlib is
imported whole, because no part of it brings the lemmas on packed doubles.
-/

namespace DesignCode.Decimal

open Float.Model (Format UnpackedFloat)
open Float.Model.UnpackedFloat

/-! ### Fields -/

theorem toNat_unpackExponent (b : UInt64) :
    (@unpackExponent .binary64 b.toBitVec).toNat = ((b >>> 52) &&& 0x7FF).toNat := by
  rw [unpackExponent_def, BitVec.extractLsb'_toNat, UInt64.toNat_and]
  have mask : (0x7FF : UInt64).toNat = 2 ^ 11 - 1 := rfl
  rw [mask, Nat.and_two_pow_sub_one_eq_mod]
  rfl

theorem toNat_unpackMantissa (b : UInt64) :
    (@unpackMantissa .binary64 b.toBitVec).toNat = (b &&& 0xFFFFFFFFFFFFF).toNat := by
  rw [unpackMantissa_def, BitVec.extractLsb'_toNat, UInt64.toNat_and]
  have mask : (0xFFFFFFFFFFFFF : UInt64).toNat = 2 ^ 52 - 1 := rfl
  rw [mask, Nat.and_two_pow_sub_one_eq_mod]
  rfl

theorem toNat_append_one (v : BitVec 52) : (1#1 ++ v).toNat = 2 ^ 52 + v.toNat := by
  rw [BitVec.toNat_append, ← Nat.shiftLeft_add_eq_or_of_lt v.isLt]
  rfl

/-! ### Unpacking -/

/-- The double of a size with a sign, as the arithmetic takes it. -/
def Binary.unpacked (s : Sign) (x : Binary) : UnpackedFloat :=
  if h : 0 < x.m then .finite s x.m x.q h else .zero s

/-- The sign of a double. -/
def signOf (x : Float) : Sign := if isNegative x then .negative else .positive

theorem signOf_eq (x : Float) :
    signOf x = .ofBitVec (@unpackSign .binary64 x.toModel.toBits.toBitVec) := by
  have positive := ofBitVec_eq_positive_iff (@unpackSign .binary64 x.toBits.toBitVec)
  rw [← isNegative_iff] at positive
  rw [signOf]
  by_cases negative : isNegative x = true
  · rw [if_pos negative]
    cases sign : Sign.ofBitVec (@unpackSign .binary64 x.toModel.toBits.toBitVec) with
    | negative => rfl
    | positive => exact absurd negative (positive.1 sign)
  · rw [if_neg negative]
    exact (positive.2 negative).symm

section

variable {b : UInt64}

theorem ofBits_of_zero (zero : @unpackExponent .binary64 b.toBitVec = 0#11) :
    Binary.ofBits b = ⟨(@unpackMantissa .binary64 b.toBitVec).toNat, -1074, false⟩ := by
  have none : ((b >>> 52) &&& 0x7FF).toNat = 0 := by
    rw [← toNat_unpackExponent, zero]
    rfl
  rw [Binary.ofBits]
  dsimp only
  rw [if_pos none, toNat_unpackMantissa]

theorem ofBits_of_ne_zero (ne : @unpackExponent .binary64 b.toBitVec ≠ 0#11) :
    Binary.ofBits b =
      ⟨2 ^ 52 + (@unpackMantissa .binary64 b.toBitVec).toNat,
        ((@unpackExponent .binary64 b.toBitVec).toNat : ℤ) - 1075,
        (@unpackMantissa .binary64 b.toBitVec).toNat = 0 ∧
          1 < (@unpackExponent .binary64 b.toBitVec).toNat⟩ := by
  have some : ¬ ((b >>> 52) &&& 0x7FF).toNat = 0 := by
    rw [← toNat_unpackExponent]
    exact fun zero => ne (BitVec.eq_of_toNat_eq zero)
  rw [Binary.ofBits]
  dsimp only
  rw [if_neg some, toNat_unpackMantissa, toNat_unpackExponent]
  rfl

/-- The mantissa and the exponent that are read off the bits of a finite double are canonical. -/
theorem isCanonical_ofBits (finite : @unpackExponent .binary64 b.toBitVec ≠ -1#11)
    (pos : 0 < (Binary.ofBits b).m) : (Binary.ofBits b).IsCanonical := by
  have less : (@unpackMantissa .binary64 b.toBitVec).toNat < 2 ^ 52 := BitVec.isLt _
  by_cases zero : @unpackExponent .binary64 b.toBitVec = 0#11
  · rw [ofBits_of_zero zero] at pos ⊢
    constructor <;> dsimp only at pos ⊢ <;> grind
  · have most : (@unpackExponent .binary64 b.toBitVec).toNat < 2 ^ 11 := BitVec.isLt _
    have ne : (@unpackExponent .binary64 b.toBitVec).toNat ≠ 2047 :=
      fun same => finite (BitVec.eq_of_toNat_eq same)
    have ne' : (@unpackExponent .binary64 b.toBitVec).toNat ≠ 0 :=
      fun same => zero (BitVec.eq_of_toNat_eq same)
    rw [ofBits_of_ne_zero zero]
    constructor <;> dsimp only <;> grind

/-- A finite double is unpacked to what is read off its bits. -/
theorem unpack_ofBits (finite : @unpackExponent .binary64 b.toBitVec ≠ -1#11) :
    UnpackedFloat.unpack .binary64 b.toBitVec =
      (Binary.ofBits b).unpacked (.ofBitVec (@unpackSign .binary64 b.toBitVec)) := by
  rw [UnpackedFloat.unpack]
  dsimp only
  rw [if_neg finite]
  by_cases zero : @unpackExponent .binary64 b.toBitVec = 0#11
  · rw [ofBits_of_zero zero, if_pos zero, Binary.unpacked]
    have none_iff : @unpackMantissa .binary64 b.toBitVec = 0#52 ↔
        ¬ 0 < (@unpackMantissa .binary64 b.toBitVec).toNat := by
      rw [← BitVec.toNat_inj, Nat.not_lt, Nat.le_zero]
      rfl
    by_cases none : @unpackMantissa .binary64 b.toBitVec = 0#52
    · rw [dif_pos none, dif_neg (none_iff.1 none)]
    · rw [dif_neg none, dif_pos (not_not.1 fun zero => none (none_iff.2 zero))]
      simp [zero, Format.exponentBias]
  · rw [ofBits_of_ne_zero zero, if_neg zero, Binary.unpacked, dif_pos (by positivity)]
    congr 1
    exact toNat_append_one _

end

theorem exponent_ne_of_isFinite {x : Float} (finite : x.isFinite = true) :
    @unpackExponent .binary64 x.toBits.toBitVec ≠ -1#11 := by
  have finite : (UnpackedFloat.unpack .binary64 x.toBits.toBitVec).isFinite = true := finite
  intro special
  rw [UnpackedFloat.unpack] at finite
  dsimp only at finite
  rw [if_pos special] at finite
  split_ifs at finite <;> cases finite

/-- The size of a finite double other than zero has a canonical mantissa and exponent. -/
theorem isCanonical_ofFloat {x : Float} (finite : x.isFinite = true) (pos : 0 < (Binary.ofFloat x).m) :
    (Binary.ofFloat x).IsCanonical :=
  isCanonical_ofBits (exponent_ne_of_isFinite finite) pos

theorem unpack_eq {x : Float} (finite : x.isFinite = true) :
    x.toModel.unpack = (Binary.ofFloat x).unpacked (signOf x) := by
  rw [signOf_eq]
  exact unpack_ofBits (exponent_ne_of_isFinite finite)

/-! ### Packing -/

/-- A finite double is packed from its sign and its size. -/
theorem pack_unpacked {x : Float} (finite : x.isFinite = true) :
    Float.ofModel (.pack ((Binary.ofFloat x).unpacked (signOf x))) = x := by
  rw [← unpack_eq finite]
  exact Float.ofBits_toBits x

theorem unpack_packComponents_zero {f : BitVec 52} (pos : 0 < f.toNat) (s : Sign) :
    UnpackedFloat.unpack .binary64 (packComponents .binary64 s 0#11 f) =
      .finite s f.toNat (-1074) pos := by
  have some : f ≠ 0#52 := by
    rintro rfl
    exact absurd pos (by decide)
  rw [UnpackedFloat.unpack]
  simp [some, Format.exponentBias]

theorem unpack_packComponents {e : BitVec 11} (ne : e ≠ 0#11) (finite : e ≠ -1#11) (f : BitVec 52)
    (s : Sign) :
    UnpackedFloat.unpack .binary64 (packComponents .binary64 s e f) =
      .finite s (2 ^ 52 + f.toNat) ((e.toNat : ℤ) - 1075) (by positivity) := by
  have implicit := toNat_append_one f
  rw [UnpackedFloat.unpack]
  simp only [unpackExponent_packComponents, unpackMantissa_packComponents, unpackSign_packComponents,
    Sign.ofBitVec_toBitVec]
  rw [if_neg finite, if_neg ne]
  congr 1

/-- A canonical mantissa and exponent can be taken from the double that is packed from them. -/
theorem unpack_pack {x : Binary} (h : x.IsCanonical) (s : Sign) :
    (Float.Model.pack (.finite s x.m x.q h.pos)).unpack = .finite s x.m x.q h.pos := by
  have least := h.le_exponent
  have most := h.exponent_le
  have less := h.mantissa_lt
  have bias : x.q + (Format.binary64.exponentBias : ℤ) + (52 : ℕ) = x.q + 1075 := by
    simp [Format.exponentBias, add_assoc]
  have inRange : ¬ 2 ^ 11 ≤ (x.q + 1075).toNat + 1 := by omega
  show UnpackedFloat.unpack .binary64 (UnpackedFloat.pack .binary64 _) = _
  rw [UnpackedFloat.pack]
  dsimp only
  rw [bias, if_neg inRange, show Format.binary64.mantissaBits = 52 + 1 from rfl]
  by_cases normal : 2 ^ 52 ≤ x.m
  · have digits : x.m.log2 = 52 := (Nat.log2_eq_iff h.pos.ne').2 ⟨normal, less⟩
    have fraction : 2 ^ 52 + (BitVec.ofNat 52 x.m).toNat = x.m := by
      rw [BitVec.toNat_ofNat]
      omega
    have exponent : (BitVec.ofNat 11 (x.q + 1075).toNat).toNat = (x.q + 1075).toNat := by
      rw [BitVec.toNat_ofNat, Nat.mod_eq_of_lt (by omega)]
    have ne : BitVec.ofNat 11 (x.q + 1075).toNat ≠ 0#11 := by
      rw [Ne, ← BitVec.toNat_inj, exponent, BitVec.toNat_ofNat]
      omega
    have finite : BitVec.ofNat 11 (x.q + 1075).toNat ≠ -1#11 := by
      rw [Ne, ← BitVec.toNat_inj, exponent]
      show ¬ _ = 2047
      omega
    rw [digits, if_pos rfl, unpack_packComponents ne finite]
    simp only [fraction, exponent]
    congr 1
    omega
  · have least : x.q = -1074 := h.normal.resolve_left normal
    have digits : x.m.log2 < 52 := (Nat.log2_lt h.pos.ne').2 (not_le.1 normal)
    have fraction : (BitVec.ofNat 52 x.m).toNat = x.m := by
      rw [BitVec.toNat_ofNat, Nat.mod_eq_of_lt (not_le.1 normal)]
    rw [if_neg (by omega), unpack_packComponents_zero (by rw [fraction]; exact h.pos)]
    simp only [fraction, least]

/-! ### Sizes -/

/-- The double of a size that is not negative. -/
def Binary.toFloat (x : Binary) : Float := .ofModel (.pack (x.unpacked .positive))

theorem Binary.toFloat_of_pos {x : Binary} (pos : 0 < x.m) :
    x.toFloat = .ofModel (.pack (.finite .positive x.m x.q pos)) := by
  rw [toFloat, unpacked, dif_pos pos]

theorem Binary.toFloat_of_zero {x : Binary} (zero : x.m = 0) : x.toFloat = 0 := by
  rw [toFloat, unpacked, dif_neg (by omega)]
  rfl

theorem unpack_toFloat_ofFloat {x : Float} (finite : x.isFinite = true) :
    (Binary.ofFloat x).toFloat.toModel.unpack = (Binary.ofFloat x).unpacked .positive := by
  rw [Binary.toFloat, Binary.unpacked]
  split_ifs with pos
  · exact unpack_pack (isCanonical_ofFloat finite pos) _
  · rfl

theorem isFinite_toFloat {x : Float} (finite : x.isFinite = true) :
    (Binary.ofFloat x).toFloat.isFinite = true := by
  show (Binary.ofFloat x).toFloat.toModel.unpack.isFinite = true
  rw [unpack_toFloat_ofFloat finite, Binary.unpacked]
  split_ifs <;> rfl

/-- A finite double is its size with its sign. -/
theorem signed_toFloat {x : Float} (finite : x.isFinite = true) :
    (if isNegative x then -(Binary.ofFloat x).toFloat else (Binary.ofFloat x).toFloat) = x := by
  conv_rhs => rw [← pack_unpacked finite, signOf]
  by_cases negative : isNegative x = true
  · rw [if_pos negative, if_pos negative]
    show Float.ofModel (.pack (Binary.ofFloat x).toFloat.toModel.unpack.neg) = _
    rw [unpack_toFloat_ofFloat finite, Binary.unpacked, Binary.unpacked]
    split_ifs <;> rfl
  · rw [if_neg negative, if_neg negative]
    rfl

end DesignCode.Decimal
