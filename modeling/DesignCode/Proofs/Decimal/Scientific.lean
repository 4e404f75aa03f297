import DesignCode.Proofs.Decimal.Packing

/-!
# Doubles from decimals

A natural times a power of ten is made a double by a product or a quotient of two doubles if both of
them are exact, and by one of any naturals else.  Either way it becomes the double that its value
rounds to (`ofScientific_of_rounds`).
-/

namespace DesignCode.Decimal

open Float.Model (Format UnpackedFloat totalExponent)
open Float.Model.UnpackedFloat

/-! ### Bounds -/

theorem Binary.IsCanonical.bounds {x : Binary} (h : x.IsCanonical) {v : ℚ} (rounds : x.Rounds v) :
    2 ^ (-1075 : ℤ) ≤ v ∧ v < 2 ^ (1024 : ℤ) := by
  have least : (1 / 2 : ℚ) ≤ x.m - 1 / 2 := by
    have one : (1 : ℚ) ≤ x.m := by exact_mod_cast h.pos
    linarith
  constructor
  · calc (2 : ℚ) ^ (-1075 : ℤ) = 1 / 2 * 2 ^ (-1074 : ℤ) := by
          rw [show (-1075 : ℤ) = -1 + -1074 by norm_num, zpow_add₀ (by norm_num)]
          norm_num
      _ ≤ (x.m - 1 / 2) * 2 ^ x.q := by
          gcongr
          · norm_num
          · exact h.le_exponent
      _ ≤ v := (Binary.le_lower x).trans rounds.lower_le
  · refine (rounds.le_upper.trans_lt h.upper_lt).trans_le ?_
    gcongr
    · norm_num
    · have := h.exponent_le
      omega

/-! ### Exact doubles -/

/-- A natural of at most 53 digits as a double. -/
def ofNatural (m : ℕ) : Binary where
  m := m * 2 ^ (52 - m.log2)
  q := -((52 - m.log2 : ℕ) : ℤ)
  narrowBelow := m * 2 ^ (52 - m.log2) = 2 ^ 52

variable {m : ℕ}

theorem isCanonical_ofNatural (pos : 0 < m) (less : m < 2 ^ 53) : (ofNatural m).IsCanonical := by
  have digits : m.log2 < 53 := (Nat.log2_lt pos.ne').2 less
  have power : 2 ^ m.log2 * 2 ^ (52 - m.log2) = 2 ^ 52 := by
    rw [← pow_add]
    congr 1
    omega
  have least : 2 ^ 52 ≤ m * 2 ^ (52 - m.log2) := by
    rw [← power]
    exact Nat.mul_le_mul_right _ (Nat.log2_self_le pos.ne')
  have most : m * 2 ^ (52 - m.log2) < 2 ^ 53 := by
    have above : m < 2 ^ m.log2 * 2 := Nat.lt_log2_self
    calc m * 2 ^ (52 - m.log2) < 2 ^ m.log2 * 2 * 2 ^ (52 - m.log2) := by gcongr
      _ = 2 ^ 53 := by rw [mul_right_comm, power]; rfl
  constructor <;> simp only [ofNatural, decide_eq_true_eq] <;> omega

theorem value_ofNatural (m : ℕ) : ((ofNatural m).m * 2 ^ (ofNatural m).q : ℚ) = m := by
  rw [ofNatural, zpow_neg, zpow_natCast]
  push_cast
  field_simp

theorem decreaseExponent_natural (pos : 0 < m) (less : m < 2 ^ 53) :
    decreaseExponent m 0 (Format.binary64.targetExponent (totalExponent m 0)) =
      ((ofNatural m).m, (ofNatural m).q) := by
  have digits : m.log2 < 53 := (Nat.log2_lt pos.ne').2 less
  have target : Format.binary64.targetExponent (totalExponent m 0) = -((52 - m.log2 : ℕ) : ℤ) := by
    rw [targetExponent_eq, totalExponent]
    omega
  have amount : (0 - -((52 - m.log2 : ℕ) : ℤ)).toNat = 52 - m.log2 := by omega
  rw [decreaseExponent, target, amount, Nat.shiftLeft_eq, zero_sub]
  rfl

/-- A natural of at most 53 digits is made a double exactly. -/
theorem unpack_toFloat (pos : 0 < m) (less : m < 2 ^ 53) :
    m.toUInt64.toFloat.toModel.unpack =
      .finite .positive (ofNatural m).m (ofNatural m).q (isCanonical_ofNatural pos less).pos := by
  have canonical := isCanonical_ofNatural pos less
  have same : m.toUInt64.toNat = m := by
    rw [UInt64.toNat_ofNat', Nat.mod_eq_of_lt (by omega)]
  have value : ((ofNatural m).m * 2 ^ (ofNatural m).q / 2 ^ (ofNatural m).q : ℚ) = (ofNatural m).m :=
    mul_div_cancel_right₀ _ (by positivity)
  have digits : (ofNatural m).m.log2 = 52 := by
    refine (Nat.log2_eq_iff canonical.pos.ne').2 ⟨?_, canonical.mantissa_lt⟩
    exact canonical.normal.resolve_right (by simp only [ofNatural]; omega)
  have rounded : UnpackedFloat.ofNat .binary64 m =
      .finite .positive (ofNatural m).m (ofNatural m).q canonical.pos := by
    rw [UnpackedFloat.ofNat, UnpackedFloat.ofInt, UnpackedFloat.normalize,
      Int.compare_eq_gt.2 (by exact_mod_cast pos)]
    simp only [UnpackedFloat.round, Int.toNat_natCast, decreaseExponent_natural pos less]
    refine roundWithAccuracy_of_rounds canonical _ value ?_ (ofNatural m).rounds_value
    rw [targetExponent_eq, totalExponent, digits]
    omega
  show (Float.Model.pack (UnpackedFloat.ofNat .binary64 m.toUInt64.toNat)).unpack = _
  rw [same, rounded, unpack_pack canonical]

/-- The listed powers of ten are exact. -/
theorem powersOfTen_exact :
    ∀ k : Fin Float.exactlyRepresentablePowersOfTen.size,
      let x := Float.exactlyRepresentablePowersOfTen[k]
      let b := Binary.ofFloat x
      x.isFinite = true ∧ isNegative x = false ∧ 2 ^ 52 ≤ b.m ∧
        b.m * 2 ^ b.q.toNat = 10 ^ k.val * 2 ^ (-b.q).toNat := by
  decide +kernel

theorem unpack_powerOfTen {k : ℕ} (inside : k < Float.exactlyRepresentablePowersOfTen.size) :
    ∃ (p : ℕ) (q : ℤ) (pos : 0 < p),
      Float.exactlyRepresentablePowersOfTen[k].toModel.unpack = .finite .positive p q pos ∧
        2 ^ 52 ≤ p ∧ (p * 2 ^ q : ℚ) = 10 ^ k := by
  obtain ⟨finite, positive, digits, exact'⟩ := powersOfTen_exact ⟨k, inside⟩
  simp only [Fin.getElem_fin] at finite positive digits exact'
  generalize Float.exactlyRepresentablePowersOfTen[k] = x at finite positive digits exact'
  have pos : 0 < (Binary.ofFloat x).m := by omega
  refine ⟨(Binary.ofFloat x).m, (Binary.ofFloat x).q, pos, ?_, digits, ?_⟩
  · rw [unpack_eq finite, signOf, positive, Binary.unpacked, dif_pos pos]
    rfl
  · have power := zpow_mul_toNat (by norm_num : (2 : ℚ) ≠ 0) (Binary.ofFloat x).q
    have ne : (2 : ℚ) ^ (-(Binary.ofFloat x).q).toNat ≠ 0 := by positivity
    rw [← mul_left_inj' ne, mul_assoc, power]
    exact_mod_cast exact'

/-! ### Decimals -/

/-- A quotient of two exact doubles is the double that its value rounds to. -/
theorem toFloat_div_powerOfTen {x : Binary} (h : x.IsCanonical) (pos : 0 < m) (less : m < 2 ^ 53)
    {k : ℕ} (inside : k < Float.exactlyRepresentablePowersOfTen.size)
    (rounds : x.Rounds (m * 10 ^ (-k : ℤ))) :
    m.toUInt64.toFloat / Float.exactlyRepresentablePowersOfTen[k] = x.toFloat := by
  obtain ⟨p, q, pos', power, -, value⟩ := unpack_powerOfTen inside
  show Float.ofModel (.pack (UnpackedFloat.div .binary64 _ _)) = _
  rw [unpack_toFloat pos less, power, div_of_rounds .positive .positive h, Binary.toFloat_of_pos h.pos]
  · rfl
  rw [value_ofNatural, value, div_eq_mul_inv, ← zpow_natCast, ← zpow_neg]
  exact rounds

/-- A product of two exact doubles is the double that its value rounds to. -/
theorem toFloat_mul_powerOfTen {x : Binary} (h : x.IsCanonical) (pos : 0 < m) (less : m < 2 ^ 53)
    {k : ℕ} (inside : k < Float.exactlyRepresentablePowersOfTen.size)
    (rounds : x.Rounds (m * 10 ^ (k : ℤ))) :
    m.toUInt64.toFloat * Float.exactlyRepresentablePowersOfTen[k] = x.toFloat := by
  obtain ⟨p, q, pos', power, digits, value⟩ := unpack_powerOfTen inside
  show Float.ofModel (.pack (UnpackedFloat.mul .binary64 _ _)) = _
  rw [unpack_toFloat pos less, power, mul_of_rounds .positive .positive h, Binary.toFloat_of_pos h.pos]
  · rfl
  · exact digits.trans (Nat.le_mul_of_pos_left _ (isCanonical_ofNatural pos less).pos)
  · rw [value_ofNatural, value, ← zpow_natCast]
    exact rounds

/-- A value that rounds to a double has no huge and no tiny power of ten. -/
theorem exponent_bounds {x : Binary} (h : x.IsCanonical) (pos : 0 < m) {e : ℤ}
    (rounds : x.Rounds (m * 10 ^ e)) : e ≤ 2 ^ 11 ∧ -(2 ^ 11 + (m.log2 : ℤ)) ≤ e := by
  obtain ⟨least, most⟩ := h.bounds rounds
  constructor
  · by_contra huge
    obtain ⟨k, rfl⟩ : ∃ k : ℕ, e = k := ⟨e.natAbs, by omega⟩
    have one : (1 : ℚ) ≤ m := by exact_mod_cast pos
    have large : (2 : ℚ) ^ (k : ℤ) ≤ m * 10 ^ (k : ℤ) := by
      rw [zpow_natCast, zpow_natCast]
      calc (2 : ℚ) ^ k ≤ 1 * 10 ^ k := by
            rw [one_mul]
            gcongr
            norm_num
        _ ≤ m * 10 ^ k := by gcongr
    have := lt_of_zpow_lt (large.trans_lt most)
    omega
  · by_contra tiny
    obtain ⟨k, rfl⟩ : ∃ k : ℕ, e = -k := ⟨e.natAbs, by omega⟩
    have above : (m : ℚ) < 2 ^ (m.log2 + 1) := by exact_mod_cast Nat.lt_log2_self
    have power : ((10 : ℚ) ^ k)⁻¹ ≤ (2 ^ k)⁻¹ := by
      gcongr
      norm_num
    have small : (m * 10 ^ (-k : ℤ) : ℚ) < 2 ^ ((m.log2 + 1 : ℕ) + -k : ℤ) := by
      rw [zpow_add₀ (by norm_num), zpow_neg, zpow_neg, zpow_natCast, zpow_natCast, zpow_natCast]
      calc (m * (10 ^ k)⁻¹ : ℚ) < 2 ^ (m.log2 + 1) * (10 ^ k)⁻¹ := by gcongr
        _ ≤ 2 ^ (m.log2 + 1) * (2 ^ k)⁻¹ := by gcongr
    have := lt_of_zpow_lt (least.trans_lt small)
    omega

/-- A product or a quotient of naturals is the double that its value rounds to. -/
theorem unpacked_ofScientific {x : Binary} (h : x.IsCanonical) (pos : 0 < m) {e : ℤ}
    (rounds : x.Rounds (m * 10 ^ e)) :
    UnpackedFloat.ofScientific .binary64 m e = .finite .positive x.m x.q h.pos := by
  obtain ⟨notHuge, notTiny⟩ := exponent_bounds h pos rounds
  rw [UnpackedFloat.ofScientific, dif_neg pos.ne', if_neg (not_lt.2 notHuge),
    if_neg (not_lt.2 notTiny)]
  split_ifs with whole
  · obtain ⟨k, rfl⟩ : ∃ k : ℕ, e = k := ⟨e.toNat, by omega⟩
    refine mul_of_rounds .positive .positive h ?_ ?_
    · have one : 0 < m * 10 ^ k := by positivity
      rw [Nat.shiftLeft_eq, mul_right_comm, Int.toNat_natCast]
      exact (Nat.pow_le_pow_right (by norm_num) (by decide)).trans (Nat.le_mul_of_pos_left _ one)
    · convert rounds using 1
      rw [Nat.shiftLeft_eq, zpow_neg, zpow_natCast, zpow_natCast, Int.toNat_natCast]
      push_cast
      field_simp
  · obtain ⟨k, rfl⟩ : ∃ k : ℕ, e = -k := ⟨(-e).toNat, by omega⟩
    refine div_of_rounds .positive .positive h ?_
    convert rounds using 1
    rw [neg_neg, Int.toNat_natCast, zpow_neg, zpow_natCast]
    push_cast
    simp [div_eq_mul_inv]

/-- A natural times a power of ten becomes the double that its value rounds to. -/
theorem ofScientific_of_rounds {x : Binary} (h : x.IsCanonical) (pos : 0 < m) {e : ℤ}
    (rounds : x.Rounds (m * 10 ^ e)) :
    Float.ofScientific m (decide (e < 0)) e.natAbs = x.toFloat := by
  rw [Float.ofScientific]
  simp only [decide_eq_true_eq]
  by_cases small : m < 2 ^ 53 ∧ e.natAbs ≤ 22
  · have inside : e.natAbs < Float.exactlyRepresentablePowersOfTen.size := by
      have size : Float.exactlyRepresentablePowersOfTen.size = 23 := rfl
      omega
    rw [dif_pos small]
    by_cases negative : e < 0
    · rw [if_pos negative, toFloat_div_powerOfTen h pos small.1 inside]
      rwa [Int.ofNat_natAbs_of_nonpos negative.le, neg_neg]
    · rw [if_neg negative, toFloat_mul_powerOfTen h pos small.1 inside]
      rwa [Int.natAbs_of_nonneg (not_lt.1 negative)]
  · have same : (if e < 0 then Int.negOfNat e.natAbs else Int.ofNat e.natAbs) = e := by
      rw [Int.negOfNat_eq, Int.ofNat_eq_natCast]
      omega
    rw [dif_neg small, same, Float.Model.ofScientific, unpacked_ofScientific h pos rounds,
      Binary.toFloat_of_pos h.pos]

end DesignCode.Decimal
