import Mathlib.Algebra.Order.Field.Power
import Mathlib.Data.Rat.Cast.Order
import Mathlib.Tactic.FieldSimp
import Mathlib.Tactic.Linarith
import Mathlib.Tactic.Ring
import Mathlib.Tactic.SplitIfs
import DesignCode.Decimal.Shortest

/-!
# Shortest decimals read back

The decimal that is chosen for a double lies among the values that round to it
(`Binary.rounds_shortest`).  Decimals and doubles are compared as rational numbers here, while the
search compares naturals (`cmpScaled_cases`).
-/

namespace DesignCode.Decimal

/-- The value of a decimal. -/
def Dec.value (d : Dec) : ℚ := d.digits * 10 ^ d.exp

namespace Binary

/-- The middle of the gap below a double. -/
def lower (x : Binary) : ℚ := (x.m - if x.narrowBelow then 1 / 4 else 1 / 2) * 2 ^ x.q

/-- The middle of the gap above a double. -/
def upper (x : Binary) : ℚ := (x.m + 1 / 2) * 2 ^ x.q

/-- A value between the middles of the gaps beside a double, which count themselves if `m` is even. -/
structure Rounds (x : Binary) (v : ℚ) : Prop where
  lower : x.lower < v ∨ x.m % 2 = 0 ∧ v = x.lower
  upper : v < x.upper ∨ x.m % 2 = 0 ∧ v = x.upper

end Binary

/-! ### Comparisons -/

theorem zpow_mul_toNat {b : ℚ} (ne : b ≠ 0) (i : ℤ) : b ^ i * b ^ (-i).toNat = b ^ i.toNat := by
  rw [← zpow_natCast, ← zpow_natCast, ← zpow_add₀ ne]
  congr 1
  omega

/-- Comparing a decimal with a binary fraction is comparing their values. -/
theorem cmpScaled_cases (a : ℕ) (i : ℤ) (n : ℕ) (j : ℤ) :
    (cmpScaled a i n j = .lt ↔ (a * 10 ^ i : ℚ) < n * 2 ^ j) ∧
      (cmpScaled a i n j = .eq ↔ (a * 10 ^ i : ℚ) = n * 2 ^ j) ∧
      (cmpScaled a i n j = .gt ↔ (n * 2 ^ j : ℚ) < a * 10 ^ i) := by
  -- both values times the same power of ten and power of two are naturals
  have pos : (0 : ℚ) < 10 ^ (-i).toNat * 2 ^ (-j).toNat := by positivity
  have left : ((a * 10 ^ i.toNat * 2 ^ (-j).toNat : ℕ) : ℚ) =
      a * 10 ^ i * (10 ^ (-i).toNat * 2 ^ (-j).toNat) := by
    have power := zpow_mul_toNat (by norm_num : (10 : ℚ) ≠ 0) i
    push_cast
    rw [← power]
    ring
  have right : ((n * 2 ^ j.toNat * 10 ^ (-i).toNat : ℕ) : ℚ) =
      n * 2 ^ j * (10 ^ (-i).toNat * 2 ^ (-j).toNat) := by
    have power := zpow_mul_toNat (by norm_num : (2 : ℚ) ≠ 0) j
    push_cast
    rw [← power]
    ring
  rw [cmpScaled, Nat.pow_eq, Nat.pow_eq, Nat.pow_eq, Nat.pow_eq, Nat.compare_eq_lt,
    Nat.compare_eq_eq, Nat.compare_eq_gt, ← Nat.cast_lt (α := ℚ), ← Nat.cast_inj (R := ℚ),
    ← Nat.cast_lt (α := ℚ), left, right, mul_lt_mul_iff_left₀ pos, mul_lt_mul_iff_left₀ pos,
    mul_left_inj' pos.ne']
  exact ⟨Iff.rfl, Iff.rfl, Iff.rfl⟩

/-! ### Values that round to a double -/

namespace Binary

variable {x : Binary}

theorem Rounds.lower_le {v : ℚ} (h : x.Rounds v) : x.lower ≤ v :=
  h.lower.elim le_of_lt fun ends => ends.2.ge

theorem Rounds.le_upper {v : ℚ} (h : x.Rounds v) : v ≤ x.upper :=
  h.upper.elim le_of_lt fun ends => ends.2.le

theorem quarters (n : ℚ) (q : ℤ) : n * 2 ^ (q - 2) = n / 4 * 2 ^ q := by
  rw [zpow_sub₀ (by norm_num)]
  ring

/-- The test that the search makes is the one that the definition asks for. -/
theorem readsBack_iff (pos : 0 < x.m) (d : Dec) : x.readsBack d = true ↔ x.Rounds d.value := by
  have lower : (((if x.narrowBelow then 4 * x.m - 1 else 4 * x.m - 2 : ℕ) : ℚ)) * 2 ^ (x.q - 2) =
      x.lower := by
    rw [quarters, Binary.lower]
    congr 1
    split_ifs
    · rw [Nat.cast_sub (by omega)]
      push_cast
      ring
    · rw [Nat.cast_sub (by omega)]
      push_cast
      ring
  have upper : ((4 * x.m + 2 : ℕ) : ℚ) * 2 ^ (x.q - 2) = x.upper := by
    rw [quarters, Binary.upper]
    congr 1
    push_cast
    ring
  obtain ⟨-, eqLower, gtLower⟩ := cmpScaled_cases d.digits d.exp
    (if x.narrowBelow then 4 * x.m - 1 else 4 * x.m - 2) (x.q - 2)
  obtain ⟨ltUpper, eqUpper, -⟩ := cmpScaled_cases d.digits d.exp (4 * x.m + 2) (x.q - 2)
  rw [lower] at eqLower gtLower
  rw [upper] at ltUpper eqUpper
  simp only [readsBack, decide_eq_true_eq, eqLower, gtLower, ltUpper, eqUpper]
  exact ⟨fun h => ⟨h.1, h.2⟩, fun h => ⟨h.lower, h.upper⟩⟩

/-- The exact value rounds to the double. -/
theorem rounds_value (x : Binary) : x.Rounds (x.m * 2 ^ x.q) := by
  have gap : (0 : ℚ) < if x.narrowBelow then 1 / 4 else 1 / 2 := by split_ifs <;> norm_num
  have pos : (0 : ℚ) < 2 ^ x.q := by positivity
  constructor
  · left
    rw [Binary.lower]
    gcongr
    linarith
  · left
    rw [Binary.upper]
    gcongr
    linarith

theorem value_exact (x : Binary) : x.exact.value = x.m * 2 ^ x.q := by
  rw [exact]
  split_ifs with whole
  · have power := zpow_mul_toNat (by norm_num : (2 : ℚ) ≠ 0) x.q
    rw [Int.toNat_of_nonpos (by omega), pow_zero, mul_one] at power
    simp [Dec.value, power]
  · obtain ⟨n, negative⟩ : ∃ n : ℕ, x.q = -n := ⟨x.q.natAbs, by omega⟩
    have five : (2 : ℚ) ^ (-n : ℤ) = 5 ^ n * 10 ^ (-n : ℤ) := by
      rw [zpow_neg, zpow_neg, zpow_natCast, zpow_natCast, show (10 : ℚ) = 5 * 2 by norm_num, mul_pow]
      field_simp
    rw [Dec.value, negative, five, neg_neg, Int.toNat_natCast, Nat.pow_eq]
    push_cast
    ring

theorem onGrid?_readsBack {tie : Tie} {e : ℤ} {d : Dec} (h : x.onGrid? tie e = some d) :
    x.readsBack d = true := by
  unfold onGrid? at h
  grind

end Binary

theorem Dec.value_strip (fuel : ℕ) (d : Dec) : (d.strip fuel).value = d.value := by
  induction fuel generalizing d with
  | zero => rfl
  | succ fuel ih =>
    rw [Dec.strip]
    split_ifs with zero
    · have whole : d.digits = d.digits / 10 * 10 := by omega
      rw [ih, Dec.value, Dec.value, zpow_add_one₀ (by norm_num), whole,
        Nat.mul_div_cancel _ (by norm_num)]
      push_cast
      ring
    · rfl

/-- The decimal that is chosen for a double rounds to it. -/
theorem Binary.rounds_shortest {x : Binary} (pos : 0 < x.m) (tie : Tie) :
    x.Rounds (x.shortest tie).value := by
  rw [shortest, if_neg pos.ne']
  dsimp only
  rw [Dec.value_strip]
  cases hit : (List.range 17).findSome? fun n => x.onGrid? tie (x.scale - ((n : ℕ) + 1 : ℕ)) with
  | none =>
    rw [Option.getD_none, value_exact]
    exact x.rounds_value
  | some d =>
    obtain ⟨n, -, found⟩ := List.exists_of_findSome?_eq_some hit
    rw [Option.getD_some, ← readsBack_iff pos]
    exact onGrid?_readsBack found

theorem Binary.shortest_of_zero {x : Binary} (zero : x.m = 0) (tie : Tie) : x.shortest tie = ⟨0, 0⟩ := by
  rw [shortest, if_pos zero]

end DesignCode.Decimal
