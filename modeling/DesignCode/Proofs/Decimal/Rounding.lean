import DesignCode.Proofs.Decimal.Shortest
import Mathlib.Tactic.Positivity

/-!
# Rounding to doubles

The result of an operation on doubles is rounded from a natural and its accuracy, which tell where the
exact value is (`Approximates`).  A value between the middles of the gaps beside a double is rounded
to that double (`roundWithAccuracy_of_rounds`), so that products and quotients are known by their exact
values (`mul_of_rounds`, `div_of_rounds`).
-/

namespace DesignCode.Decimal

open Float.Model (Format totalExponent UnpackedFloat)
open Float.Model.UnpackedFloat

/-- The mantissa and the exponent that doubles above zero have. -/
structure Binary.IsCanonical (x : Binary) : Prop where
  pos : 0 < x.m
  mantissa_lt : x.m < 2 ^ 53
  le_exponent : -1074 ≤ x.q
  exponent_le : x.q ≤ 971
  normal : 2 ^ 52 ≤ x.m ∨ x.q = -1074
  narrow_iff : x.narrowBelow = true ↔ x.m = 2 ^ 52 ∧ -1074 < x.q

/-! ### Accuracy -/

/-- What the accuracy of a natural `n` says about the value that `n` stands for. -/
def Approximates (n : ℕ) (w : ℚ) : Accuracy → Prop
  | .exact => w = n
  | .inexact .lt => n < w ∧ w < n + 1 / 2
  | .inexact .eq => w = n + 1 / 2
  | .inexact .gt => n + 1 / 2 < w ∧ w < n + 1

/-- No natural is nearer to `w` than `m` is, and another one is as near only if `m` is even. -/
structure IsNearest (m : ℕ) (w : ℚ) : Prop where
  lower : m - 1 / 2 < w ∨ m % 2 = 0 ∧ w = m - 1 / 2
  upper : w < m + 1 / 2 ∨ m % 2 = 0 ∧ w = m + 1 / 2

namespace IsNearest

variable {m n : ℕ} {w : ℚ}

theorem lower_le (h : IsNearest m w) : (m - 1 / 2 : ℚ) ≤ w := h.lower.elim le_of_lt fun ends => ends.2.ge

theorem le_upper (h : IsNearest m w) : w ≤ (m + 1 / 2 : ℚ) := h.upper.elim le_of_lt fun ends => ends.2.le

/-- A value and its nearest natural are on the same side of every natural. -/
theorem le_of_le (h : IsNearest m w) (most : w ≤ n) : m ≤ n := by
  have lower := h.lower_le
  have less : (m : ℚ) < n + 1 := by linarith
  exact Nat.lt_succ_iff.1 (by exact_mod_cast less)

theorem ge_of_ge (h : IsNearest m w) (least : n ≤ w) : n ≤ m := by
  have upper := h.le_upper
  have less : (n : ℚ) < m + 1 := by linarith
  exact Nat.lt_succ_iff.1 (by exact_mod_cast less)

end IsNearest

namespace Approximates

variable {n : ℕ} {w : ℚ} {acc : Accuracy}

theorem bounds (h : Approximates n w acc) : (n : ℚ) ≤ w ∧ w < n + 1 := by
  match acc with
  | .exact | .inexact .lt | .inexact .eq | .inexact .gt =>
    simp only [Approximates] at h
    constructor <;> linarith

theorem shiftRightOne {em : ExtendedMantissa} (h : Approximates em.mantissa w em.accuracy) :
    Approximates em.shiftRightOne.mantissa (w / 2) em.shiftRightOne.accuracy := by
  obtain ⟨n, round, sticky⟩ := em
  obtain ⟨k, parity⟩ : ∃ k, n = 2 * k ∨ n = 2 * k + 1 := ⟨n / 2, by omega⟩
  have even : 2 * k / 2 = k := by omega
  have odd : (2 * k + 1) / 2 = k := by omega
  rcases parity with rfl | rfl <;> cases round <;> cases sticky <;>
    simp [Approximates, ExtendedMantissa.shiftRightOne, ExtendedMantissa.accuracy, even, odd] at h ⊢ <;>
    first | linarith | exact ⟨by linarith, by linarith⟩

theorem shift {em : ExtendedMantissa} (h : Approximates em.mantissa w em.accuracy) (k : ℕ) :
    Approximates (em >>> k).mantissa (w / 2 ^ k) (em >>> k).accuracy := by
  induction k with
  | zero =>
    rw [pow_zero, div_one]
    exact h
  | succ k ih =>
    rw [pow_succ, ← div_div]
    exact ih.shiftRightOne

theorem ofMantissa (h : Approximates n w acc) :
    Approximates (ExtendedMantissa.ofMantissaAndAccuracy n acc).mantissa w
      (ExtendedMantissa.ofMantissaAndAccuracy n acc).accuracy := by
  match acc with
  | .exact | .inexact .lt | .inexact .eq | .inexact .gt => exact h

/-- A value is rounded to the nearest natural. -/
theorem rounded {m : ℕ} (h : Approximates n w acc) (nearest : IsNearest m w) :
    acc.roundToNearestEven n = m := by
  have lower_le := nearest.lower_le
  have le_upper := nearest.le_upper
  -- the naturals compared with `m` by way of the value
  have of_lt {a b : ℕ} (h : (a : ℚ) < b + 1) : a < b + 1 := by exact_mod_cast h
  match acc with
  | .exact =>
    obtain rfl : w = n := h
    have := of_lt (a := m) (b := n) (by linarith)
    have := of_lt (a := n) (b := m) (by linarith)
    simp only [Accuracy.roundToNearestEven]
    omega
  | .inexact .lt =>
    obtain ⟨h₁, h₂⟩ := h
    have := of_lt (a := m) (b := n) (by linarith)
    have := of_lt (a := n) (b := m) (by linarith)
    simp only [Accuracy.roundToNearestEven]
    omega
  | .inexact .gt =>
    obtain ⟨h₁, h₂⟩ := h
    have := of_lt (a := m) (b := n + 1) (by push_cast; linarith)
    have := of_lt (a := n + 1) (b := m) (by push_cast; linarith)
    simp only [Accuracy.roundToNearestEven]
    omega
  | .inexact .eq =>
    obtain rfl : w = n + 1 / 2 := h
    have atLeast : m < n + 1 ∨ m % 2 = 0 ∧ m = n + 1 := by
      refine nearest.lower.imp (fun lt => of_lt (by linarith)) fun ends => ⟨ends.1, ?_⟩
      have same : (m : ℚ) = n + 1 := by linarith [ends.2]
      exact_mod_cast same
    have atMost : n < m ∨ m % 2 = 0 ∧ n = m := by
      refine nearest.upper.imp (fun lt => ?_) fun ends => ⟨ends.1, ?_⟩
      · have less : (n : ℚ) < m := by linarith
        exact_mod_cast less
      · have same : (n : ℚ) = m := by linarith [ends.2]
        exact_mod_cast same
    simp only [Accuracy.roundToNearestEven]
    omega

end Approximates

/-! ### Exponents -/

theorem targetExponent_eq (t : ℤ) : Format.binary64.targetExponent t = max (t - 53) (-1074) :=
  rfl

variable {n : ℕ} {f t : ℤ} {acc : Accuracy} {v : ℚ}

/-- Shifting to a larger exponent keeps track of the value. -/
theorem Approximates.shiftToExponent (h : Approximates n (v / 2 ^ f) acc) (le : f ≤ t) :
    ∃ em, shiftToExponent n f acc t = (em, t) ∧ Approximates em.mantissa (v / 2 ^ t) em.accuracy := by
  have amount : ((t - f).toNat : ℤ) = t - f := Int.toNat_of_nonneg (by omega)
  refine ⟨_, Prod.ext rfl (by simp only [UnpackedFloat.shiftToExponent]; omega), ?_⟩
  have shifted := h.ofMantissa.shift (t - f).toNat
  rw [div_div, ← zpow_natCast, amount, ← zpow_add₀ (by norm_num), add_sub_cancel] at shifted
  exact shifted

theorem lt_zpow_totalExponent (h : Approximates n (v / 2 ^ f) acc) : v < 2 ^ totalExponent n f := by
  have pos : (0 : ℚ) < 2 ^ f := by positivity
  have most : (n + 1 : ℚ) ≤ 2 ^ (n.log2 + 1) := by exact_mod_cast Nat.lt_log2_self
  have less : v < (n + 1) * 2 ^ f := (div_lt_iff₀ pos).1 h.bounds.2
  calc v < (n + 1) * 2 ^ f := less
    _ ≤ 2 ^ (n.log2 + 1) * 2 ^ f := by gcongr
    _ = 2 ^ totalExponent n f := by
      rw [totalExponent, ← zpow_natCast, ← zpow_add₀ (by norm_num)]
      push_cast
      rfl

theorem zpow_totalExponent_le (h : Approximates n (v / 2 ^ f) acc) (ne : n ≠ 0) :
    2 ^ (totalExponent n f - 1) ≤ v := by
  have pos : (0 : ℚ) < 2 ^ f := by positivity
  have least : (2 ^ n.log2 : ℚ) ≤ n := by exact_mod_cast Nat.log2_self_le ne
  have le : n * 2 ^ f ≤ v := (le_div_iff₀ pos).1 h.bounds.1
  calc (2 : ℚ) ^ (totalExponent n f - 1) = 2 ^ n.log2 * 2 ^ f := by
        rw [← zpow_natCast, ← zpow_add₀ (by norm_num), totalExponent]
        congr 1
        omega
    _ ≤ n * 2 ^ f := by gcongr
    _ ≤ v := le

theorem lt_of_zpow_lt {a b : ℤ} (h : (2 : ℚ) ^ a < 2 ^ b) : a < b :=
  (zpow_lt_zpow_iff_right₀ (by norm_num)).1 h

/-- A value with 53 digits left of the last place of a double is shifted to its exponent, and so is a
smaller one if the exponent is the least. -/
theorem target_eq {q : ℤ} (h : Approximates n (v / 2 ^ f) acc)
    (enough : f ≤ Format.binary64.targetExponent (totalExponent n f)) (least : -1074 ≤ q)
    (lower : q = -1074 ∨ 2 ^ (52 + q) ≤ v) (upper : v < 2 ^ (53 + q)) :
    Format.binary64.targetExponent (totalExponent n f) = q := by
  have above := lt_zpow_totalExponent h
  rw [targetExponent_eq] at enough ⊢
  have digits : q = -1074 ∨ 52 + q < totalExponent n f :=
    lower.imp_right fun le => lt_of_zpow_lt (le.trans_lt above)
  by_cases zero : n = 0
  · -- then all digits are below the least exponent
    have total : totalExponent n f = f + 1 := by simp [totalExponent, zero, add_comm]
    omega
  · have below : totalExponent n f - 1 < 53 + q :=
      lt_of_zpow_lt ((zpow_totalExponent_le h zero).trans_lt upper)
    omega

theorem Approximates.shiftToTarget {q : ℤ} (h : Approximates n (v / 2 ^ f) acc)
    (enough : f ≤ Format.binary64.targetExponent (totalExponent n f)) (least : -1074 ≤ q)
    (lower : q = -1074 ∨ 2 ^ (52 + q) ≤ v) (upper : v < 2 ^ (53 + q)) :
    ∃ em, shiftToTargetExponent .binary64 n f acc = (em, q) ∧
      Approximates em.mantissa (v / 2 ^ q) em.accuracy := by
  have target := target_eq h enough least lower upper
  obtain ⟨em, shifted, located⟩ := h.shiftToExponent (target ▸ enough)
  exact ⟨em, by rwa [shiftToTargetExponent, target], located⟩

/-! ### Rounding -/

namespace Binary

theorem le_lower (x : Binary) : (x.m - 1 / 2) * 2 ^ x.q ≤ x.lower := by
  rw [Binary.lower]
  gcongr
  split_ifs <;> norm_num

/-- The mantissa is nearest to a value that rounds to the double, in units of its last place. -/
theorem Rounds.isNearest {x : Binary} (rounds : x.Rounds v) : IsNearest x.m (v / 2 ^ x.q) := by
  have pos : (0 : ℚ) < 2 ^ x.q := by positivity
  constructor
  · rw [lt_div_iff₀ pos, div_eq_iff pos.ne']
    rcases rounds.lower with lower | ⟨even, same⟩
    · exact .inl ((le_lower x).trans_lt lower)
    · rcases (le_lower x).lt_or_eq with less | ends
      · exact .inl (same ▸ less)
      · exact .inr ⟨even, same.trans ends.symm⟩
  · rw [div_lt_iff₀ pos, div_eq_iff pos.ne']
    exact rounds.upper

namespace IsCanonical

variable {x : Binary}

theorem upper_lt (h : x.IsCanonical) : x.upper < 2 ^ (53 + x.q) := by
  have most : (x.m + 1 : ℚ) ≤ 2 ^ 53 := by exact_mod_cast h.mantissa_lt
  rw [Binary.upper, zpow_add₀ (by norm_num)]
  have pos : (0 : ℚ) < 2 ^ x.q := by positivity
  have less : (x.m + 1 / 2 : ℚ) < 2 ^ (53 : ℤ) := by
    rw [show (2 : ℚ) ^ (53 : ℤ) = 2 ^ 53 from rfl]
    linarith
  gcongr

/-- A mantissa of 53 digits is not shifted. -/
theorem shiftToTargetExponent_eq (h : x.IsCanonical) :
    shiftToTargetExponent .binary64 x.m x.q .exact = (⟨x.m, false, false⟩, x.q) := by
  have digits : x.m.log2 < 53 := (Nat.log2_lt h.pos.ne').2 h.mantissa_lt
  have stays : Format.binary64.targetExponent (totalExponent x.m x.q) ≤ x.q := by
    have least := h.le_exponent
    rw [targetExponent_eq, totalExponent]
    omega
  have none : (Format.binary64.targetExponent (totalExponent x.m x.q) - x.q).toNat = 0 := by omega
  rw [shiftToTargetExponent, UnpackedFloat.shiftToExponent, none]
  exact Prod.ext rfl (by simp)

theorem two_zpow_eq (q : ℤ) : (2 : ℚ) ^ (52 + q) = 2 ^ 52 * 2 ^ q := by
  rw [zpow_add₀ (by norm_num)]
  rfl

/-- A value may round to a double and have fewer digits left of its last place only if the double is a
power of two. -/
theorem eq_two_pow_of_lt (h : x.IsCanonical) (rounds : x.Rounds v) (ne : x.q ≠ -1074)
    (below : v < 2 ^ (52 + x.q)) : x.m = 2 ^ 52 := by
  by_contra other
  have next : (2 ^ 52 + 1 : ℚ) ≤ x.m := by
    have : 2 ^ 52 + 1 ≤ x.m := by
      have := h.normal.resolve_right ne
      omega
    exact_mod_cast this
  have above : (2 ^ 52 : ℚ) * 2 ^ x.q < v := by
    refine lt_of_lt_of_le ?_ ((le_lower x).trans rounds.lower_le)
    gcongr
    linarith
  exact lt_asymm above (two_zpow_eq x.q ▸ below)

/-- In units of half the last place, such a value is nearest to the next power of two. -/
theorem isNearest_of_lt (h : x.IsCanonical) (rounds : x.Rounds v) (ne : x.q ≠ -1074)
    (below : v < 2 ^ (52 + x.q)) :
    2 ^ (52 + (x.q - 1)) ≤ v ∧ IsNearest (2 ^ 53) (v / 2 ^ (x.q - 1)) := by
  have pos : (0 : ℚ) < 2 ^ (x.q - 1) := by positivity
  have first := h.eq_two_pow_of_lt rounds ne below
  have narrow : x.narrowBelow = true := h.narrow_iff.2 ⟨first, by have := h.le_exponent; omega⟩
  have half : (2 : ℚ) ^ x.q = 2 * 2 ^ (x.q - 1) := by
    rw [zpow_sub_one₀ (by norm_num)]
    ring
  have least : (2 ^ 53 - 1 / 2 : ℚ) * 2 ^ (x.q - 1) ≤ v := by
    refine le_of_eq_of_le ?_ rounds.lower_le
    rw [Binary.lower, narrow, if_pos rfl, first, half]
    push_cast
    ring
  refine ⟨le_trans ?_ least, ?_, .inl ?_⟩
  · rw [two_zpow_eq]
    gcongr
    norm_num
  · rw [lt_div_iff₀ pos, div_eq_iff pos.ne']
    push_cast
    exact least.lt_or_eq.imp_right fun same => ⟨by decide, same.symm⟩
  · rw [div_lt_iff₀ pos]
    rw [two_zpow_eq, half] at below
    push_cast
    linarith

end IsCanonical

end Binary

/-- Shifting a power of two to 53 digits drops a zero. -/
theorem shiftToTargetExponent_two_pow {q : ℤ} (least : -1074 ≤ q) :
    shiftToTargetExponent .binary64 (2 ^ 53) (q - 1) .exact = (⟨2 ^ 52, false, false⟩, q) := by
  have next : Format.binary64.targetExponent (totalExponent (2 ^ 53) (q - 1)) = q := by
    rw [targetExponent_eq, totalExponent, Nat.log2_two_pow]
    push_cast
    omega
  have one : (q - (q - 1)).toNat = 1 := by omega
  rw [shiftToTargetExponent, next, UnpackedFloat.shiftToExponent, one]
  exact Prod.ext rfl (by simp)

/-- Rounding is a shift, the rounding of the mantissa, and a further shift without rounding. -/
theorem roundWithAccuracy_of_shifts {em : ExtendedMantissa} {m : ℕ} {e q : ℤ} (s : Sign) (pos : 0 < m)
    (first : shiftToTargetExponent .binary64 n f acc = (em, e))
    (second : shiftToTargetExponent .binary64 em.roundedMantissa e .exact = (⟨m, false, false⟩, q)) :
    roundWithAccuracy .binary64 s n f acc = .finite s m q pos := by
  unfold roundWithAccuracy
  rw [first]
  dsimp only
  rw [second]
  exact dif_neg pos.ne'

/-- A value between the middles of the gaps beside a double is rounded to that double. -/
theorem roundWithAccuracy_of_rounds {x : Binary} (h : x.IsCanonical) (s : Sign)
    (located : Approximates n (v / 2 ^ f) acc)
    (enough : f ≤ Format.binary64.targetExponent (totalExponent n f)) (rounds : x.Rounds v) :
    roundWithAccuracy .binary64 s n f acc = .finite s x.m x.q h.pos := by
  have upper : v < 2 ^ (53 + x.q) := rounds.le_upper.trans_lt h.upper_lt
  by_cases wide : x.q = -1074 ∨ 2 ^ (52 + x.q) ≤ v
  · obtain ⟨em, shifted, located'⟩ := located.shiftToTarget enough h.le_exponent wide upper
    have rounded : em.roundedMantissa = x.m :=
      located'.rounded (rounds.isNearest)
    refine roundWithAccuracy_of_shifts s h.pos shifted ?_
    rw [rounded]
    exact h.shiftToTargetExponent_eq
  · -- the value has one digit less, and is rounded up to a power of two
    obtain ⟨ne, below⟩ := not_or.1 wide
    have below : v < 2 ^ (52 + x.q) := not_le.1 below
    have least : -1074 ≤ x.q - 1 := by have := h.le_exponent; omega
    obtain ⟨lower, nearest⟩ := h.isNearest_of_lt rounds ne below
    have upper : v < 2 ^ (53 + (x.q - 1)) := by
      convert below using 2
      ring
    obtain ⟨em, shifted, located'⟩ := located.shiftToTarget enough least (.inr lower) upper
    have rounded : em.roundedMantissa = 2 ^ 53 := located'.rounded nearest
    refine roundWithAccuracy_of_shifts s h.pos shifted ?_
    rw [rounded, h.eq_two_pow_of_lt rounds ne below]
    exact shiftToTargetExponent_two_pow h.le_exponent

/-! ### Products and quotients -/

theorem approximates_div (a : ℕ) {b : ℕ} (pos : 0 < b) :
    Approximates (a / b) (a / b : ℚ) (accuracyOfFraction (a % b) b) := by
  have pos' : (0 : ℚ) < b := by exact_mod_cast pos
  have whole : (a : ℚ) = b * (a / b : ℕ) + (a % b : ℕ) := by exact_mod_cast (Nat.div_add_mod a b).symm
  have value : (a / b : ℚ) = (a / b : ℕ) + (a % b : ℕ) / b := by
    rw [div_eq_iff pos'.ne', add_mul, div_mul_cancel₀ _ pos'.ne', mul_comm]
    exact whole
  have less : ((a % b : ℕ) : ℚ) < b := by exact_mod_cast Nat.mod_lt a pos
  rw [accuracyOfFraction, value]
  generalize a % b = r at less
  split_ifs with zero
  · simp [Approximates, zero]
  · have rest : (0 : ℚ) < r := by exact_mod_cast Nat.pos_of_ne_zero zero
    have some : (0 : ℚ) < r / b := div_pos rest pos'
    have part : (r / b : ℚ) < 1 := (div_lt_iff₀ pos').2 (by linarith)
    cases order : compare (2 * r) b with
    | lt =>
      have below : (2 * r : ℚ) < b := by exact_mod_cast Nat.compare_eq_lt.1 order
      have half : (r / b : ℚ) < 1 / 2 := (div_lt_iff₀ pos').2 (by linarith)
      constructor <;> linarith
    | eq =>
      have same : (2 * r : ℚ) = b := by exact_mod_cast Nat.compare_eq_eq.1 order
      have half : (r / b : ℚ) = 1 / 2 := (div_eq_iff pos'.ne').2 (by linarith)
      rw [half]
      rfl
    | gt =>
      have above : (b : ℚ) < 2 * r := by exact_mod_cast Nat.compare_eq_gt.1 order
      have half : (1 / 2 : ℚ) < r / b := (lt_div_iff₀ pos').2 (by linarith)
      constructor <;> linarith

section

variable {x : Binary} {m₁ m₂ : ℕ} {e₁ e₂ : ℤ} {p₁ : 0 < m₁} {p₂ : 0 < m₂} (s t : Sign)

/-- A product whose mantissa has 53 digits is the double that its exact value rounds to. -/
theorem mul_of_rounds (h : x.IsCanonical) (digits : 2 ^ 52 ≤ m₁ * m₂)
    (rounds : x.Rounds (m₁ * 2 ^ e₁ * (m₂ * 2 ^ e₂))) :
    mul .binary64 (.finite s m₁ e₁ p₁) (.finite t m₂ e₂ p₂) = .finite (s * t) x.m x.q h.pos := by
  have exact' : (m₁ * 2 ^ e₁ * (m₂ * 2 ^ e₂) : ℚ) = (m₁ * m₂ : ℕ) * 2 ^ (e₁ + e₂) := by
    rw [zpow_add₀ (by norm_num)]
    push_cast
    ring
  have located : Approximates (m₁ * m₂) ((m₁ * m₂ : ℕ) * 2 ^ (e₁ + e₂) / 2 ^ (e₁ + e₂) : ℚ) .exact :=
    mul_div_cancel_right₀ _ (by positivity)
  refine roundWithAccuracy_of_rounds h _ located ?_ (exact' ▸ rounds)
  have log : 52 ≤ (m₁ * m₂).log2 := (Nat.le_log2 (by omega)).2 digits
  rw [targetExponent_eq, totalExponent]
  omega

/-- A quotient has at most one digit less than the exponents of its parts say. -/
theorem zpow_lt_div (p₁ : 0 < m₁) (p₂ : 0 < m₂) (e₁ e₂ : ℤ) :
    (2 : ℚ) ^ (totalExponent m₁ e₁ - totalExponent m₂ e₂ - 1) < m₁ * 2 ^ e₁ / (m₂ * 2 ^ e₂) := by
  have least : (2 ^ m₁.log2 : ℚ) ≤ m₁ := by exact_mod_cast Nat.log2_self_le p₁.ne'
  have most : (m₂ : ℚ) < 2 ^ (m₂.log2 + 1) := by exact_mod_cast Nat.lt_log2_self
  have pos : (0 : ℚ) < m₂ := by exact_mod_cast p₂
  rw [lt_div_iff₀ (by positivity)]
  calc (2 : ℚ) ^ (totalExponent m₁ e₁ - totalExponent m₂ e₂ - 1) * (m₂ * 2 ^ e₂)
      < 2 ^ (totalExponent m₁ e₁ - totalExponent m₂ e₂ - 1) * (2 ^ (m₂.log2 + 1) * 2 ^ e₂) := by
        gcongr
    _ = 2 ^ m₁.log2 * 2 ^ e₁ := by
        simp only [← zpow_natCast, ← zpow_add₀ (by norm_num : (2 : ℚ) ≠ 0), totalExponent]
        congr 1
        push_cast
        ring
    _ ≤ m₁ * 2 ^ e₁ := by gcongr

theorem div_finite : div .binary64 (.finite s m₁ e₁ p₁) (.finite t m₂ e₂ p₂) =
    let (m, e, acc) := divCore .binary64 m₁ e₁ m₂ e₂
    roundWithAccuracy .binary64 (s / t) m e acc :=
  rfl

/-- A quotient is the double that its exact value rounds to. -/
theorem div_of_rounds (h : x.IsCanonical) (rounds : x.Rounds (m₁ * 2 ^ e₁ / (m₂ * 2 ^ e₂))) :
    div .binary64 (.finite s m₁ e₁ p₁) (.finite t m₂ e₂ p₂) = .finite (s / t) x.m x.q h.pos := by
  have above := zpow_lt_div p₁ p₂ e₁ e₂
  have pos : (m₂ : ℚ) ≠ 0 := by exact_mod_cast p₂.ne'
  rw [div_finite, divCore]
  generalize totalExponent m₁ e₁ - totalExponent m₂ e₂ = total at above
  rw [targetExponent_eq]
  generalize scale : min (e₁ - e₂) (max (total - 53) (-1074)) = f
  have amount : ((e₁ - e₂ - f).toNat : ℤ) = e₁ - e₂ - f := Int.toNat_of_nonneg (by omega)
  have value : (m₁ * 2 ^ e₁ / (m₂ * 2 ^ e₂) / 2 ^ f : ℚ) =
      (m₁ <<< (e₁ - e₂ - f).toNat : ℕ) / m₂ := by
    rw [Nat.shiftLeft_eq, Nat.cast_mul, Nat.cast_pow, ← zpow_natCast, amount, zpow_sub₀ (by norm_num),
      zpow_sub₀ (by norm_num)]
    push_cast
    field_simp
  have located := approximates_div (m₁ <<< (e₁ - e₂ - f).toNat) p₂
  rw [← value] at located
  refine roundWithAccuracy_of_rounds h _ located ?_ rounds
  have below := lt_zpow_totalExponent located
  have digits := lt_of_zpow_lt (above.trans below)
  rw [targetExponent_eq]
  omega

end

end DesignCode.Decimal
