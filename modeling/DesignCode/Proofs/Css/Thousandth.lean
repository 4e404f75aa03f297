import DesignCode.Proofs.Decimal.Positional

/-!
# Doubles to three places

There are two ways to three places: `round3` rounds the thousandfold of a double, which is a double
itself, to a whole number, and `fixed` rounds the exact value.  They give the same number of thousandths
unless the thousandfold comes to a half (`thousandths_eq_iff`), and a number of thousandths has the same
text for both (`opacity_eq`, `number_thousandth`).
-/

namespace DesignCode

open Float.Model Float.Model.UnpackedFloat
open Decimal Decimal.Binary

namespace Decimal

/-- A double that may have a fraction is rounded to the nearest whole number of its sign, a half going away
from zero. -/
theorem nearestWhole_withSign {x : Binary} (h : x.IsSize) (fraction : x.q < 0)
    (less : x.scaled 0 .away < 2 ^ 53) (s : Sign) :
    nearestWhole (x.withSign s) = (whole (x.scaled 0 .away)).withSign s := by
  obtain ⟨size, sign⟩ := ofFloat_withSign_of_isSize h s
  have finite : (x.withSign s).isFinite = true := isFinite_withSign h.canonical s
  rw [nearestWhole, if_pos finite]
  simp only [size]
  rw [if_neg (by omega), ofNat_eq_whole less]
  rw [signOf] at sign
  split_ifs at sign ⊢ with negative
  · rw [neg_withSign _ (isSize_whole less), ← sign]
    rfl
  · rw [← sign]

theorem half_eq (a : ℤ) : (a + 1 / 2 : ℚ) = (2 * a + 1 : ℤ) * 2 ^ (-1 : ℤ) := by
  rw [zpow_neg_one]
  push_cast
  ring

namespace Binary.IsNearestTo

variable {x : Binary} {v : ℚ} (h : x.IsNearestTo v) {a k : ℤ}

include h

theorem near_unit : |x.size - v| ≤ 2 ^ x.q / 2 := by
  rcases h with ⟨rfl, rfl⟩ | ⟨-, rounds⟩
  · rw [size_zero, sub_zero, abs_zero]
    positivity
  · exact rounds.near

theorem exponent_lt (least : -1074 < k) (less : 2 * v < 2 ^ (52 + k)) : x.q < k := by
  rcases h with ⟨-, rfl⟩ | ⟨canonical, rounds⟩
  · exact least
  · exact canonical.exponent_lt least ((canonical.size_le rounds).trans_lt less)

theorem near (exponent : x.q < k) : |x.size - v| ≤ 2 ^ (k - 1) / 2 := by
  refine h.near_unit.trans ?_
  gcongr
  · norm_num
  · omega

/-- If the double has halves, it is below one only if what it is nearest to is. -/
theorem lt_half (exponent : x.q < 0) (less : x.size < a + 1 / 2) : v < a + 1 / 2 := by
  have unit : (0 : ℚ) < 2 ^ x.q := by positivity
  have near := (abs_le.1 h.near_unit).1
  have next : x.size + 2 ^ x.q ≤ a + 1 / 2 := by
    rw [half_eq] at less ⊢
    exact add_unit_le (by omega) less
  linarith

theorem half_lt (exponent : x.q < 0) (less : a + 1 / 2 < x.size) : a + 1 / 2 < v := by
  have unit : (0 : ℚ) < 2 ^ x.q := by positivity
  have near := (abs_le.1 h.near_unit).2
  have next : a + 1 / 2 ≤ x.size - 2 ^ x.q := by
    rw [half_eq] at less ⊢
    exact le_sub_unit (by omega) less
  linarith

end Binary.IsNearestTo

/-- The sizes of doubles are in the range in which every number has a nearest double. -/
theorem Binary.IsSize.least {x : Binary} (h : x.IsSize) : x.size = 0 ∨ 2 ^ (-1074 : ℤ) ≤ x.size := by
  rcases h with rfl | canonical
  · exact .inl size_zero
  right
  have one : (1 : ℚ) ≤ x.m := by exact_mod_cast canonical.pos
  calc (2 : ℚ) ^ (-1074 : ℤ) ≤ 2 ^ x.q := zpow_le_zpow_right₀ (by norm_num) canonical.le_exponent
    _ ≤ x.size := le_mul_of_one_le_left (by positivity) one

end Decimal

namespace Css

theorem thousand_eq_whole : (1000 : Float) = (whole 1000).withSign .positive := ofNat_eq_whole (by norm_num)

theorem isCanonical_thousand : (whole 1000).IsCanonical := isCanonical_ofNatural (by norm_num) (by norm_num)

theorem mul_positive (s : Sign) : s * .positive = s := by
  cases s <;> rfl

theorem div_positive (s : Sign) : s / .positive = s := by
  cases s <;> rfl

theorem withSign_mul_thousand {x p : Binary} (hx : x.IsSize) (hp : p.IsNearestTo (x.size * 1000))
    (s : Sign) : x.withSign s * 1000 = p.withSign s := by
  have nearest : p.IsNearestTo (x.size * (whole 1000).size) := by
    rwa [size_whole, Nat.cast_ofNat]
  rw [thousand_eq_whole, withSign_mul s .positive hx (.inr isCanonical_thousand) (.inr (by decide)) nearest,
    mul_positive]

/-- The thousandfold of a double of moderate size has quarters. -/
theorem thousandfold_exponent_lt {x p : Binary} (hp : p.IsNearestTo (x.size * 1000))
    (less : x.size * 1000 < 2 ^ 50) : p.q < -1 := by
  refine hp.exponent_lt (by norm_num) ?_
  norm_num at less ⊢
  linarith

theorem thousandfold_rounded {x p : Binary} (hp : p.IsNearestTo (x.size * 1000))
    (less : x.size * 1000 < 2 ^ 50) : |p.size - x.size * 1000| ≤ 1 / 8 :=
  (hp.near (thousandfold_exponent_lt hp less)).trans (by norm_num)

/-- A double is rounded to the double nearest to its number of thousandths; the thousandfold is rounded
before the thousandths are counted. -/
theorem round3_withSign {x p r : Binary} (hx : x.IsSize) (hp : p.IsNearestTo (x.size * 1000))
    (less : x.size * 1000 < 2 ^ 50) (hr : r.IsNearestTo ((p.scaled 0 .away : ℕ) / 1000)) (s : Sign) :
    round3 (x.withSign s) = r.withSign s := by
  have exponent := thousandfold_exponent_lt hp less
  have bound : p.scaled 0 .away < 2 ^ 53 := by
    have above := (abs_le.1 (thousandfold_rounded hp less)).2
    have lower := (p.isNearestUp_scaled 0).lower
    norm_num at lower less
    have : (p.scaled 0 .away : ℚ) < (2 ^ 53 : ℕ) := by
      push_cast
      linarith
    exact_mod_cast this
  have quotient : r.IsNearestTo ((whole (p.scaled 0 .away)).size / (whole 1000).size) := by
    rwa [size_whole, size_whole, Nat.cast_ofNat]
  rw [round3, withSign_mul_thousand hx hp, nearestWhole_withSign hp.isSize (by omega) bound,
    thousand_eq_whole, withSign_div s .positive (isSize_whole bound) isCanonical_thousand quotient, div_positive]

/-- A thousand times a size has a nearest double. -/
theorem exists_thousandfold {x : Binary} (hx : x.IsSize) (less : x.size * 1000 < 2 ^ 50) :
    ∃ p : Binary, p.IsNearestTo (x.size * 1000) := by
  have nonneg := x.size_nonneg
  refine exists_isNearestTo (hx.least.imp (fun none => by rw [none, zero_mul]) fun least => ?_) ?_
  · linarith
  · have most : (2 : ℚ) ^ (50 : ℤ) ≤ 2 ^ (1023 : ℤ) := zpow_le_zpow_right₀ (by norm_num) (by norm_num)
    exact less.trans_le (by exact_mod_cast most)

theorem exists_thousandth (n : ℕ) (le : n ≤ 10 ^ 15) : ∃ r : Binary, r.IsNearestTo (n / 1000) := by
  have most : (n : ℚ) ≤ 1000000000000000 := by exact_mod_cast le
  refine exists_isNearestTo ?_ ?_
  · rcases Nat.eq_zero_or_pos n with rfl | pos
    · left
      norm_num
    · right
      have one : (1 : ℚ) ≤ n := by exact_mod_cast pos
      calc (2 : ℚ) ^ (-1074 : ℤ) ≤ 2 ^ (-10 : ℤ) := zpow_le_zpow_right₀ (by norm_num) (by norm_num)
        _ ≤ n / 1000 := by
          norm_num
          linarith
  · calc (n / 1000 : ℚ) < 2 ^ (50 : ℤ) := by
          norm_num
          linarith
      _ ≤ 2 ^ (1023 : ℤ) := zpow_le_zpow_right₀ (by norm_num) (by norm_num)

/-- The number of thousandths is that of the nearest whole number. -/
theorem thousandths_le {x p : Binary} (hp : p.IsNearestTo (x.size * 1000)) (less : x.size < 10 ^ 12) :
    p.scaled 0 .away ≤ 10 ^ 15 := by
  have above := (abs_le.1 (thousandfold_rounded hp (by norm_num at less ⊢; linarith))).2
  have lower := (p.isNearestUp_scaled 0).lower
  norm_num at lower less
  have : (p.scaled 0 .away : ℚ) < (10 ^ 15 + 1 : ℕ) := by
    push_cast
    linarith
  exact Nat.lt_succ_iff.1 (by exact_mod_cast this)

section

variable {n : ℕ} {r p : Binary}

theorem thousandth_exponent_lt (le : n ≤ 10 ^ 15) (hr : r.IsNearestTo (n / 1000)) : r.q < -11 := by
  have most : (n : ℚ) ≤ 1000000000000000 := by exact_mod_cast le
  exact hr.exponent_lt (by norm_num) (by norm_num; linarith)

/-- A double nearest to a number of thousandths is near enough to count them. -/
theorem thousandth_near (le : n ≤ 10 ^ 15) (hr : r.IsNearestTo (n / 1000)) :
    |r.size - n / 1000| ≤ 1 / 8192 :=
  (hr.near (thousandth_exponent_lt le hr)).trans (by norm_num)

theorem thousandth_lt (le : n ≤ 10 ^ 15) (hr : r.IsNearestTo (n / 1000)) : r.size * 1000 < 2 ^ 50 := by
  have most : (n : ℚ) ≤ 1000000000000000 := by exact_mod_cast le
  have near := (abs_le.1 (thousandth_near le hr)).2
  norm_num
  linarith

/-- The thousandfold of a double of a number of thousandths is nearly that number. -/
theorem thousandfold_near (le : n ≤ 10 ^ 15) (hr : r.IsNearestTo (n / 1000))
    (hp : p.IsNearestTo (r.size * 1000)) : |p.size - n| < 1 / 2 := by
  have rounded := abs_le.1 (thousandth_near le hr)
  have product := abs_le.1 (thousandfold_rounded hp (thousandth_lt le hr))
  rw [abs_lt]
  constructor <;> linarith

/-- A double with three places is not changed. -/
theorem round3_thousandth (le : n ≤ 10 ^ 15) (hr : r.IsNearestTo (n / 1000)) (s : Sign) :
    round3 (r.withSign s) = r.withSign s := by
  obtain ⟨p, hp⟩ := exists_thousandfold hr.isSize (thousandth_lt le hr)
  obtain ⟨below, above⟩ := abs_lt.1 (thousandfold_near le hr hp)
  have same : p.scaled 0 .away = n := by
    refine (p.isNearestUp_scaled 0).eq ⟨?_, ?_⟩
    · rw [pow_zero, mul_one]
      linarith
    · rw [pow_zero, mul_one]
      linarith
  exact round3_withSign hr.isSize hp (thousandth_lt le hr) (same.symm ▸ hr) s

end

/-- A double of a number of thousandths is below 1 if it is negative or has less than a thousand of them. -/
theorem thousandth_lt_one_iff {n : ℕ} (le : n ≤ 10 ^ 15) {r : Binary} (h : r.IsNearestTo (n / 1000))
    (s : Sign) : r.withSign s < 1 ↔ s = .negative ∨ n < 1000 := by
  rw [lt_iff_value_lt (isFinite_withSign h.isSize.canonical s) (by decide +kernel), value_one,
    value_withSign h.isSize]
  cases s with
  | negative => exact iff_of_true (by rw [signedSize]; linarith [r.size_nonneg]) (.inl rfl)
  | positive =>
    have exponent := thousandth_exponent_lt le h
    rw [signedSize, or_iff_right fun none => by cases none]
    constructor
    · intro less
      have unit : (0 : ℚ) < 2 ^ r.q := by positivity
      have near := (abs_le.1 h.near_unit).1
      have next := add_unit_le (x := r) (a := 1) (p := 0) (by omega) (by norm_num; exact less)
      norm_num at next
      have : (n : ℚ) < 1000 := by linarith
      exact_mod_cast this
    · intro less
      have : (n : ℚ) ≤ 999 := by exact_mod_cast Nat.le_of_lt_succ less
      have near := (abs_le.1 (thousandth_near le h)).2
      linarith

/-! ### Halves of thousandths -/

/-- A double comes to a half of a thousandth if its thousandfold is rounded up to the half or is a half
behind an even number, so that rounding away from zero goes up where the exact value would not. -/
def ComesToHalf (x p : Binary) : Prop :=
  ∃ j : ℕ, p.size = j + 1 / 2 ∧ (x.size * 1000 < j + 1 / 2 ∨ x.size * 1000 = j + 1 / 2 ∧ j % 2 = 0)

/-- A thousandfold that is nearer to a whole number than a half is comes to no half. -/
theorem not_comesToHalf_of_near {n : ℕ} {x p : Binary} (near : |p.size - n| < 1 / 2) :
    ¬ ComesToHalf x p := by
  rintro ⟨j, half, -⟩
  obtain ⟨below, above⟩ := abs_lt.1 near
  have : (j : ℚ) < n := by linarith
  have : j < n := by exact_mod_cast this
  have : (n : ℚ) < j + 1 := by linarith
  have : n < j + 1 := by exact_mod_cast this
  omega

/-- No double with three places comes to a half. -/
theorem not_comesToHalf_thousandth {n : ℕ} (le : n ≤ 10 ^ 15) {r p : Binary} (hr : r.IsNearestTo (n / 1000))
    (hp : p.IsNearestTo (r.size * 1000)) : ¬ ComesToHalf r p :=
  not_comesToHalf_of_near (thousandfold_near le hr hp)

/-- For a thousandfold that is a half, the double decides. -/
theorem comesToHalf_iff {x p : Binary} {j : ℕ} (half : p.size = j + 1 / 2) :
    ComesToHalf x p ↔ x.size * 1000 < j + 1 / 2 ∨ x.size * 1000 = j + 1 / 2 ∧ j % 2 = 0 := by
  constructor
  · rintro ⟨i, same, comes⟩
    have : (i : ℚ) = j := by linarith
    obtain rfl : i = j := by exact_mod_cast this
    exact comes
  · exact fun comes => ⟨j, half, comes⟩

/-- A natural is nearest to what lies above the half before it, and to that half if it is even. -/
theorem isNearest_eq_iff {m n : ℕ} {w : ℚ} (h : IsNearest m w) (above : w < n + 1 / 2) :
    m = n ↔ n - 1 / 2 < w ∨ n % 2 = 0 ∧ w = n - 1 / 2 := by
  constructor
  · rintro rfl
    exact h.lower
  · intro lower
    have atLeast := h.lower_le
    have le : m < n + 1 := by
      have : (m : ℚ) < n + 1 := by linarith
      exact_mod_cast this
    have ge : n < m + 1 ∨ n % 2 = 0 ∧ m % 2 = 0 ∧ n = m + 1 := by
      have of_lt (less : (n : ℚ) < m + 1) : n < m + 1 := by exact_mod_cast less
      rcases lower with inside | ⟨even, half⟩
      · have atMost := h.le_upper
        exact .inl (of_lt (by linarith))
      · rcases h.upper with less | ⟨even', same⟩
        · exact .inl (of_lt (by linarith))
        · have next : (n : ℚ) = m + 1 := by linarith
          exact .inr ⟨even, even', by exact_mod_cast next⟩
    omega

/-- The nearest natural is the one after a half exactly if a tie to the even one does not go down. -/
theorem isNearest_succ_iff {m j : ℕ} {w : ℚ} (h : IsNearest m w) (above : w < (j + 1 : ℕ) + 1 / 2) :
    m = j + 1 ↔ ¬ (w < j + 1 / 2 ∨ w = j + 1 / 2 ∧ j % 2 = 0) := by
  have parity : (j + 1) % 2 = 0 ↔ ¬ j % 2 = 0 := by omega
  have middle : ((j + 1 : ℕ) - 1 / 2 : ℚ) = j + 1 / 2 := by
    push_cast
    ring
  rw [isNearest_eq_iff h above, parity, middle]
  rcases lt_trichotomy w (j + 1 / 2) with less | same | greater
  · simp only [less, less.not_gt, less.ne, and_false, or_false, true_or, not_true]
  · simp only [same, lt_irrefl, and_true, true_and, false_or]
  · simp only [greater, greater.not_gt, greater.ne', false_and, or_false, true_or, not_false_iff]

/-- The number of thousandths is the same for both ways of rounding unless the double comes to a half. -/
theorem thousandths_eq_iff {x p : Binary} (hp : p.IsNearestTo (x.size * 1000)) (less : x.size < 10 ^ 12) :
    x.scaled 3 .toEven = p.scaled 0 .away ↔ ¬ ComesToHalf x p := by
  have exponent : p.q < 0 := (thousandfold_exponent_lt hp (by norm_num at less ⊢; linarith)).trans (by norm_num)
  have nearest := x.isNearest_scaled 3
  obtain ⟨lower, upper⟩ := p.isNearestUp_scaled 0
  generalize x.scaled 3 .toEven = m at nearest
  generalize p.scaled 0 .away = n at lower upper
  norm_num only [pow_zero, mul_one] at nearest lower upper
  have above : x.size * 1000 < n + 1 / 2 := hp.lt_half exponent (a := n) (by exact_mod_cast upper)
  rcases lower.lt_or_eq with inside | ends
  · -- neither the double nor its thousandfold is a half
    have below := hp.half_lt exponent (a := n - 1) (by push_cast; linarith)
    push_cast at below
    refine iff_of_true ((isNearest_eq_iff nearest above).2 (.inl (by linarith))) ?_
    refine not_comesToHalf_of_near (n := n) (abs_lt.2 ⟨?_, ?_⟩) <;> linarith
  · have some : 0 < n := by
      have : (0 : ℚ) < n := by linarith [p.size_nonneg]
      exact_mod_cast this
    obtain ⟨j, rfl⟩ : ∃ j, n = j + 1 := ⟨n - 1, by omega⟩
    push_cast at ends
    rw [comesToHalf_iff (j := j) (by linarith), isNearest_succ_iff nearest above]

/-- The thousandfold of a double is rounded up to 999.5 if the double is at least that, or comes to a
half. -/
theorem thousandths_lt_iff {x p : Binary} (hp : p.IsNearestTo (x.size * 1000)) (less : x.size < 1)
    (apart : ¬ ComesToHalf x p) : p.scaled 0 .away < 1000 ↔ x.size < 1999 / 2000 := by
  have exponent : p.q < 0 := (thousandfold_exponent_lt hp (by norm_num; linarith)).trans (by norm_num)
  obtain ⟨lower, upper⟩ := p.isNearestUp_scaled 0
  rw [pow_zero, mul_one] at lower upper
  constructor
  · intro few
    have : (p.scaled 0 .away : ℚ) ≤ 999 := by exact_mod_cast Nat.le_of_lt_succ few
    have below := hp.lt_half exponent (a := 999) (by push_cast; linarith)
    norm_num at below
    linarith
  · intro small
    by_contra many
    have : (1000 : ℚ) ≤ p.scaled 0 .away := by exact_mod_cast not_lt.1 many
    rcases (show (999 + 1 / 2 : ℚ) ≤ p.size by linarith).lt_or_eq with above | same
    · have above := hp.half_lt exponent (a := 999) (by exact_mod_cast above)
      norm_num at above
      linarith
    · exact apart ⟨999, by push_cast; exact same.symm, .inl (by push_cast; linarith)⟩

/-! ### Texts -/

/-- What stands in front of a text of the sign. -/
def signText : Sign → List Char
  | .positive => []
  | .negative => ['-']

theorem signed_eq (x : Float) (text : List Char) : signed x text = signText (signOf x) ++ text := by
  unfold signed signOf
  split_ifs <;> rfl

/-- A number of thousandths with a sign, written with as few digits as it has. -/
def thousandthText (s : Sign) (n : ℕ) : String :=
  if n = 0 then "0" else String.ofList (signText s ++ ((⟨n, -3⟩ : Dec).strip 17).plain)

theorem textValue_strip (n : ℕ) : textValue ((⟨n, -3⟩ : Dec).strip 17).plain = n / 1000 := by
  rw [textValue_plain, Dec.value_strip, Dec.value, div_eq_mul_inv]
  norm_num

/-- The text of a number above zero is not that of zero. -/
theorem plain_strip_ne {n : ℕ} (pos : 0 < n) : ((⟨n, -3⟩ : Dec).strip 17).plain ≠ ['0'] := by
  intro same
  have value := textValue_strip n
  have zero : textValue ['0'] = 0 := by decide +kernel
  rw [same, zero, eq_comm, div_eq_zero_iff, Nat.cast_eq_zero] at value
  rcases value with none | none
  · omega
  · norm_num at none

/-- Other numbers of thousandths have other texts. -/
theorem thousandthText_inj {s : Sign} {m n : ℕ} : thousandthText s m = thousandthText s n ↔ m = n := by
  constructor
  · have ne_zero {n : ℕ} (pos : 0 < n) :
        String.ofList (signText s ++ ((⟨n, -3⟩ : Dec).strip 17).plain) ≠ "0" := by
      intro same
      have chars := congrArg String.toList same
      rw [String.toList_ofList] at chars
      cases s with
      | positive => exact plain_strip_ne pos chars
      | negative => exact absurd (List.cons.inj chars).1 (by decide)
    unfold thousandthText
    intro same
    split_ifs at same with hm hn hn
    · omega
    · exact absurd same.symm (ne_zero (by omega))
    · exact absurd same (ne_zero (by omega))
    · have chars := congrArg String.toList same
      rw [String.toList_ofList, String.toList_ofList] at chars
      have value := congrArg textValue (List.append_cancel_left chars)
      rw [textValue_strip, textValue_strip, div_left_inj' (by norm_num)] at value
      exact_mod_cast value
  · rintro rfl
    rfl

/-- The opacity of a style map is the text of the nearest thousandth, a tie going to the even one. -/
theorem opacity_eq {o : Float} (finite : o.isFinite = true) :
    opacity o = thousandthText (signOf o) ((Binary.ofFloat o).scaled 3 .toEven) := by
  rw [opacity, fixed, if_pos finite, signed_eq, thousandthText]
  generalize (Binary.ofFloat o).scaled 3 .toEven = n
  generalize signOf o = s
  by_cases zero : n = 0
  · rw [zero]
    cases s <;> decide
  · have pos : 0 < n := Nat.pos_of_ne_zero zero
    have text : dropFractionZeros (signText s ++ pointed (digitChars n) 3) =
        signText s ++ ((⟨n, -3⟩ : Dec).strip 17).plain :=
      dropFractionZeros_pointed pos (by norm_num : 2 ≤ 16) _
    have notZero : signText s ++ ((⟨n, -3⟩ : Dec).strip 17).plain ≠ ['-', '0'] := by
      intro same
      cases s with
      | positive =>
        have first := head?_ne_of_isUnsignedDecimal (isUnsignedDecimal_plain ((⟨n, -3⟩ : Dec).strip 17))
        rw [signText, List.nil_append] at same
        exact first (by rw [same]; rfl)
      | negative => exact plain_strip_ne pos (List.cons.inj same).2
    rw [if_neg zero, text, if_neg notZero]

/-- The shortest decimal of a double nearest to a number of thousandths has that number. -/
theorem shortest_thousandth {n : ℕ} (pos : 0 < n) (le : n ≤ 10 ^ 15) {r : Binary}
    (hr : r.IsNearestTo (n / 1000)) : r.shortest .away = (⟨n, -3⟩ : Dec).strip 17 := by
  have most : (n : ℚ) ≤ 1000000000000000 := by exact_mod_cast le
  have least : (1 : ℚ) ≤ n := by exact_mod_cast pos
  obtain ⟨canonical, rounds⟩ := hr.rounds (by positivity)
  have near := abs_le.1 (thousandth_near le hr)
  have exponent := thousandth_exponent_lt le hr
  obtain ⟨lower, upper⟩ := scale_bounds canonical.pos
  have value : (⟨n, -3⟩ : Dec).value = n / 1000 := by
    rw [Dec.value, div_eq_mul_inv]
    norm_num
  have value' : (⟨10 * n, -4⟩ : Dec).value = n / 1000 := by
    rw [Dec.value]
    push_cast
    norm_num
    ring
  have of_lt {a b : ℤ} (less : (10 : ℚ) ^ a < 10 ^ b) : a < b := (zpow_lt_zpow_iff_right₀ (by norm_num)).1 less
  have last : r.scale - 1 < 14 := of_lt (by norm_num; linarith)
  by_cases first : -3 < r.scale
  · refine shortest_of_rounds canonical.pos (d := ⟨n, -3⟩) (value ▸ rounds) ?_ first
      (by dsimp only; omega) pos.ne' (by dsimp only; omega) .away
    calc (2 : ℚ) ^ r.q ≤ 2 ^ (-12 : ℤ) := zpow_le_zpow_right₀ (by norm_num) (by omega)
      _ < 10 ^ (-3 : ℤ) := by norm_num
  · -- the double is below a thousandth, so that the search begins one place further
    have small : r.size < 10 ^ (-3 : ℤ) :=
      upper.trans_le (zpow_le_zpow_right₀ (by norm_num) (by omega))
    have exponent : r.q < -60 := canonical.exponent_lt (by norm_num) (small.trans (by norm_num))
    have tiny : (2 : ℚ) ^ r.q ≤ 2 ^ (-60 : ℤ) := zpow_le_zpow_right₀ (by norm_num) (by omega)
    have first : -4 < r.scale := by
      refine of_lt (lt_trans ?_ upper)
      have near := (abs_le.1 hr.near_unit).1
      norm_num at tiny ⊢
      linarith
    rw [shortest_of_rounds canonical.pos (d := ⟨10 * n, -4⟩) (value' ▸ rounds) ?_ first
      (by dsimp only; omega) (by dsimp only; omega) (by dsimp only; omega) .away]
    · exact Dec.strip_eq_of_value_eq (value'.trans value.symm) (by dsimp only; omega) (by dsimp only; omega)
        (by dsimp only; omega)
    · calc (2 : ℚ) ^ r.q ≤ 2 ^ (-60 : ℤ) := tiny
        _ < 10 ^ (-4 : ℤ) := by norm_num

/-- A double with three places is written as its number of thousandths. -/
theorem number_thousandth {n : ℕ} (le : n ≤ 10 ^ 15) {r : Binary} (hr : r.IsNearestTo (n / 1000))
    (s : Sign) : number (r.withSign s) = thousandthText s n := by
  rcases Nat.eq_zero_or_pos n with rfl | pos
  · rw [Nat.cast_zero, zero_div] at hr
    rw [hr.eq_zero]
    cases s <;> decide +kernel
  · obtain ⟨canonical, -⟩ := hr.rounds (by positivity)
    obtain ⟨size, sign⟩ := ofFloat_withSign canonical s
    have finite : (r.withSign s).isFinite = true := isFinite_withSign (fun _ => canonical) s
    have nonzero : ¬ (r.withSign s == 0) = true := by
      show ¬ (r.withSign s).toModel.unpack.beq (.zero .positive) = true
      rw [unpack_canonical_withSign s canonical]
      cases s <;> simp [UnpackedFloat.beq, UnpackedFloat.compare]
    rw [number, if_pos ⟨finite, nonzero⟩, Decimal.shortest, if_pos finite, size, signed_eq, sign,
      shortest_thousandth pos le hr, thousandthText, if_neg pos.ne']

end Css

end DesignCode
