import DesignCode.Css.Notation
import DesignCode.Proofs.Decimal.FewestDigits

/-!
# Decimals written with a point

A number written to a few places, without the zeros at the end of its fraction, is the text of the decimal
without the zeros at its end (`Css.dropFractionZeros_pointed`).  The value of a decimal is read off its text
(`textValue_plain`), so that decimals of other values have other texts.
-/

namespace DesignCode.Decimal

/-! ### The last digit -/

/-- Digits with a point, of which `places` are behind it; with no places the point stands at the end. -/
def withPoint (ds : List Char) (places : ℕ) : List Char :=
  let padded := List.replicate (places + 1 - ds.length) '0' ++ ds
  padded.take (padded.length - places) ++ '.' :: padded.drop (padded.length - places)

theorem pointed_of_pos {places : ℕ} (pos : 0 < places) (ds : List Char) :
    pointed ds places = withPoint ds places :=
  if_neg pos.ne'

theorem withPoint_zero {ds : List Char} (ne : ds ≠ []) : withPoint ds 0 = ds ++ ['.'] := by
  have some : 0 < ds.length := List.length_pos_iff.2 ne
  have none : 0 + 1 - ds.length = 0 := by omega
  simp [withPoint, none]

/-- The last digit stands behind all others. -/
theorem withPoint_concat (ds : List Char) (c : Char) (places : ℕ) :
    withPoint (ds ++ [c]) (places + 1) = withPoint ds places ++ [c] := by
  have pad : places + 1 + 1 - (ds ++ [c]).length = places + 1 - ds.length := by
    rw [List.length_append, List.length_singleton]
    omega
  unfold withPoint
  rw [pad, ← List.append_assoc]
  generalize same : List.replicate (places + 1 - ds.length) '0' ++ ds = padded
  have long : places ≤ padded.length := by
    rw [← same, List.length_append, List.length_replicate]
    omega
  have cut : (padded ++ [c]).length - (places + 1) = padded.length - places := by
    rw [List.length_append, List.length_singleton]
    omega
  dsimp only
  rw [cut, List.take_append_of_le_length (by omega), List.drop_append_of_le_length (by omega)]
  simp

/-- The digits of a number are those of a tenth of it and its last digit. -/
theorem digitChars_eq (n : ℕ) :
    ∃ ds, digitChars n = ds ++ [(n % 10).digitChar] ∧ (10 ≤ n → ds = digitChars (n / 10)) := by
  rcases Nat.lt_or_ge n 10 with small | large
  · refine ⟨[], ?_, fun le => by omega⟩
    rw [digitChars, Nat.toDigits_of_lt_base small, Nat.mod_eq_of_lt small]
    rfl
  · exact ⟨_, Nat.toDigits_of_base_le (by norm_num) large, fun _ => rfl⟩

theorem digitChar_ne_point {d : ℕ} (less : d < 10) : d.digitChar ≠ '.' := by
  have all : ∀ d < 10, d.digitChar ≠ '.' := by decide
  exact all d less

/-! ### Zeros at the end of a fraction -/

end DesignCode.Decimal

namespace DesignCode.Css

open Decimal

theorem dropFractionZeros_zero (w : List Char) : dropFractionZeros (w ++ ['0']) = dropFractionZeros w := by
  simp [dropFractionZeros]

theorem dropFractionZeros_point (w : List Char) : dropFractionZeros (w ++ ['.']) = w := by
  simp [dropFractionZeros]

theorem dropFractionZeros_digit (w : List Char) {c : Char} (zero : c ≠ '0') (point : c ≠ '.') :
    dropFractionZeros (w ++ [c]) = w ++ [c] := by
  have last : (w ++ [c]).reverse.dropWhile (· = '0') = c :: w.reverse := by
    simp [zero]
  rw [dropFractionZeros, last]
  split
  · next same => exact absurd (List.cons.inj same).1 point
  · simp

end DesignCode.Css

namespace DesignCode.Decimal

/-- A whole decimal is written as its digits, wherever its zeros are kept. -/
theorem plain_strip_whole {d : Dec} (whole : 0 ≤ d.exp) (fuel : ℕ) :
    (d.strip fuel).plain = digitChars (d.digits * 10 ^ d.exp.toNat) := by
  induction fuel generalizing d with
  | zero => exact if_pos whole
  | succ fuel ih =>
    rw [Dec.strip]
    split_ifs with zero
    · rw [ih (by dsimp only; omega)]
      have next : (d.exp + 1).toNat = d.exp.toNat + 1 := by omega
      have digits : d.digits / 10 * 10 = d.digits := by omega
      dsimp only
      rw [next, pow_succ', ← mul_assoc, digits]
    · exact if_pos whole

/-- A zero at the end of a number is dropped, and another digit stays. -/
theorem dropFractionZeros_last {n : ℕ} (pos : 0 < n) (places : ℕ) (w : List Char) :
    Css.dropFractionZeros (w ++ pointed (digitChars n) (places + 1)) =
      if n % 10 = 0 then Css.dropFractionZeros (w ++ withPoint (digitChars (n / 10)) places)
      else w ++ pointed (digitChars n) (places + 1) := by
  obtain ⟨ds, digits, tenth⟩ := digitChars_eq n
  rw [pointed_of_pos (Nat.succ_pos places), digits, withPoint_concat, ← List.append_assoc]
  split_ifs with zero
  · have last : (0 : ℕ).digitChar = '0' := rfl
    rw [zero, last, Css.dropFractionZeros_zero, tenth (by omega)]
  · have digit : (n % 10).digitChar ≠ '0' := by
      rwa [Ne, Nat.digitChar_eq_zero]
    exact Css.dropFractionZeros_digit _ digit (digitChar_ne_point (Nat.mod_lt n (by norm_num)))

/-- Dropping the zeros of a fraction is writing the decimal without the zeros at its end. -/
theorem dropFractionZeros_pointed {n : ℕ} (pos : 0 < n) {places fuel : ℕ} (le : places ≤ fuel)
    (w : List Char) :
    Css.dropFractionZeros (w ++ pointed (digitChars n) (places + 1)) =
      w ++ ((⟨n, -(places + 1 : ℕ)⟩ : Dec).strip (fuel + 1)).plain := by
  induction places generalizing n fuel with
  | zero =>
    rw [dropFractionZeros_last pos, Dec.strip]
    by_cases zero : n % 10 = 0
    · have digits : digitChars (n / 10) ≠ [] := Nat.toDigits_ne_nil
      rw [if_pos zero, if_pos ⟨pos.ne', zero⟩, withPoint_zero digits, ← List.append_assoc,
        Css.dropFractionZeros_point, plain_strip_whole (by simp)]
      simp
    · rw [if_neg zero, if_neg fun h => zero h.2]
      rfl
  | succ places ih =>
    rw [dropFractionZeros_last pos, Dec.strip]
    by_cases zero : n % 10 = 0
    · obtain ⟨fuel, rfl⟩ : ∃ k, fuel = k + 1 := ⟨fuel - 1, by omega⟩
      have next : -((places + 1 + 1 : ℕ) : ℤ) + 1 = -(places + 1 : ℕ) := by
        push_cast
        ring
      rw [if_pos zero, if_pos ⟨pos.ne', zero⟩, ← pointed_of_pos (Nat.succ_pos places),
        ih (by omega) (by omega : places ≤ fuel)]
      simp only [next]
    · rw [if_neg zero, if_neg fun h => zero h.2]
      rfl

/-! ### The value of a text -/

/-- The value of digits with a point among them or none. -/
def textValue (cs : List Char) : ℚ :=
  Json.natOfDigits (cs.filter (· ≠ '.')) / 10 ^ ((cs.dropWhile (· ≠ '.')).drop 1).length

theorem isPoint_of_mem_digits {ds : List Char} (h : ∀ c ∈ ds, c.isDigit = true) :
    ∀ c ∈ ds, decide (c ≠ '.') = true := by
  intro c mem
  rw [decide_eq_true_iff]
  rintro rfl
  exact absurd (h '.' mem) (by decide)

theorem textValue_append {whole fraction : List Char} (hw : ∀ c ∈ whole, c.isDigit = true)
    (hf : ∀ c ∈ fraction, c.isDigit = true) :
    textValue (whole ++ '.' :: fraction) =
      Json.natOfDigits (whole ++ fraction) / 10 ^ fraction.length := by
  have cut := (Text.cut_append (isPoint_of_mem_digits hw) ('.' :: fraction)
    (Text.head?_cons_of (by decide) fraction)).2
  have digits : (whole ++ '.' :: fraction).filter (· ≠ '.') = whole ++ fraction := by
    rw [List.filter_append, List.filter_cons_of_neg (by decide),
      List.filter_eq_self.2 (isPoint_of_mem_digits hw), List.filter_eq_self.2 (isPoint_of_mem_digits hf)]
  rw [textValue, cut, digits]
  rfl

theorem textValue_digits {ds : List Char} (h : ∀ c ∈ ds, c.isDigit = true) :
    textValue ds = Json.natOfDigits ds := by
  have none : ds.dropWhile (· ≠ '.') = [] := by
    rw [List.dropWhile_eq_nil_iff]
    exact isPoint_of_mem_digits h
  rw [textValue, none, List.filter_eq_self.2 (isPoint_of_mem_digits h)]
  simp

theorem textValue_withPoint {ds : List Char} (h : ∀ c ∈ ds, c.isDigit = true) (places : ℕ) :
    textValue (withPoint ds places) = Json.natOfDigits ds / 10 ^ places := by
  have padded : ∀ c ∈ List.replicate (places + 1 - ds.length) '0' ++ ds, c.isDigit = true := by
    refine List.forall_mem_append.2 ⟨fun c mem => ?_, h⟩
    rw [List.eq_of_mem_replicate mem]
    decide
  have value := Json.natOfDigits_zeros_append (places + 1 - ds.length) ds
  have long : places ≤ (List.replicate (places + 1 - ds.length) '0' ++ ds).length := by
    rw [List.length_append, List.length_replicate]
    omega
  unfold withPoint
  generalize List.replicate (places + 1 - ds.length) '0' ++ ds = all at padded value long
  dsimp only
  have behind : (all.drop (all.length - places)).length = places := by
    rw [List.length_drop]
    omega
  rw [textValue_append (fun c mem => padded c (List.mem_of_mem_take mem))
    fun c mem => padded c (List.mem_of_mem_drop mem), List.take_append_drop, value, behind]

/-- The value of a decimal is read off its text. -/
theorem textValue_plain (d : Dec) : textValue d.plain = d.value := by
  have digits (n : ℕ) : ∀ c ∈ digitChars n, c.isDigit = true :=
    (Script.isWhole_iff.1 (isWhole_digitChars n)).2.1
  rw [Dec.plain]
  split_ifs with whole
  · obtain ⟨k, exp⟩ : ∃ k : ℕ, d.exp = k := ⟨d.exp.toNat, by omega⟩
    rw [textValue_digits (digits _), Json.natOfDigits_digitChars, Dec.value, exp]
    push_cast
    simp
  · obtain ⟨k, exp⟩ : ∃ k : ℕ, d.exp = -(k + 1 : ℕ) := ⟨(-d.exp - 1).toNat, by omega⟩
    rw [exp, neg_neg, Int.toNat_natCast, pointed_of_pos (Nat.succ_pos k), Dec.value, exp,
      textValue_withPoint (digits _), Json.natOfDigits_digitChars, zpow_neg, zpow_natCast, div_eq_mul_inv]

end DesignCode.Decimal
