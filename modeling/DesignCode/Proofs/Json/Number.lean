import DesignCode.Json.Codec
import DesignCode.Proofs.Decimal.Scientific
import DesignCode.Proofs.Json.Reading

/-!
# Numbers read back

A whole number that 64 bits hold is read as it was printed (`value_intText`), and so is every finite
double (`value_floatText`): the digits that are printed for a double denote a decimal that rounds to
it, and the reader makes the nearest double of them.
-/

namespace DesignCode.Json

open Decimal Script
open Float.Model (UnpackedFloat)

/-! ### Digits -/

theorem natOfDigits_eq (ds : List Char) : natOfDigits ds = Nat.ofDigitChars 10 ds 0 := by
  rw [natOfDigits, Nat.ofDigitChars_eq_foldl]
  congr 1
  funext n d
  rw [Nat.mul_comm]
  rfl

theorem natOfDigits_digitChars (n : Nat) : natOfDigits (digitChars n) = n := by
  rw [natOfDigits_eq]
  exact Nat.ofDigitChars_ten_toDigits

theorem natOfDigits_append_zero (ds : List Char) : natOfDigits (ds ++ ['0']) = natOfDigits ds * 10 := by
  simp [natOfDigits]

theorem natOfDigits_zeros_append (k : Nat) (ds : List Char) :
    natOfDigits (List.replicate k '0' ++ ds) = natOfDigits ds := by
  rw [natOfDigits_eq, natOfDigits_eq, Nat.ofDigitChars_append, Nat.ofDigitChars_replicate_zero,
    Nat.mul_zero]

/-- A number has as many digits as the power of ten above it says. -/
theorem digitCount_bounds {n : Nat} (pos : 0 < n) :
    10 ^ (digitCount n - 1) ≤ n ∧ n < 10 ^ digitCount n ∧ 0 < digitCount n := by
  have count : digitCount n = (Nat.toDigits 10 n).length := if_neg pos.ne'
  have some : 0 < digitCount n := count ▸ Nat.length_toDigits_pos
  refine ⟨?_, ?_, some⟩
  · by_contra less
    by_cases one : digitCount n = 1
    · rw [one] at less
      omega
    · have := (Nat.length_toDigits_le_iff (by decide) (by omega)).2 (not_le.1 less)
      omega
  · exact (Nat.length_toDigits_le_iff (by decide) some).1 count.ge

/-! ### Whole numbers -/

theorem readNumber_numeral {n : Numeral} (h : n.IsWritten) :
    (readNumber n.text).1 = ⟨n.value, none⟩ := by
  have read := readNumber_text h EndsNumber.nil
  rw [List.append_nil] at read
  rw [read]

/-- Whether 64 bits hold the number, with a sign if it is negative. -/
def Fits (i : Int) : Prop := -2 ^ 63 ≤ i ∧ i < 2 ^ 64

/-- A whole number that 64 bits hold is read back. -/
theorem value_intText {i : Int} (fits : Fits i) :
    (readNumber (intText i)).1 = .pure (.int i) := by
  obtain ⟨least, most⟩ := fits
  rw [intText_eq, readNumber_numeral (isWritten_int i), Literal.pure]
  congr 1
  simp only [Numeral.value, List.append_nil, natOfDigits_digitChars, Option.isNone_none, and_self,
    true_and, decide_eq_true_eq, Nat.pow_eq]
  by_cases negative : i < 0
  · rw [if_neg (by simp [negative]), if_pos (by omega)]
    congr 2
    omega
  · rw [if_pos (by omega)]
    congr 2
    omega

theorem read_count {n : Nat} (fits : n < 2 ^ 64) (levels : Nat) :
    Codec.count.read levels (Draft.printed (.nat n)) = .ok n := by
  rw [Json.nat, Draft.printed, value_intText ⟨by omega, by omega⟩]
  rfl

/-! ### The value of a numeral -/

namespace Numeral

/-- The value of the digits of a number, without its sign. -/
def size (n : Numeral) : ℚ := natOfDigits (n.whole ++ n.fraction) * 10 ^ n.scale

/-- A number that is written as a text behind its sign, and is not a whole number. -/
structure Writes (n : Numeral) (cs : List Char) (v : ℚ) : Prop where
  isWritten : n.IsWritten
  text : n.text = (if n.negative then ['-'] else []) ++ cs
  size : n.size = v
  notWhole : ¬ (n.fraction = [] ∧ n.exponent.isNone = true)

/-- The number with the digits `ds`, of which `places` stand behind the point. -/
def pointed (negative : Bool) (ds : List Char) (places : Nat)
    (exponent : Option (Bool × List Char)) : Numeral :=
  ⟨negative, ds.take (ds.length - places), ds.drop (ds.length - places), exponent⟩

/-- The exponent of ten that a number is written with. -/
def power (n : Numeral) : Int :=
  match n.exponent with
  | none => 0
  | some (true, ds) => -(natOfDigits ds : Int)
  | some (false, ds) => natOfDigits ds

theorem power_of_exponent {n : Numeral} {e : Int}
    (h : n.exponent = some (decide (e < 0), digitChars e.natAbs)) : n.power = e := by
  by_cases below : e < 0
  · simp only [power, h, decide_eq_true below, natOfDigits_digitChars]
    omega
  · simp only [power, h, decide_eq_false below, natOfDigits_digitChars]
    omega

theorem size_pointed (negative : Bool) {ds : List Char} {places : Nat} (le : places ≤ ds.length)
    (exponent : Option (Bool × List Char)) :
    (pointed negative ds places exponent).size =
      natOfDigits ds * 10 ^ ((pointed negative ds places exponent).power - places) := by
  have count : (ds.drop (ds.length - places)).length = places := by
    rw [List.length_drop]
    omega
  rw [size, scale]
  simp only [pointed, List.take_append_drop, count]
  rfl

end Numeral

theorem fractionText_of_ne {ds : List Char} (ne : ds ≠ []) : fractionText ds = '.' :: ds := if_neg ne

/-- A whole number with a zero behind the point. -/
theorem exists_writes_whole (negative : Bool) (n : Nat) :
    ∃ i : Numeral, i.negative = negative ∧ i.Writes (digitChars n ++ ['.', '0']) n := by
  have cut : (digitChars n ++ ['0']).length - 1 = (digitChars n).length := by simp
  have whole : (digitChars n ++ ['0']).take ((digitChars n ++ ['0']).length - 1) = digitChars n := by
    rw [cut, List.take_left]
  have fraction : (digitChars n ++ ['0']).drop ((digitChars n ++ ['0']).length - 1) = ['0'] := by
    rw [cut, List.drop_left]
  refine ⟨.pointed negative (digitChars n ++ ['0']) 1 none, rfl, ⟨?_, ?_, ?_, ?_⟩⟩
  · constructor
    · simp only [Numeral.pointed, whole, isWhole_digitChars]
    · simp only [Numeral.pointed, fraction]
      exact List.forall_mem_singleton.2 (by decide)
    · simp [Numeral.pointed]
  · simp only [Numeral.text, Numeral.pointed, whole, fraction]
    rfl
  · rw [Numeral.size_pointed negative (by simp), natOfDigits_append_zero, natOfDigits_digitChars]
    simp [Numeral.power, Numeral.pointed]
  · simp only [Numeral.pointed, fraction]
    simp

/-- Digits with a point before the last of them. -/
theorem exists_writes_pointed (negative : Bool) (n : Nat) {places : Nat} (pos : 0 < places) :
    ∃ i : Numeral, i.negative = negative ∧
      i.Writes (Decimal.pointed (digitChars n) places) (n * 10 ^ (-places : ℤ)) := by
  have unsigned := isUnsignedDecimal_pointed (isWhole_digitChars n) places
  have value := natOfDigits_zeros_append (places + 1 - (digitChars n).length) (digitChars n)
  have all : ∀ c ∈ List.replicate (places + 1 - (digitChars n).length) '0' ++ digitChars n,
      c.isDigit = true := by
    intro c mem
    rcases List.mem_append.1 mem with mem | mem
    · rw [List.eq_of_mem_replicate mem]
      decide
    · exact (isWhole_iff.1 (isWhole_digitChars n)).2.1 c mem
  have length : places <
      (List.replicate (places + 1 - (digitChars n).length) '0' ++ digitChars n).length := by
    rw [List.length_append, List.length_replicate]
    omega
  rw [natOfDigits_digitChars] at value
  rw [Decimal.pointed, if_neg pos.ne'] at unsigned ⊢
  dsimp only at unsigned ⊢
  generalize List.replicate (places + 1 - (digitChars n).length) '0' ++ digitChars n = ds at *
  have fraction : ds.drop (ds.length - places) ≠ [] := by
    rw [Ne, List.drop_eq_nil_iff]
    omega
  refine ⟨.pointed negative ds places none, rfl, ⟨⟨?_, ?_, ?_⟩, ?_, ?_, fun h => fraction h.1⟩⟩
  · -- the digits before the point are the first ones of an unsigned decimal
    obtain ⟨taken, -⟩ := Text.cut_append (fun c mem => all c (List.mem_of_mem_take mem))
      ('.' :: ds.drop (ds.length - places)) (Text.head?_cons_of (by decide) _)
    rw [isUnsignedDecimal, taken, Bool.and_eq_true] at unsigned
    exact unsigned.1
  · exact fun c mem => all c (List.mem_of_mem_drop mem)
  · simp [Numeral.pointed]
  · simp only [Numeral.text, Numeral.pointed, fractionText_of_ne fraction, exponentText,
      List.append_nil]
  · rw [Numeral.size_pointed negative length.le, value]
    simp [Numeral.power, Numeral.pointed]

/-- One digit before the point, and an exponent. -/
theorem exists_writes_scientific (negative : Bool) (d : Dec) :
    ∃ i : Numeral, i.negative = negative ∧ i.Writes d.scientific d.value := by
  obtain ⟨ne, digits, -⟩ := isWhole_iff.1 (isWhole_digitChars d.digits)
  have value := natOfDigits_digitChars d.digits
  rw [Dec.scientific]
  generalize digitChars d.digits = ds at *
  obtain ⟨c, ds, rfl⟩ := List.exists_cons_of_ne_nil ne
  have cut : (c :: ds).length - ds.length = 1 := by simp
  have exponent : d.exp + ((c :: ds).length : ℤ) - 1 = d.exp + ds.length := by
    rw [List.length_cons]
    omega
  simp only [exponent]
  generalize top : d.exp + (ds.length : ℤ) = e
  refine ⟨.pointed negative (c :: ds) ds.length (some (decide (e < 0), digitChars e.natAbs)), rfl,
    ⟨⟨?_, ?_, ?_⟩, ?_, ?_, by simp [Numeral.pointed]⟩⟩
  · simp only [Numeral.pointed, cut]
    have digit : c.isDigit = true := digits c List.mem_cons_self
    by_cases zero : c = '0' <;> simp [isWhole, digit, zero]
  · exact fun d mem => digits d (List.mem_of_mem_drop mem)
  · intro p mem
    cases mem
    obtain ⟨some, all, -⟩ := isWhole_iff.1 (isWhole_digitChars e.natAbs)
    exact ⟨some, all⟩
  · have sign : (if 0 ≤ e then '+' else '-') = if decide (e < 0) = true then '-' else '+' := by
      by_cases below : e < 0
      · rw [if_neg (by omega), decide_eq_true below, if_pos rfl]
      · rw [if_pos (by omega), decide_eq_false below, if_neg Bool.false_ne_true]
    simp only [Numeral.text, Numeral.pointed, cut, sign]
    cases ds <;> rfl
  · rw [Numeral.size_pointed negative (by simp), value, Numeral.power_of_exponent rfl, Dec.value, ← top,
      add_sub_cancel_right]

/-- The text of a decimal denotes it. -/
theorem exists_writes_decimalText (negative : Bool) (d : Dec) :
    ∃ i : Numeral, i.negative = negative ∧ i.Writes (decimalText d) d.value := by
  rw [decimalText]
  split_ifs with near whole
  · obtain ⟨k, exp⟩ : ∃ k : Nat, d.exp = k := ⟨d.exp.toNat, by omega⟩
    have written := exists_writes_whole negative (d.digits * 10 ^ k)
    rw [Dec.plain, if_pos whole, Dec.value, exp, Int.toNat_natCast, zpow_natCast]
    exact_mod_cast written
  · obtain ⟨k, exp⟩ : ∃ k : Nat, d.exp = -k := ⟨(-d.exp).toNat, by omega⟩
    rw [Dec.plain, if_neg whole, Dec.value, exp, neg_neg, Int.toNat_natCast]
    exact exists_writes_pointed negative d.digits (by omega)
  · exact exists_writes_scientific negative d

/-! ### Doubles -/

/-- The four hundredth power of ten is beyond all doubles. -/
theorem two_zpow_le : (2 : ℚ) ^ (1075 : ℤ) ≤ 10 ^ (400 : ℤ) :=
  calc (2 : ℚ) ^ (1075 : ℤ) ≤ 2 ^ (3 * 400 : ℤ) := zpow_le_zpow_right₀ (by norm_num) (by norm_num)
    _ = (2 ^ (3 : ℤ)) ^ (400 : ℤ) := zpow_mul 2 3 400
    _ ≤ 10 ^ (400 : ℤ) := zpow_le_zpow_left₀ (by norm_num) (by norm_num) (by norm_num)

/-- The reader makes the double of digits that their value rounds to. -/
theorem doubleOf_of_rounds {x : Binary} (h : x.IsCanonical) {digits : Nat} (pos : 0 < digits)
    {scale : Int} (rounds : x.Rounds (digits * 10 ^ scale)) : doubleOf digits scale = x.toFloat := by
  obtain ⟨least, most⟩ := h.bounds rounds
  obtain ⟨atLeast, lessThan, some⟩ := digitCount_bounds pos
  have atLeast : (10 : ℚ) ^ (digitCount digits - 1) ≤ digits := by exact_mod_cast atLeast
  have lessThan : (digits : ℚ) < 10 ^ digitCount digits := by exact_mod_cast lessThan
  have notHuge : ¬ 400 < scale + (digitCount digits : ℤ) := by
    intro huge
    refine absurd most (not_lt.2 ?_)
    calc (2 : ℚ) ^ (1024 : ℤ) ≤ 2 ^ (1075 : ℤ) := zpow_le_zpow_right₀ (by norm_num) (by norm_num)
      _ ≤ 10 ^ (400 : ℤ) := two_zpow_le
      _ ≤ 10 ^ (((digitCount digits - 1 : ℕ) : ℤ) + scale) := by
        gcongr
        · norm_num
        · omega
      _ ≤ digits * 10 ^ scale := by
        rw [zpow_add₀ (by norm_num), zpow_natCast]
        gcongr
  have notTiny : ¬ scale + (digitCount digits : ℤ) < -400 := by
    intro tiny
    refine absurd least (not_le.2 ?_)
    calc (digits * 10 ^ scale : ℚ) < 10 ^ digitCount digits * 10 ^ scale := by gcongr
      _ = 10 ^ ((digitCount digits : ℤ) + scale) := by rw [zpow_add₀ (by norm_num), zpow_natCast]
      _ ≤ 10 ^ (-400 : ℤ) := by
        gcongr
        · norm_num
        · omega
      _ ≤ 2 ^ (-1075 : ℤ) := by
        rw [zpow_neg, zpow_neg]
        exact inv_anti₀ (by positivity) two_zpow_le
  rw [doubleOf, if_neg pos.ne']
  dsimp only
  rw [if_neg notHuge, if_neg notTiny, ofScientific_of_rounds h pos rounds]

/-- The digits of the text of a double are made its size. -/
theorem doubleOf_eq {x : Float} (finite : x.isFinite = true) {n : Numeral}
    (size : n.size = ((Binary.ofFloat x).shortest .toEven).value) :
    doubleOf (natOfDigits (n.whole ++ n.fraction)) n.scale = (Binary.ofFloat x).toFloat := by
  rw [Numeral.size] at size
  by_cases zero : (Binary.ofFloat x).m = 0
  · have none : natOfDigits (n.whole ++ n.fraction) = 0 := by
      rw [Binary.shortest_of_zero zero, Dec.value, Nat.cast_zero, zero_mul] at size
      exact_mod_cast (mul_eq_zero.1 size).resolve_right (by positivity)
    rw [none, doubleOf, if_pos rfl, Binary.toFloat_of_zero zero]
  · have canonical := isCanonical_ofFloat finite (Nat.pos_of_ne_zero zero)
    have rounds := Binary.rounds_shortest canonical.pos .toEven
    rw [← size] at rounds
    have pos : 0 < natOfDigits (n.whole ++ n.fraction) := by
      refine Nat.pos_of_ne_zero fun none => ?_
      obtain ⟨least, -⟩ := canonical.bounds rounds
      rw [none, Nat.cast_zero, zero_mul] at least
      exact absurd least (not_le.2 (by positivity))
    exact doubleOf_of_rounds canonical pos rounds

/-- A finite double is read back. -/
theorem value_floatText {x : Float} (finite : x.isFinite = true) :
    (readNumber (floatText x)).1 = .pure (.float x) := by
  obtain ⟨n, negative, written, text, size, notWhole⟩ :=
    exists_writes_decimalText (isNegative x) ((Binary.ofFloat x).shortest .toEven)
  have text' : n.text = floatText x := by
    rw [text, floatText, if_pos finite, signed, negative]
    cases isNegative x <;> rfl
  rw [← text', readNumber_numeral written, Literal.pure]
  congr 1
  simp only [Numeral.value, notWhole, false_and, if_false, doubleOf_eq finite size,
    isFinite_toFloat finite, if_true, negative, signed_toFloat finite]

/-- A printed double that is read as any value is that double. -/
theorem toJson_float {x : Float} (finite : x.isFinite = true) (levels : Nat) :
    (Draft.printed (.float x)).toJson levels = .ok (.float x) := by
  rw [Draft.printed, if_pos finite, value_floatText finite]
  rfl

theorem read_float {x : Float} (finite : x.isFinite = true) (levels : Nat) :
    Codec.float.read levels (Draft.printed (.float x)) = .ok x := by
  rw [Draft.printed, if_pos finite, value_floatText finite]
  rfl

end DesignCode.Json
