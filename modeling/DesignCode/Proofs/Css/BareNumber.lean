import DesignCode.Proofs.Decimal.Positional
import DesignCode.Proofs.OrderedMap
import DesignCode.Proofs.Script.StyleObject

/-!
# Numbers that stand bare in style objects

A number of a style is written as a minus sign or none, digits, and maybe a point with digits behind it; it has
no zero in front of other digits, and a sign only if one of its digits is no zero (`exists_isBare_number`).  Such a
text looks like a number, so that style objects do not tell a number from the text of the number
(`number_isBare`).
-/

namespace DesignCode

open Json (Numeral fractionText exponentText)
open Script (isWhole isWhole_iff)

/-! ### Digits of doubles -/

namespace Decimal

/-- A finite double other than zero has a mantissa. -/
theorem mantissa_pos {x : Float} (finite : x.isFinite = true) (nonzero : ¬ (x == 0) = true) :
    0 < (Binary.ofFloat x).m := by
  obtain ⟨s, m, e, pos, value⟩ := exists_unpack finite nonzero
  by_contra zero
  rw [unpack_eq finite, Binary.unpacked_of_zero (by omega)] at value
  cases value

theorem Binary.value_shortest_pos {x : Binary} (pos : 0 < x.m) (tie : Tie) :
    0 < (x.shortest tie).value := by
  refine lt_of_lt_of_le ?_ ((le_lower x).trans (rounds_shortest pos tie).lower_le)
  have least : (1 : ℚ) ≤ x.m := by exact_mod_cast pos
  have half : (0 : ℚ) < x.m - 1 / 2 := by linarith
  positivity

theorem textValue_parts {whole fraction : List Char} (hw : ∀ c ∈ whole, c.isDigit = true)
    (hf : ∀ c ∈ fraction, c.isDigit = true) :
    textValue (whole ++ fractionText fraction) =
      Json.natOfDigits (whole ++ fraction) / 10 ^ fraction.length := by
  by_cases none : fraction = []
  · subst none
    rw [fractionText, if_pos rfl, List.append_nil, textValue_digits hw]
    simp
  · rw [fractionText, if_neg none, textValue_append hw hf]

/-- A text with a value has a digit other than zero. -/
theorem exists_ne_zero_of_textValue {whole fraction : List Char} (hw : ∀ c ∈ whole, c.isDigit = true)
    (hf : ∀ c ∈ fraction, c.isDigit = true) (value : textValue (whole ++ fractionText fraction) ≠ 0) :
    ∃ d ∈ whole ++ fraction, d ≠ '0' := by
  by_contra! zeros
  have digits := List.eq_replicate_iff.2 ⟨rfl, zeros⟩
  have none := Json.natOfDigits_zeros_append (whole ++ fraction).length []
  rw [List.append_nil, ← digits] at none
  rw [textValue_parts hw hf, none] at value
  exact value (by simp [Json.natOfDigits])

end Decimal

/-! ### The shape of a number -/

namespace Css

open Decimal

/-- The parts of a number without an exponent, whose sign is not that of a zero. -/
structure IsBare (n : Numeral) : Prop where
  written : n.IsWritten
  exponent : n.exponent = none
  nonzero : n.negative = true → ∃ d ∈ n.whole ++ n.fraction, d ≠ '0'

theorem isBare_zero : IsBare ⟨false, ['0'], [], none⟩ where
  written := ⟨by decide, by simp, by simp⟩
  exponent := rfl
  nonzero := by simp

/-- Every number of a style has the parts of a bare number. -/
theorem exists_isBare_number (v : Float) : ∃ n, IsBare n ∧ (number v).toList = n.text := by
  unfold number
  split_ifs with given
  · obtain ⟨whole, fraction, isWhole, digits, text⟩ :=
      Json.exists_parts (isUnsignedDecimal_plain ((Binary.ofFloat v).shortest .away))
    have value := textValue_plain ((Binary.ofFloat v).shortest .away)
    have pos := Binary.value_shortest_pos (mantissa_pos given.1 given.2) .away
    rw [← value, text] at pos
    refine ⟨⟨isNegative v, whole, fraction, none⟩, ⟨⟨isWhole, digits, by simp⟩, rfl, fun _ => ?_⟩, ?_⟩
    · exact exists_ne_zero_of_textValue (isWhole_iff.1 isWhole).2.1 digits pos.ne'
    · rw [String.toList_ofList, Decimal.shortest, if_pos given.1, text]
      unfold signed
      split_ifs with negative <;> simp [Numeral.text, exponentText, negative]
  · exact ⟨_, isBare_zero, rfl⟩

/-- A bare number is no zero with a minus sign. -/
theorem IsBare.text_ne {n : Numeral} (h : IsBare n) : n.text ≠ ['-', '0'] := by
  obtain ⟨ne, digits, -⟩ := isWhole_iff.1 h.written.whole
  intro text
  cases sign : n.negative with
  | true =>
    obtain ⟨d, mem, nonzero⟩ := h.nonzero sign
    have digit : d.isDigit = true := (List.mem_append.1 mem).elim (digits d) (h.written.fraction d)
    have written : d ∈ n.text := by
      rcases List.mem_append.1 mem with mem | mem
      · simp [Numeral.text, mem]
      · simp [Numeral.text, fractionText, List.ne_nil_of_mem mem, mem]
    rw [text, List.mem_cons, List.mem_singleton] at written
    rcases written with rfl | rfl
    · exact absurd digit (by decide)
    · exact nonzero rfl
  | false =>
    rw [Numeral.text, sign] at text
    cases whole : n.whole with
    | nil => exact ne whole
    | cons c cs =>
      rw [whole] at text digits
      obtain rfl : c = '-' := (List.cons.inj text).1
      exact absurd (digits '-' List.mem_cons_self) (by decide)

end Css

/-! ### Texts that look like numbers -/

namespace StyleValue

theorem isUnsignedNumeral_parts {whole fraction : List Char} (hw : isWhole whole = true)
    (hf : ∀ c ∈ fraction, c.isDigit = true) :
    isUnsignedNumeral (whole ++ fractionText fraction) = true := by
  obtain ⟨ne, digits, -⟩ := isWhole_iff.1 hw
  have wholeFree : '.' ∉ whole := fun mem => absurd (digits '.' mem) (by decide)
  have fractionFree : '.' ∉ fraction := fun mem => absurd (hf '.' mem) (by decide)
  rw [isUnsignedNumeral_iff]
  by_cases none : fraction = []
  · rw [none, fractionText, if_pos rfl, List.append_nil]
    refine ⟨ne, fun c mem => .inl (digits c mem), ?_, ?_, ?_⟩
    · rw [List.count_eq_zero.2 wholeFree]
      omega
    · exact fun first => wholeFree (List.mem_of_mem_head? first)
    · exact fun last => wholeFree (List.mem_of_getLast? last)
  · rw [fractionText, if_neg none]
    refine ⟨by simp, ?_, ?_, ?_, ?_⟩
    · intro c mem
      rw [List.mem_append, List.mem_cons] at mem
      rcases mem with mem | rfl | mem
      · exact .inl (digits c mem)
      · exact .inr rfl
      · exact .inl (hf c mem)
    · rw [List.count_append, List.count_cons_self, List.count_eq_zero.2 wholeFree,
        List.count_eq_zero.2 fractionFree]
    · rw [List.head?_append_of_ne_nil _ ne]
      exact fun first => wholeFree (List.mem_of_mem_head? first)
    · rw [List.getLast?_append_of_ne_nil _ (List.cons_ne_nil _ _), List.getLast?_cons_of_ne_nil none]
      exact fun last => fractionFree (List.mem_of_getLast? last)

theorem isNumeral_text {n : Numeral} (h : n.IsWritten) (exponent : n.exponent = none) :
    isNumeral n.text = true := by
  have unsigned := isUnsignedNumeral_parts h.whole h.fraction
  obtain ⟨c, rest, first, digit⟩ := exists_cons_of_isUnsignedNumeral unsigned
  rw [Numeral.text, exponent, exponentText, List.append_nil]
  cases n.negative with
  | true => exact unsigned
  | false =>
    show isNumeral (n.whole ++ fractionText n.fraction) = true
    rw [isNumeral]
    · exact unsigned
    · intro cs same
      rw [first] at same
      obtain rfl : c = '-' := (List.cons.inj same).1
      exact absurd digit (by decide)

/-- The text of a number looks like a number. -/
theorem isNumeral_number (v : Float) : isNumeral (Css.number v).toList = true := by
  obtain ⟨n, bare, text⟩ := Css.exists_isBare_number v
  rw [text]
  exact isNumeral_text bare.written bare.exponent

/-! ### Numbers and their texts in style objects -/

/-- The text that a value displays, as a value. -/
def asText (v : StyleValue) : StyleValue := .text v.display

theorem isNumeric_asText (v : StyleValue) : v.asText.isNumeric = v.isNumeric := by
  cases v with
  | number x => exact isNumeral_number x
  | text s => rfl

theorem styleValue_asText (v : StyleValue) : Script.styleValue v.asText = Script.styleValue v := by
  rw [Script.styleValue, Script.styleValue, isNumeric_asText]
  rfl

end StyleValue

namespace StyleMap

/-- The same properties with the texts that their values display. -/
def asTexts (css : StyleMap) : StyleMap := css.mapValues StyleValue.asText

/-- A style object does not tell a value from the text that it displays. -/
theorem styleObject_asTexts (css : StyleMap) :
    Script.styleObject css.asTexts = Script.styleObject css := by
  have entries : css.asTexts.entries.map (fun e => (e.1.toList, Script.styleValue e.2)) =
      css.entries.map fun e => (e.1.toList, Script.styleValue e.2) := by
    simp [asTexts, OrderedMap.mapValues, Function.comp_def, StyleValue.styleValue_asText]
  rw [Script.styleObject, Script.styleObject, entries]

theorem styleObject_insert_congr {v w : StyleValue} (same : v.display = w.display) (css : StyleMap)
    (key : String) :
    Script.styleObject (css.insert key v) = Script.styleObject (css.insert key w) := by
  have asText : v.asText = w.asText := congrArg StyleValue.text same
  rw [← styleObject_asTexts, asTexts, OrderedMap.mapValues_insert, asText,
    ← OrderedMap.mapValues_insert, ← asTexts, styleObject_asTexts]

end StyleMap

/-- A number of a style, as it is written and as it stands in style objects. -/
structure StandsBare (v : Float) : Prop where
  /-- It is written with digits, maybe a point among them and maybe a minus sign before them, but without
  an exponent and without a zero in front of other digits. -/
  parts : ∃ n, Css.IsBare n ∧ (Css.number v).toList = n.text
  /-- It is never a zero with a sign. -/
  sign : Css.number v ≠ "-0"
  /-- The number and its text both look like numbers. -/
  numeric : StyleValue.isNumeric (.number v) = true
  numericText : StyleValue.isNumeric (.text (Css.number v)) = true
  /-- The number and its text are both written bare. -/
  value : Script.styleValue (.number v) = (Css.number v).toList
  valueText : Script.styleValue (.text (Css.number v)) = (Css.number v).toList
  /-- A style object does not tell the number from its text. -/
  object : ∀ (css : StyleMap) (key : String),
    Script.styleObject (css.insert key (.number v)) =
      Script.styleObject (css.insert key (.text (Css.number v)))

/-- Every number stands bare in style objects, and so does its text. -/
theorem number_isBare (v : Float) : StandsBare v := by
  have parts := Css.exists_isBare_number v
  have numeral : StyleValue.isNumeric (.text (Css.number v)) = true := StyleValue.isNumeral_number v
  have same : (StyleValue.number v).display = (StyleValue.text (Css.number v)).display := rfl
  have sign : Css.number v ≠ "-0" := by
    intro zero
    obtain ⟨n, isBare, text⟩ := parts
    exact isBare.text_ne (text.symm.trans (congrArg String.toList zero))
  exact
    { parts
      sign
      numeric := rfl
      numericText := numeral
      value := rfl
      valueText := if_pos numeral
      object := StyleMap.styleObject_insert_congr same }

end DesignCode
