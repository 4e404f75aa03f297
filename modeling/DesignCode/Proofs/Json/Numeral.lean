import DesignCode.Json.Reader
import DesignCode.Proofs.Script.Numeral

/-!
# Numbers in JSON texts

`Numeral.text` puts the parts of a number together, and `takeNumeral` takes them off a text again
(`takeNumeral_text`).  All numbers that are printed are such texts (`intText_eq`,
`exists_numeral_floatText`), so a reader finds where they end.
-/

namespace DesignCode.Json

open Decimal Script

/-- Whether a text does not go on with a character of a number. -/
def EndsNumber (rest : List Char) : Prop :=
  ∀ c ∈ rest.head?, c.isDigit = false ∧ c ≠ '.' ∧ c ≠ 'e' ∧ c ≠ 'E'

/-! ### The parts of a number -/

def fractionText (ds : List Char) : List Char := if ds = [] then [] else '.' :: ds

def exponentText : Option (Bool × List Char) → List Char
  | none => []
  | some (negative, ds) => 'e' :: (if negative then '-' else '+') :: ds

namespace Numeral

/-- The parts of a number one behind the other. -/
def text (n : Numeral) : List Char :=
  (if n.negative then ['-'] else []) ++
    (n.whole ++ (fractionText n.fraction ++ exponentText n.exponent))

/-- The parts are digits where they have to be. -/
structure IsWritten (n : Numeral) : Prop where
  whole : isWhole n.whole = true
  fraction : ∀ c ∈ n.fraction, c.isDigit = true
  exponent : ∀ e ∈ n.exponent, e.2 ≠ [] ∧ ∀ c ∈ e.2, c.isDigit = true

end Numeral

theorem takeDigits_append {ds rest : List Char} (ne : ds ≠ []) (digits : ∀ c ∈ ds, c.isDigit = true)
    (ends : ∀ c ∈ rest.head?, c.isDigit = false) : takeDigits (ds ++ rest) = .ok (ds, rest) := by
  obtain ⟨taken, dropped⟩ := Text.cut_append digits rest ends
  rw [takeDigits, taken, dropped]
  cases ds with
  | nil => exact absurd rfl ne
  | cons d ds => rfl

theorem takeWhole_append {ds rest : List Char} (h : isWhole ds = true)
    (ends : ∀ c ∈ rest.head?, c.isDigit = false) : takeWhole (ds ++ rest) = .ok (ds, rest) := by
  obtain ⟨ne, digits, zero⟩ := isWhole_iff.1 h
  by_cases single : ds = ['0']
  · subst single
    cases rest with
    | nil => rfl
    | cons c rest =>
      have other : c.isDigit = false := ends c rfl
      simp [takeWhole, other]
  · -- a zero in front stands alone
    rw [takeWhole, takeDigits_append ne digits ends]
    intro c rest' same
    cases ds with
    | nil => exact absurd rfl ne
    | cons d ds =>
      obtain ⟨rfl, -⟩ := List.cons.inj same
      exact zero.elim (fun first => first rfl) single

theorem takeFraction_append {ds rest : List Char} (digits : ∀ c ∈ ds, c.isDigit = true)
    (ends : ∀ c ∈ rest.head?, c.isDigit = false ∧ c ≠ '.') :
    takeFraction (fractionText ds ++ rest) = .ok (ds, rest) := by
  by_cases none : ds = []
  · subst none
    rw [fractionText, if_pos rfl, List.nil_append, takeFraction]
    rintro rest' rfl
    exact (ends '.' rfl).2 rfl
  · rw [fractionText, if_neg none, List.cons_append, takeFraction]
    exact takeDigits_append none digits fun c mem => (ends c mem).1

theorem takeExponent_append {e : Option (Bool × List Char)} {rest : List Char}
    (digits : ∀ p ∈ e, p.2 ≠ [] ∧ ∀ c ∈ p.2, c.isDigit = true) (ends : EndsNumber rest) :
    takeExponent (exponentText e ++ rest) = .ok (e, rest) := by
  cases e with
  | none =>
    cases rest with
    | nil => rfl
    | cons c rest =>
      obtain ⟨-, -, lower, upper⟩ := ends c rfl
      simp [exponentText, takeExponent, lower, upper]
  | some e =>
    obtain ⟨negative, ds⟩ := e
    obtain ⟨ne, all⟩ := digits _ rfl
    have taken := takeDigits_append ne all fun c mem => (ends c mem).1
    cases negative <;> simp [exponentText, takeExponent, taken, Except.map]

/-- A number is taken off a text part by part. -/
theorem takeNumeral_text {n : Numeral} (h : n.IsWritten) {rest : List Char} (ends : EndsNumber rest) :
    takeNumeral (n.text ++ rest) = .ok (n, rest) := by
  obtain ⟨negative, whole, fraction, exponent⟩ := n
  obtain ⟨isWhole, digits, exponentDigits⟩ := h
  have behindFraction :
      ∀ c ∈ (exponentText exponent ++ rest).head?, c.isDigit = false ∧ c ≠ '.' := by
    cases exponent with
    | none => exact fun c mem => ⟨(ends c mem).1, (ends c mem).2.1⟩
    | some e => simp [exponentText]
  have behindWhole :
      ∀ c ∈ (fractionText fraction ++ (exponentText exponent ++ rest)).head?, c.isDigit = false := by
    by_cases none : fraction = []
    · rw [fractionText, if_pos none]
      exact fun c mem => (behindFraction c mem).1
    · simp [fractionText, none]
  have wholeTaken := takeWhole_append isWhole behindWhole
  have fractionTaken := takeFraction_append digits behindFraction
  have exponentTaken := takeExponent_append exponentDigits ends
  cases negative with
  | true =>
    simp [takeNumeral, Numeral.text, wholeTaken, fractionTaken, exponentTaken, bind, Except.bind,
      pure, Except.pure]
  | false =>
    cases whole with
    | nil => exact absurd rfl (isWhole_iff.1 isWhole).1
    | cons c cs =>
      have unsigned : c ≠ '-' := by
        rintro rfl
        exact absurd ((isWhole_iff.1 isWhole).2.1 '-' List.mem_cons_self) (by decide)
      rw [List.cons_append] at wholeTaken
      simp [takeNumeral, Numeral.text, unsigned, wholeTaken, fractionTaken, exponentTaken, bind,
        Except.bind, pure, Except.pure]

/-- The text of a number begins with a minus sign or a digit. -/
theorem exists_cons_text {n : Numeral} (h : n.IsWritten) :
    ∃ c cs, n.text = c :: cs ∧ (c = '-' ∨ c.isDigit = true) := by
  obtain ⟨negative, whole, fraction, exponent⟩ := n
  cases negative with
  | true => exact ⟨'-', _, rfl, .inl rfl⟩
  | false =>
    obtain ⟨ne, digits, -⟩ := isWhole_iff.1 h.whole
    cases whole with
    | nil => exact absurd rfl ne
    | cons c cs => exact ⟨c, _, rfl, .inr (digits c List.mem_cons_self)⟩

theorem readNumber_text {n : Numeral} (h : n.IsWritten) {rest : List Char} (ends : EndsNumber rest) :
    readNumber (n.text ++ rest) = (⟨n.value, none⟩, some rest) := by
  rw [readNumber, takeNumeral_text h ends]

/-! ### The numbers that are printed -/

theorem intText_eq (i : Int) :
    intText i = Numeral.text ⟨decide (i < 0), digitChars i.natAbs, [], none⟩ := by
  by_cases negative : i < 0 <;> simp [intText, Numeral.text, fractionText, exponentText, negative]

theorem isWritten_int (i : Int) :
    Numeral.IsWritten ⟨decide (i < 0), digitChars i.natAbs, [], none⟩ where
  whole := isWhole_digitChars _
  fraction := by simp
  exponent := by simp

/-- An unsigned decimal is a whole part with a fraction behind it. -/
theorem exists_parts {cs : List Char} (h : isUnsignedDecimal cs = true) :
    ∃ whole fraction, isWhole whole = true ∧ (∀ c ∈ fraction, c.isDigit = true) ∧
      cs = whole ++ fractionText fraction := by
  obtain ⟨whole, fraction⟩ := Bool.and_eq_true_iff.1 h
  have cut := List.takeWhile_append_dropWhile (p := Char.isDigit) (l := cs)
  cases behind : cs.dropWhile Char.isDigit with
  | nil =>
    rw [behind] at cut
    exact ⟨_, [], whole, by simp, cut.symm⟩
  | cons c ds =>
    rw [behind] at cut fraction
    simp only [isFraction, decide_eq_true_eq, List.all_eq_true] at fraction
    obtain ⟨rfl, ne, all⟩ := fraction
    exact ⟨_, ds, whole, all, by rw [fractionText, if_neg ne, cut]⟩

theorem exists_numeral_unsigned {cs : List Char} (h : isUnsignedDecimal cs = true)
    (negative : Bool) {e : Option (Bool × List Char)}
    (digits : ∀ p ∈ e, p.2 ≠ [] ∧ ∀ c ∈ p.2, c.isDigit = true) :
    ∃ n : Numeral, n.IsWritten ∧
      n.text = (if negative then ['-'] else []) ++ (cs ++ exponentText e) := by
  obtain ⟨whole, fraction, isWhole, all, rfl⟩ := exists_parts h
  exact ⟨⟨negative, whole, fraction, e⟩, ⟨isWhole, all, digits⟩, by simp [Numeral.text]⟩

/-- One digit, maybe with further ones behind a point. -/
theorem isUnsignedDecimal_mantissa {c : Char} {ds : List Char}
    (digits : ∀ d ∈ c :: ds, d.isDigit = true) :
    isUnsignedDecimal (c :: fractionText ds) = true := by
  obtain ⟨first, others⟩ := List.forall_mem_cons.1 digits
  have whole : isWhole [c] = true := by
    by_cases zero : c = '0' <;> simp [isWhole, first, zero]
  have fraction : isFraction (fractionText ds) = true := by
    by_cases none : ds = []
    · rw [fractionText, if_pos none]
      rfl
    · simpa [fractionText, none, isFraction] using others
  exact isUnsignedDecimal_append whole fraction

theorem exists_mantissa_scientific (d : Dec) :
    ∃ (cs : List Char) (e : Int), isUnsignedDecimal cs = true ∧
      d.scientific = cs ++ exponentText (some (decide (e < 0), digitChars e.natAbs)) := by
  obtain ⟨ne, digits, -⟩ := isWhole_iff.1 (isWhole_digitChars d.digits)
  have sign (e : Int) : (if 0 ≤ e then '+' else '-') = if decide (e < 0) then '-' else '+' := by
    by_cases negative : e < 0
    · simp [negative]
    · simp [negative, Int.not_lt.1 negative]
  rw [Dec.scientific]
  cases text : digitChars d.digits with
  | nil => exact absurd text ne
  | cons c ds =>
    rw [text] at digits
    refine ⟨_, d.exp + ((c :: ds).length : Int) - 1, isUnsignedDecimal_mantissa digits, ?_⟩
    simp only [sign]
    cases ds <;> rfl

/-- The text of a decimal is an unsigned one, maybe with an exponent behind it. -/
theorem exists_exponent_decimalText (d : Dec) :
    ∃ cs e, isUnsignedDecimal cs = true ∧ decimalText d = cs ++ exponentText e ∧
      ∀ p ∈ e, p.2 ≠ [] ∧ ∀ c ∈ p.2, c.isDigit = true := by
  rw [decimalText]
  split_ifs with near whole
  · refine ⟨d.plain ++ ['.', '0'], none, ?_, (List.append_nil _).symm, by simp⟩
    rw [Dec.plain, if_pos whole]
    exact isUnsignedDecimal_append (isWhole_digitChars _) rfl
  · exact ⟨d.plain, none, isUnsignedDecimal_plain d, (List.append_nil _).symm, by simp⟩
  · obtain ⟨cs, e, mantissa, text⟩ := exists_mantissa_scientific d
    obtain ⟨ne, digits, -⟩ := isWhole_iff.1 (isWhole_digitChars e.natAbs)
    refine ⟨cs, _, mantissa, text, ?_⟩
    intro p mem
    cases mem
    exact ⟨ne, digits⟩

theorem exists_numeral_floatText {x : Float} (finite : x.isFinite = true) :
    ∃ n : Numeral, n.IsWritten ∧ n.text = floatText x := by
  obtain ⟨cs, e, unsigned, text, digits⟩ :=
    exists_exponent_decimalText ((Binary.ofFloat x).shortest .toEven)
  obtain ⟨n, written, same⟩ := exists_numeral_unsigned unsigned (isNegative x) digits
  refine ⟨n, written, ?_⟩
  rw [same, floatText, if_pos finite, signed, text]
  cases isNegative x <;> rfl

end DesignCode.Json
