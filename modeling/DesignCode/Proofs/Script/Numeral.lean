import Mathlib.Tactic.SplitIfs
import DesignCode.Css.StyleMap
import DesignCode.Proofs.Text.Lines

/-!
# Decimal literals of strict scripts

Strict scripts have no numbers with a zero in front of other digits.  `isDecimal` tells which texts
are decimal literals there.  Every number of a style is written as one (`isDecimal_number`); a text
that looks like a number is one unless it begins with such a zero (`isDecimal_of_isNumeral`).
-/

namespace DesignCode

namespace Script

/-- Whether a text is digits, a zero in front only if it stands alone. -/
def isWhole (cs : List Char) : Bool :=
  cs ≠ [] ∧ cs.all Char.isDigit ∧ (cs.head? ≠ some '0' ∨ cs = ['0'])

/-- Whether a text is empty or a point with digits behind it. -/
def isFraction : List Char → Bool
  | [] => true
  | c :: cs => c = '.' ∧ cs ≠ [] ∧ cs.all Char.isDigit

/-- Whether a text is a decimal literal without a sign. -/
def isUnsignedDecimal (cs : List Char) : Bool :=
  isWhole (cs.takeWhile Char.isDigit) && isFraction (cs.dropWhile Char.isDigit)

/-- Whether a text is a decimal literal of a strict script, maybe with a minus sign. -/
def isDecimal : List Char → Bool
  | '-' :: cs => isUnsignedDecimal cs
  | cs => isUnsignedDecimal cs

/-- Whether a text begins with a zero in front of another digit. -/
def isUnsignedPadded : List Char → Bool
  | '0' :: c :: _ => c.isDigit
  | _ => false

/-- Whether the digits of a text, which may have a minus sign, begin with a zero before another. -/
def isPadded : List Char → Bool
  | '-' :: cs => isUnsignedPadded cs
  | cs => isUnsignedPadded cs

/-! ### Whole parts and fractions -/

theorem isWhole_iff {cs : List Char} :
    isWhole cs = true ↔
      cs ≠ [] ∧ (∀ c ∈ cs, c.isDigit = true) ∧ (cs.head? ≠ some '0' ∨ cs = ['0']) := by
  simp [isWhole]

theorem isWhole_take {cs : List Char} (h : isWhole cs = true) (long : 2 ≤ cs.length) {k : Nat}
    (pos : 0 < k) : isWhole (cs.take k) = true := by
  obtain ⟨-, digits, zero⟩ := isWhole_iff.1 h
  have first : cs.head? ≠ some '0' := by
    rcases zero with first | rfl
    · exact first
    · exact absurd long (by decide)
  refine isWhole_iff.2 ⟨?_, fun c hc => digits c (List.mem_of_mem_take hc), .inl ?_⟩
  · rw [Ne, List.take_eq_nil_iff, ← List.length_eq_zero_iff]
    omega
  · rwa [List.head?_take, if_neg (by omega)]

theorem head?_of_isFraction {cs : List Char} (h : isFraction cs = true) :
    ∀ c ∈ cs.head?, c.isDigit = false := by
  cases cs with
  | nil => simp
  | cons c cs =>
    simp only [isFraction, decide_eq_true_eq] at h
    simp [h.1]

theorem isUnsignedDecimal_append {whole fraction : List Char} (hw : isWhole whole = true)
    (hf : isFraction fraction = true) : isUnsignedDecimal (whole ++ fraction) = true := by
  obtain ⟨take, drop⟩ := Text.cut_append (isWhole_iff.1 hw).2.1 fraction (head?_of_isFraction hf)
  rw [isUnsignedDecimal, take, drop, hw, hf]
  rfl

theorem isUnsignedDecimal_of_isWhole {cs : List Char} (h : isWhole cs = true) :
    isUnsignedDecimal cs = true := by
  have empty : isFraction [] = true := rfl
  have appended := isUnsignedDecimal_append h empty
  rwa [List.append_nil] at appended

theorem isDecimal_of_isUnsignedDecimal {cs : List Char} (h : isUnsignedDecimal cs = true) :
    isDecimal cs = true := by
  unfold isDecimal
  split
  · -- no literal without a sign begins with one
    exact absurd h (by simp [isUnsignedDecimal, isWhole])
  · exact h

end Script

open Script

/-! ### Numbers -/

namespace Decimal

theorem head?_toDigits {n : Nat} (pos : 0 < n) : (Nat.toDigits 10 n).head? ≠ some '0' := by
  induction n using Nat.strongRecOn with
  | ind n ih =>
    by_cases small : n < 10
    · have digits : ∀ d < 10, 0 < d → d.digitChar ≠ '0' := by decide
      rw [Nat.toDigits_of_lt_base small]
      simpa using digits n small pos
    · have first := ih (n / 10) (by omega) (by omega)
      rw [Nat.toDigits_of_base_le (by decide) (by omega), List.head?_append]
      cases more : Nat.toDigits 10 (n / 10) with
      | nil => exact absurd more Nat.toDigits_ne_nil
      | cons c cs => simpa [more] using first

theorem isWhole_digitChars (n : Nat) : isWhole (digitChars n) = true := by
  refine isWhole_iff.2 ⟨Nat.toDigits_ne_nil, ?_, ?_⟩
  · exact fun c hc => Nat.isDigit_of_mem_toDigits (by decide) (by decide) hc
  · cases n with
    | zero => exact .inr rfl
    | succ n => exact .inl (head?_toDigits (by omega))

theorem isFraction_drop {ds : List Char} (digits : ∀ c ∈ ds, c.isDigit = true) {k : Nat}
    (inside : k < ds.length) : isFraction ('.' :: ds.drop k) = true := by
  have rest : ds.drop k ≠ [] := by
    rw [Ne, List.drop_eq_nil_iff]
    omega
  have all : ∀ c ∈ ds.drop k, c.isDigit = true := fun c hc => digits c (List.mem_of_mem_drop hc)
  simpa [isFraction, rest] using all

theorem isUnsignedDecimal_pointed {ds : List Char} (h : isWhole ds = true) (places : Nat) :
    isUnsignedDecimal (pointed ds places) = true := by
  obtain ⟨ne, digits, -⟩ := isWhole_iff.1 h
  have pos : 0 < ds.length := List.length_pos_iff.2 ne
  unfold pointed
  split_ifs with whole
  · exact isUnsignedDecimal_of_isWhole h
  · by_cases short : ds.length ≤ places
    · -- zeros are put in front until one digit is left of the point, which is then a zero
      have padded : ∀ c ∈ List.replicate (places + 1 - ds.length) '0' ++ ds, c.isDigit = true := by
        intro c hc
        rcases List.mem_append.1 hc with hc | hc
        · rw [List.eq_of_mem_replicate hc]
          decide
        · exact digits c hc
      have length : (List.replicate (places + 1 - ds.length) '0' ++ ds).length - places = 1 := by
        rw [List.length_append, List.length_replicate]
        omega
      simp only [length]
      refine isUnsignedDecimal_append ?_ (isFraction_drop padded ?_)
      · obtain ⟨zeros, hz⟩ : ∃ zeros, places + 1 - ds.length = zeros + 1 :=
          ⟨places - ds.length, by omega⟩
        rw [hz, List.replicate_succ]
        rfl
      · omega
    · -- the digits left of the point are the first of `ds`, without a zero in front
      have none : places + 1 - ds.length = 0 := by omega
      simp only [none, List.replicate_zero, List.nil_append]
      refine isUnsignedDecimal_append (isWhole_take h ?_ ?_) (isFraction_drop digits ?_)
      all_goals omega

theorem isUnsignedDecimal_plain (d : Dec) : isUnsignedDecimal d.plain = true := by
  unfold Dec.plain
  split_ifs
  · exact isUnsignedDecimal_of_isWhole (isWhole_digitChars _)
  · exact isUnsignedDecimal_pointed (isWhole_digitChars _) _

theorem isDecimal_signed (x : Float) {text : List Char} (h : isUnsignedDecimal text = true) :
    isDecimal (signed x text) = true := by
  unfold signed
  split_ifs
  · exact h
  · exact isDecimal_of_isUnsignedDecimal h

end Decimal

/-- Every number of a style is written as a decimal literal. -/
theorem Css.isDecimal_number (v : Float) : isDecimal (Css.number v).toList = true := by
  unfold Css.number
  split_ifs with finite
  · rw [String.toList_ofList, Decimal.shortest, if_pos finite.1]
    exact Decimal.isDecimal_signed v (Decimal.isUnsignedDecimal_plain _)
  · decide

/-! ### Texts that look like numbers -/

namespace StyleValue

theorem isUnsignedNumeral_iff {cs : List Char} :
    isUnsignedNumeral cs = true ↔
      cs ≠ [] ∧ (∀ c ∈ cs, c.isDigit = true ∨ c = '.') ∧ cs.count '.' ≤ 1 ∧
        cs.head? ≠ some '.' ∧ cs.getLast? ≠ some '.' := by
  simp [isUnsignedNumeral]

/-- What follows the first digits of a numeral is a point with further digits, if anything. -/
theorem isFraction_of_isUnsignedNumeral {cs : List Char} (h : isUnsignedNumeral cs = true) :
    isFraction (cs.dropWhile Char.isDigit) = true := by
  obtain ⟨-, all, points, -, last⟩ := isUnsignedNumeral_iff.1 h
  have cut := List.takeWhile_append_dropWhile (p := Char.isDigit) (l := cs)
  have ends := List.head?_dropWhile_not Char.isDigit cs
  cases rest : cs.dropWhile Char.isDigit with
  | nil => rfl
  | cons c rest' =>
    rw [rest] at cut ends
    have other : c.isDigit = false := by simpa using ends
    have mem : ∀ d ∈ c :: rest', d ∈ cs := fun d hd => cut ▸ List.mem_append_right _ hd
    obtain rfl : c = '.' := by simpa [other] using all c (mem c List.mem_cons_self)
    -- this is the only point, and it is not the last character
    have single : rest'.count '.' = 0 := by
      rw [← cut, List.count_append, List.count_cons_self] at points
      omega
    have digits : ∀ d ∈ rest', d.isDigit = true := by
      intro d hd
      refine (all d (mem d (List.mem_cons_of_mem _ hd))).resolve_right ?_
      rintro rfl
      exact List.count_eq_zero.1 single hd
    have more : rest' ≠ [] := by
      rintro rfl
      rw [← cut, List.getLast?_concat] at last
      exact last rfl
    simpa [isFraction, more] using digits

theorem exists_cons_of_isUnsignedNumeral {cs : List Char} (h : isUnsignedNumeral cs = true) :
    ∃ c rest, cs = c :: rest ∧ c.isDigit = true := by
  obtain ⟨ne, all, -, first, -⟩ := isUnsignedNumeral_iff.1 h
  cases cs with
  | nil => exact absurd rfl ne
  | cons c rest =>
    refine ⟨c, rest, rfl, (all c List.mem_cons_self).resolve_right ?_⟩
    rintro rfl
    exact first rfl

theorem isUnsignedDecimal_eq {cs : List Char} (h : isUnsignedNumeral cs = true) :
    isUnsignedDecimal cs = !isUnsignedPadded cs := by
  obtain ⟨c, rest, rfl, hc⟩ := exists_cons_of_isUnsignedNumeral h
  have digits : ∀ d ∈ c :: rest.takeWhile Char.isDigit, d.isDigit = true := by
    intro d hd
    rcases List.mem_cons.1 hd with rfl | hd
    · exact hc
    · exact List.all_eq_true.1 List.all_takeWhile d hd
  rw [isUnsignedDecimal, isFraction_of_isUnsignedNumeral h, Bool.and_true,
    List.takeWhile_cons_of_pos hc, Bool.eq_iff_iff, isWhole_iff]
  by_cases zero : c = '0'
  · -- a zero is followed by a digit exactly if the whole part is longer than it
    subst zero
    cases rest with
    | nil => simp [isUnsignedPadded]
    | cons d rest => by_cases hd : d.isDigit = true <;> simp [isUnsignedPadded, hd]
  · have padded : isUnsignedPadded (c :: rest) = false := by
      unfold isUnsignedPadded
      split
      · next e => exact absurd (List.cons.inj e).1 zero
      · rfl
    simpa [padded, zero] using digits

/-- A text that looks like a number is a decimal literal unless it is padded with a zero. -/
theorem isDecimal_of_isNumeral {cs : List Char} (h : isNumeral cs = true) :
    isDecimal cs = !isPadded cs := by
  unfold isNumeral at h
  split at h
  · exact isUnsignedDecimal_eq h
  · next plain =>
    rw [isDecimal, isPadded]
    · exact isUnsignedDecimal_eq h
    · exact plain
    · exact plain

end StyleValue

end DesignCode
