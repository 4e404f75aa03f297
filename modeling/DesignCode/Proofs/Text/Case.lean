import Mathlib
import DesignCode.Text.Case
import DesignCode.Proofs.Text.Lines

/-!
# Case and the letters of ASCII

Mapping a character to upper case never gives a small letter of ASCII, and mapping a text to lower case never gives
a capital of ASCII, also where the character itself is none of ASCII.  Mathlib is imported whole, because no part of
it brings the lemmas on the case of characters.
-/

namespace DesignCode.Text

theorem isLower_iff {c : Char} : c.isLower = true ↔ 97 ≤ c.toNat ∧ c.toNat ≤ 122 := by
  simp [Char.isLower, UInt32.le_iff_toNat_le, ← Char.toNat_val]

theorem isUpper_iff {c : Char} : c.isUpper = true ↔ 65 ≤ c.toNat ∧ c.toNat ≤ 90 := by
  simp [Char.isUpper, UInt32.le_iff_toNat_le, ← Char.toNat_val]

/-- A run maps none of the characters beyond ASCII into the range from `lo` to `hi`. -/
def Run.avoids (r : Run) (lo hi : Nat) : Bool :=
  r.last < 0x80 ∨ (r.last : Int) + r.shift < lo ∨ (hi : Int) < r.first + r.shift

theorem mapped_not_between {runs : List Run} {lo hi : Nat} (hr : ∀ r ∈ runs, r.avoids lo hi = true)
    (hlo : 0 < lo) (hhi : hi < 0x80) {c : Char} (hc : 0x80 ≤ c.toNat) :
    ¬ (lo ≤ (mapped runs c).toNat ∧ (mapped runs c).toNat ≤ hi) := by
  rintro ⟨above, below⟩
  unfold mapped at above below
  cases found : runs.find? (·.covers c.toNat) with
  | none =>
    rw [found] at below
    simp only at below
    omega
  | some r =>
    rw [found] at above below
    simp only [Char.toNat_ofNat] at above below
    have covers := List.find?_some found
    have avoids := hr r (List.mem_of_find?_eq_some found)
    simp only [Run.covers, decide_eq_true_eq] at covers
    simp only [Run.avoids, decide_eq_true_eq] at avoids
    split_ifs at above below <;> omega

theorem isLower_of_mem_upperOf {c d : Char} (h : d ∈ upperOf c) : d.isLower = false := by
  have runs : ∀ r ∈ upperRuns, r.avoids 97 122 = true := by decide +kernel
  have long : ∀ e ∈ upperLong, ∀ n ∈ e.2, (Char.ofNat n).isLower = false := by decide +kernel
  unfold upperOf at h
  split_ifs at h with ascii
  · rw [List.mem_singleton.1 h]
    exact Char.isLower_toUpper_eq_false c
  · split at h
    · next ns found =>
      obtain ⟨n, hn, rfl⟩ := List.mem_map.1 h
      obtain ⟨l, l', entries, -⟩ := List.lookup_eq_some_iff.1 found
      exact long (c.toNat, ns) (by rw [entries]; simp) n hn
    · rw [List.mem_singleton.1 h]
      by_contra small
      rw [Bool.not_eq_false, isLower_iff] at small
      exact mapped_not_between runs (by decide) (by decide) (by omega) small

open scoped Text.ByMember in
theorem isUpper_of_mem_lowerOf {c d : Char} (h : d ∈ lowerOf c) : d.isUpper = false := by
  have runs : ∀ r ∈ lowerRuns, r.avoids 65 90 = true := by decide +kernel
  unfold lowerOf at h
  split_ifs at h with ascii dotted
  · rw [List.mem_singleton.1 h]
    exact Char.isUpper_toLower_eq_false c
  · exact (by decide : ∀ d ∈ ['i', '\u0307'], d.isUpper = false) d h
  · rw [List.mem_singleton.1 h]
    by_contra capital
    rw [Bool.not_eq_false, isUpper_iff] at capital
    exact mapped_not_between runs (by decide) (by decide) (by omega) capital

theorem isUpper_of_mem_lowerAfter (before cs : List Char) :
    ∀ d ∈ lowerAfter before cs, d.isUpper = false := by
  induction cs generalizing before with
  | nil => simp [lowerAfter]
  | cons c cs ih =>
    intro d hd
    rw [lowerAfter, List.mem_append] at hd
    rcases hd with hd | hd
    · split_ifs at hd
      · rw [List.mem_singleton.1 hd]
        decide
      · rw [List.mem_singleton.1 hd]
        decide
      · exact isUpper_of_mem_lowerOf hd
    · exact ih (c :: before) d hd

theorem isUpper_of_mem_lower {cs : List Char} : ∀ d ∈ lower cs, d.isUpper = false :=
  isUpper_of_mem_lowerAfter [] cs

end DesignCode.Text
