import DesignCode.Text.Blank
import Mathlib.Data.List.DropRight
import Mathlib.Tactic.Common

/-!
# Texts between blanks

Trimming a text takes off what belongs to a class of characters at its two ends.  What is left stands in the
text between members of the class (`isTrimmed_trimWhile`), and it is the only part of the text that does
(`IsTrimmed.eq_trimWhile`).
-/

namespace DesignCode.Text

/-- A part of a text with members of a class before and behind it, and none at its own ends. -/
structure IsTrimmed (p : Char → Bool) (part cs : List Char) : Prop where
  around : ∃ before after, cs = before ++ (part ++ after) ∧ (∀ c ∈ before, p c = true) ∧
    ∀ c ∈ after, p c = true
  first : ∀ c ∈ part.head?, p c = false
  last : ∀ c ∈ part.getLast?, p c = false

variable {p : Char → Bool}

theorem dropWhile_of_first {w : List Char} (h : ∀ c ∈ w.head?, p c = false) : w.dropWhile p = w := by
  cases w with
  | nil => rfl
  | cons c w => simp [h c rfl]

theorem first_dropWhile (cs : List Char) : ∀ c ∈ (cs.dropWhile p).head?, p c = false := by
  intro c mem
  have ahead := cs.head?_dropWhile_not p
  simpa [Option.mem_def.1 mem] using ahead

theorem dropEndWhile_of_last {w : List Char} (h : ∀ c ∈ w.getLast?, p c = false) :
    dropEndWhile p w = w := by
  rw [dropEndWhile, dropWhile_of_first (by rwa [List.head?_reverse]), List.reverse_reverse]

theorem dropEndWhile_append {after : List Char} (h : ∀ c ∈ after, p c = true) (w : List Char) :
    dropEndWhile p (w ++ after) = dropEndWhile p w := by
  rw [dropEndWhile, List.reverse_append, List.dropWhile_append_of_pos, dropEndWhile]
  simpa using h

/-- A text has one trimmed part only. -/
theorem IsTrimmed.eq_trimWhile {part cs : List Char} (h : IsTrimmed p part cs) : trimWhile p cs = part := by
  obtain ⟨⟨before, after, rfl, blankBefore, blankAfter⟩, first, last⟩ := h
  rw [trimWhile, List.dropWhile_append_of_pos blankBefore]
  cases part with
  | nil =>
    rw [List.nil_append, List.dropWhile_eq_nil_iff.2 blankAfter]
    rfl
  | cons c part =>
    rw [dropWhile_of_first (w := c :: part ++ after) first, dropEndWhile_append blankAfter,
      dropEndWhile_of_last last]

theorem isTrimmed_of_none {cs : List Char} (h : ∀ c ∈ cs, p c = false) : IsTrimmed p cs cs where
  around := ⟨[], [], by simp⟩
  first := fun c mem => h c (List.mem_of_mem_head? mem)
  last := fun c mem => h c (List.mem_of_mem_getLast? mem)

theorem isTrimmed_trimWhile (p : Char → Bool) (cs : List Char) : IsTrimmed p (trimWhile p cs) cs := by
  have front : cs.takeWhile p ++ cs.dropWhile p = cs := List.takeWhile_append_dropWhile
  have back : trimWhile p cs ++ ((cs.dropWhile p).reverse.takeWhile p).reverse = cs.dropWhile p := by
    rw [trimWhile, dropEndWhile, ← List.reverse_append, List.takeWhile_append_dropWhile,
      List.reverse_reverse]
  refine ⟨⟨cs.takeWhile p, _, by rw [back, front], fun c mem => List.mem_takeWhile_imp mem, ?_⟩, ?_, ?_⟩
  · intro c mem
    exact List.mem_takeWhile_imp (List.mem_reverse.1 mem)
  · intro c mem
    -- a first character left after both trims is the first one left after the first trim
    refine first_dropWhile cs c ?_
    rw [← back, List.head?_append, Option.mem_def.1 mem]
    rfl
  · intro c mem
    rw [trimWhile, dropEndWhile, List.getLast?_reverse] at mem
    exact first_dropWhile _ c mem

end DesignCode.Text
