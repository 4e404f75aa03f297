import DesignCode.Proofs.Script.Term
import DesignCode.Proofs.Text.Moved

/-!
# Reading style maps

The object literal of a style map is read as an object with the keys of the map and with its values,
in their order (`reads_styleObject`).  A value is read as a string literal of its text, or as the word
that it is if it looks like a number.  The literal stands on one line, whatever the values are
(`noBreak_styleObject`).
-/

namespace DesignCode

open Script (IsWord Reads Term isWordChar)

/-! ### Numbers are words -/

theorem isWordChar_of_isDigit {c : Char} (h : c.isDigit = true) : isWordChar c = true := by
  simp [isWordChar, h]

namespace Decimal

theorem isWord_digitChars (n : Nat) : IsWord (digitChars n) :=
  ⟨Nat.toDigits_ne_nil, fun _ hc =>
    isWordChar_of_isDigit (Nat.isDigit_of_mem_toDigits (by decide) (by decide) hc)⟩

theorem isWord_pointed {ds : List Char} (h : IsWord ds) (places : Nat) : IsWord (pointed ds places) := by
  unfold pointed
  split_ifs with hp
  · exact h
  · have padded : ∀ c ∈ List.replicate (places + 1 - ds.length) '0' ++ ds, isWordChar c = true := by
      intro c hc
      rcases List.mem_append.1 hc with hc | hc
      · rw [List.eq_of_mem_replicate hc]
        decide
      · exact h.2 c hc
    refine ⟨by simp, ?_⟩
    intro c hc
    rcases List.mem_append.1 hc with hc | hc
    · exact padded c (List.mem_of_mem_take hc)
    · rcases List.mem_cons.1 hc with rfl | hc
      · decide
      · exact padded c (List.mem_of_mem_drop hc)

theorem isWord_plain (d : Dec) : IsWord d.plain := by
  unfold Dec.plain
  split_ifs
  · exact isWord_digitChars _
  · exact isWord_pointed (isWord_digitChars _) _

theorem isWord_signed (x : Float) {text : List Char} (h : IsWord text) : IsWord (signed x text) := by
  unfold signed
  split_ifs
  · refine ⟨by simp, ?_⟩
    intro c hc
    rcases List.mem_cons.1 hc with rfl | hc
    · decide
    · exact h.2 c hc
  · exact h

end Decimal

theorem Css.isWord_number (v : Float) : IsWord (Css.number v).toList := by
  unfold Css.number
  split_ifs with h
  · rw [String.toList_ofList, Decimal.shortest, if_pos h.1]
    exact Decimal.isWord_signed v (Decimal.isWord_plain _)
  · decide

namespace StyleValue

theorem isWord_of_isUnsignedNumeral {cs : List Char} (h : isUnsignedNumeral cs = true) :
    IsWord cs := by
  simp only [isUnsignedNumeral, decide_eq_true_eq, List.all_eq_true] at h
  refine ⟨h.1, ?_⟩
  intro c hc
  rcases h.2.1 c hc with hd | hd <;> simp [isWordChar, hd]

theorem isWord_of_isNumeral {cs : List Char} (h : isNumeral cs = true) : IsWord cs := by
  unfold isNumeral at h
  split at h
  · have word := isWord_of_isUnsignedNumeral h
    refine ⟨by simp, ?_⟩
    intro c hc
    rcases List.mem_cons.1 hc with rfl | hc
    · decide
    · exact word.2 c hc
  · exact isWord_of_isUnsignedNumeral h

/-- The term of a value: a word if it looks like a number, else a string literal. -/
def term (v : StyleValue) : Term :=
  if v.isNumeric then .word v.display.toList else .text v.display.toList

theorem isWord_display {v : StyleValue} (h : v.isNumeric = true) : IsWord v.display.toList := by
  cases v with
  | number x => exact Css.isWord_number x
  | text s => exact isWord_of_isNumeral h

theorem reads_styleValue (v : StyleValue) : Reads (Script.styleValue v) v.term := by
  unfold Script.styleValue term
  split_ifs with h
  · exact Script.reads_word (isWord_display h)
  · exact Script.reads_literal _

end StyleValue

/-- The term of a style map: its entries as the members of an object. -/
def StyleMap.term (css : StyleMap) : Term :=
  .object (css.entries.map fun e => (e.1.toList, e.2.term))

theorem StyleMap.reads_styleObject (css : StyleMap) : Reads (Script.styleObject css) css.term :=
  Script.reads_object (k := fun e : String × StyleValue => e.1.toList) css.entries
    fun e _ => e.2.reads_styleValue

/-! ### One line -/

theorem Markup.isBreak_of_endsLine {c : Char} (h : endsLine c = false) : Text.isBreak c = false := by
  simp only [endsLine, decide_eq_false_iff_not, not_or] at h
  simp [Text.isBreak, h.1, h.2.1]

namespace Script

open Markup (endsLine)
open Text (isBreak)

open scoped Text.ByMember in
theorem endsLine_escapedChar (c : Char) : ∀ d ∈ escapedChar c, endsLine d = false := by
  unfold escapedChar
  split_ifs with backslash quote lineFeed carriageReturn lineSeparator paragraphSeparator
  all_goals try decide
  intro d hd
  rw [List.mem_singleton.1 hd, endsLine]
  simp [lineFeed, carriageReturn, lineSeparator, paragraphSeparator]

/-- A literal holds no character that ends a line of a script. -/
theorem endsLine_literal (cs : List Char) : ∀ d ∈ literal cs, endsLine d = false := by
  intro d hd
  simp only [literal, List.cons_append, List.mem_cons, List.mem_append, List.not_mem_nil,
    or_false] at hd
  rcases hd with rfl | hd | rfl
  · decide
  · obtain ⟨c, -, hc⟩ := List.mem_flatMap.1 hd
    exact endsLine_escapedChar c d hc
  · decide

theorem noBreak_literal (cs : List Char) : ∀ d ∈ literal cs, isBreak d = false := fun d hd =>
  Markup.isBreak_of_endsLine (endsLine_literal cs d hd)

theorem noBreak_of_isWord {w : List Char} (h : IsWord w) : ∀ d ∈ w, isBreak d = false := by
  intro d hd
  by_contra hb
  simp only [isBreak, Bool.not_eq_false, decide_eq_true_eq] at hb
  have word := h.2 d hd
  rcases hb with rfl | rfl <;> exact absurd word (by decide)

theorem noBreak_key (cs : List Char) : ∀ d ∈ key cs, isBreak d = false := by
  unfold key
  split_ifs with h
  · exact noBreak_of_isWord (isWord_of_isIdentifier h)
  · exact noBreak_literal cs

theorem noBreak_joined {sep : List Char} (hs : ∀ d ∈ sep, isBreak d = false)
    {parts : List (List Char)} (h : ∀ p ∈ parts, ∀ d ∈ p, isBreak d = false) :
    ∀ d ∈ Text.joined sep parts, isBreak d = false := by
  cases parts with
  | nil => simp
  | cons p parts =>
    intro d hd
    rw [Text.joined_cons, List.mem_append, List.mem_flatMap] at hd
    rcases hd with hd | ⟨q, hq, hd⟩
    · exact h p List.mem_cons_self d hd
    · rcases List.mem_append.1 hd with hd | hd
      · exact hs d hd
      · exact h q (List.mem_cons_of_mem _ hq) d hd

open scoped Text.ByMember in
theorem noBreak_object {entries : List (List Char × List Char)}
    (h : ∀ e ∈ entries, ∀ d ∈ e.2, isBreak d = false) :
    ∀ d ∈ object entries, isBreak d = false := by
  unfold object
  split_ifs
  · decide
  · have parts : ∀ p ∈ entries.map (fun e => key e.1 ++ ':' :: ' ' :: e.2),
        ∀ d ∈ p, isBreak d = false := by
      intro p hp d hd
      obtain ⟨e, he, rfl⟩ := List.mem_map.1 hp
      simp only [List.mem_append, List.mem_cons] at hd
      rcases hd with hd | rfl | rfl | hd
      · exact noBreak_key e.1 d hd
      · decide
      · decide
      · exact h e he d hd
    intro d hd
    rcases List.mem_append.1 hd with hd | hd
    · rcases List.mem_append.1 hd with hd | hd
      · exact (by decide : ∀ d ∈ ['\x7b', ' '], isBreak d = false) d hd
      · exact noBreak_joined (by decide) parts d hd
    · exact (by decide : ∀ d ∈ [' ', '\x7d'], isBreak d = false) d hd

/-- The literal of a style map stands on one line. -/
theorem noBreak_styleObject (css : StyleMap) : ∀ d ∈ styleObject css, isBreak d = false := by
  refine noBreak_object ?_
  intro e he
  obtain ⟨entry, -, rfl⟩ := List.mem_map.1 he
  show ∀ d ∈ styleValue entry.2, isBreak d = false
  unfold styleValue
  split_ifs with numeric
  · exact noBreak_of_isWord (StyleValue.isWord_display numeric)
  · exact noBreak_literal _

end Script

end DesignCode
