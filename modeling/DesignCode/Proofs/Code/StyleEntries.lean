import DesignCode.Proofs.Code.Style
import DesignCode.Proofs.Script.Numeral
import DesignCode.Proofs.Script.StyleObject

/-!
# Style objects in strict scripts

In a strict script the value of a property is a string literal or a decimal literal.  Read like this, a
style object gives back the entries of its map with the texts that they display, unless a value looks like
a number with a zero in front of its digits: such a value is written bare and is no literal there
(`readStyle?_styleObject`).
-/

namespace DesignCode

/-! ### The strict reader -/

namespace Script

/-- The text of a value: that of a string literal, or a decimal literal itself. -/
def Term.styleText? : Term → Option (List Char)
  | .text cs => some cs
  | .word cs => if isDecimal cs then some cs else none
  | _ => none

/-- The keys of an object with the texts of their values. -/
def Term.styleEntries? : Term → Option (List (List Char × List Char))
  | .object members => members.mapM fun m => m.2.styleText?.map fun value => (m.1, value)
  | _ => none

/-- Reads a text as a style object of a strict script. -/
def readStyle? (cs : List Char) : Option (List (List Char × List Char)) :=
  (Term.read? cs).bind Term.styleEntries?

end Script

/-- Whether a value looks like a number with a zero in front of its digits. -/
def StyleValue.isPadded : StyleValue → Bool
  | .number _ => false
  | .text s => isNumeral s.toList && Script.isPadded s.toList

/-! ### Values and entries -/

namespace StyleValue

theorem isDecimal_display {v : StyleValue} (h : v.isNumeric = true) :
    Script.isDecimal v.display.toList = !v.isPadded := by
  cases v with
  | number x => exact Css.isDecimal_number x
  | text s =>
    have numeral : isNumeral s.toList = true := h
    show Script.isDecimal s.toList = !(isNumeral s.toList && Script.isPadded s.toList)
    rw [isDecimal_of_isNumeral numeral, numeral, Bool.true_and]

theorem not_isPadded {v : StyleValue} (h : v.isNumeric = false) : v.isPadded = false := by
  cases v with
  | number x => rfl
  | text s =>
    have word : isNumeral s.toList = false := h
    rw [isPadded, word, Bool.false_and]

theorem styleText?_term (v : StyleValue) :
    v.term.styleText? = if v.isPadded then none else some v.display.toList := by
  unfold term
  split_ifs with numeric padded padded
  · rw [Script.Term.styleText?, isDecimal_display numeric, padded]
    rfl
  · rw [Bool.not_eq_true] at padded
    rw [Script.Term.styleText?, isDecimal_display numeric, padded]
    rfl
  · rw [Bool.not_eq_true] at numeric
    exact absurd (not_isPadded numeric ▸ padded) (by decide)
  · rfl

end StyleValue

theorem mapM_ite_none {α β : Type} (fails : α → Bool) (f : α → β) (xs : List α) :
    (xs.mapM fun x => if fails x then none else some (f x)) =
      if xs.any fails then none else some (xs.map f) := by
  induction xs with
  | nil => rfl
  | cons x xs ih =>
    rw [List.mapM_cons, ih, List.any_cons]
    cases fails x <;> cases xs.any fails <;> rfl

theorem readStyle?_styleObject (css : StyleMap) :
    Script.readStyle? (Script.styleObject css) =
      if css.entries.any (fun e => e.2.isPadded) then none
      else some (css.entries.map fun e => (e.1.toList, e.2.display.toList)) := by
  have entry : ∀ e : String × StyleValue,
      (e.2.term.styleText?.map fun value => (e.1.toList, value)) =
        if e.2.isPadded then none else some (e.1.toList, e.2.display.toList) := by
    intro e
    rw [StyleValue.styleText?_term]
    split_ifs <;> rfl
  rw [Script.readStyle?, css.reads_styleObject.read?, Option.bind_some, StyleMap.term,
    Script.Term.styleEntries?, List.mapM_map, ← mapM_ite_none]
  exact congrArg (css.entries.mapM ·) (funext entry)

/-- A strict script reads a style object as the entries of its map, in their order and with the texts that
they display, exactly if no value looks like a number with a zero in front of its digits. -/
theorem readStyle?_styleObject_iff (css : StyleMap) :
    Script.readStyle? (Script.styleObject css) =
        some (css.entries.map fun e => (e.1.toList, e.2.display.toList)) ↔
      ∀ e ∈ css.entries, e.2.isPadded = false := by
  rw [readStyle?_styleObject]
  split_ifs with padded
  · obtain ⟨e, he, hp⟩ := List.any_eq_true.1 padded
    refine ⟨fun h => by simp at h, fun none => ?_⟩
    exact absurd (none e he ▸ hp) (by decide)
  · refine ⟨fun _ e he => ?_, fun _ => rfl⟩
    by_contra hp
    exact padded (List.any_eq_true.2 ⟨e, he, by simpa using hp⟩)

/-- A text in a font whose name looks like a number with zeros in front of it. -/
def numberedFont : Tree Node :=
  .node { id := "1", name := "Agent", kind := .text
          text := some { characters := "Bond", fontFamily := some "007" } } []

/-- The style of a text in such a font is no style object of a strict script. -/
theorem numberedFont_style_rejected :
    Script.readStyle? (Script.styleObject (Node.style {} {} numberedFont)) = none := by
  have font : (Node.style {} {} numberedFont).get? "font-family" = some (.text "007") := by
    rw [Node.style_eq, OrderedMap.get?_sortKeys, (Node.isDivided_partStyle {} {} _).get?_ofList
      (Node.Part.mem_all .text) (by decide)]
    rfl
  have padded : (Node.style {} {} numberedFont).entries.any (fun e => e.2.isPadded) = true :=
    List.any_eq_true.2 ⟨_, (OrderedMap.get?_eq_some_iff _).1 font, by decide⟩
  rw [readStyle?_styleObject, if_pos padded]

end DesignCode
