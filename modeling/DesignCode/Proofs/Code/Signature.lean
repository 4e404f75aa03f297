import DesignCode.Code.Token
import DesignCode.Proofs.Css.StyleMap
import DesignCode.Proofs.Decimal.Sign
import DesignCode.Proofs.Script.StyleObject

/-!
# What signatures tell apart

A signature joins the facts about a look with bars.  Only the font family, which comes first, may have bars
of its own, so that the facts can be read off (`splitOn_signature`).  They are read as they are written: looks
with the same signature have the same declarations (`declarations_eq_of_signature_eq`).
-/

namespace DesignCode

/-- What a default stands for can be told if the default itself is not among the values. -/
theorem eq_of_getD_eq {α : Type} {a : α} {v w : Option α} (hv : v ≠ some a) (hw : w ≠ some a)
    (h : v.getD a = w.getD a) : v = w := by
  cases v with
  | none =>
    cases w with
    | none => rfl
    | some w => exact absurd (congrArg some h.symm) hw
  | some v =>
    cases w with
    | none => exact absurd (congrArg some h) hv
    | some w => exact congrArg some h

namespace Css

/-- A number as it stands in a signature, where one that is missing leaves nothing. -/
def numberOrNothing (v : Option Float) : String := (v.map number).getD ""

theorem not_mem_numberOrNothing {c : Char} (other : Script.isWordChar c = false) (v : Option Float) :
    c ∉ (numberOrNothing v).toList := by
  cases v with
  | none => exact List.not_mem_nil
  | some v => exact fun mem => absurd ((isWord_number v).2 c mem) (by simp [other])

theorem bar_not_mem_numberOrNothing (v : Option Float) : '|' ∉ (numberOrNothing v).toList :=
  not_mem_numberOrNothing (by decide) v

theorem numberOrNothing_inj {v w : Option Float} (h : numberOrNothing v = numberOrNothing w) :
    v.map number = w.map number := by
  have written (u : Option Float) : u.map number ≠ some "" := by
    intro empty
    obtain ⟨x, -, hx⟩ := Option.map_eq_some_iff.1 empty
    exact (isWord_number x).1 (by rw [hx]; rfl)
  exact eq_of_getD_eq (written v) (written w) h

/-- Lengths that are written with the same number are the same. -/
theorem map_px_eq {v w : Option Float} (h : v.map number = w.map number) : v.map px = w.map px := by
  have px_eq (u : Option Float) : u.map px = (u.map number).map (· ++ "px") := by
    cases u <;> rfl
  rw [px_eq, h, ← px_eq]

/-- So are those of them that are above zero, if they are proper numbers. -/
theorem map_px_filter_pos_eq {v w : Option Float}
    (hv : ∀ x ∈ v, x.isFinite = true ∧ ¬ (x == 0) = true)
    (hw : ∀ x ∈ w, x.isFinite = true ∧ ¬ (x == 0) = true) (h : v.map number = w.map number) :
    (v.filter (0 < ·)).map px = (w.filter (0 < ·)).map px := by
  cases v with
  | none =>
    obtain rfl : w = none := Option.map_eq_none_iff.1 h.symm
    rfl
  | some x =>
    obtain ⟨y, rfl, same⟩ := Option.map_eq_some_iff.1 h.symm
    have lengths : px x = px y := by rw [px, px, same]
    have sign : 0 < x ↔ 0 < y := pos_iff_of_number_eq (hv x rfl) (hw y rfl) same.symm
    by_cases pos : 0 < y
    · simp [Option.filter, sign.2 pos, pos, lengths]
    · simp [Option.filter, mt sign.1 pos, pos]

end Css

namespace TextContent

/-! ### Reading signatures -/

/-- What stands in a signature behind the font family. -/
def signatureFields (t : TextContent) (color : String) : List String :=
  [Css.numberOrNothing t.fontWeight, Css.numberOrNothing t.fontSize,
   Css.numberOrNothing t.lineHeight, Css.numberOrNothing t.letterSpacing, color,
   Css.numberOrNothing t.paragraphSpacing]

theorem signature_eq (t : TextContent) (color : String) :
    t.signature color = "|".intercalate (t.fontFamily.getD "" :: t.signatureFields color) := rfl

theorem bar_not_mem_signatureFields (t : TextContent) {color : String} (bar : '|' ∉ color.toList) :
    ∀ f ∈ (t.signatureFields color).map String.toList, '|' ∉ f := by
  simp [signatureFields, bar, Css.bar_not_mem_numberOrNothing]

/-- The fields of a signature behind the parts of the font family. -/
theorem splitOn_signature (t : TextContent) {color : String} (bar : '|' ∉ color.toList) :
    (t.signature color).toList.splitOn '|' =
      (t.fontFamily.getD "").toList.splitOn '|' ++ (t.signatureFields color).map String.toList := by
  have joined : (t.signature color).toList =
      (t.fontFamily.getD "").toList ++
        '|' :: ['|'].intercalate ((t.signatureFields color).map String.toList) := by
    have bar : "|".toList = ['|'] := by decide
    rw [signature_eq, String.toList_intercalate, List.map_cons, bar,
      List.intercalate_cons_of_ne_nil (by simp [signatureFields]), List.append_assoc,
      List.singleton_append]
  rw [joined, List.splitOn_append_cons_self,
    List.splitOn_intercalate '|' (t.bar_not_mem_signatureFields bar) (by simp [signatureFields])]

theorem signature_inj {t t' : TextContent} {color color' : String} (bar : '|' ∉ color.toList)
    (bar' : '|' ∉ color'.toList) (same : t.signature color = t'.signature color') :
    t.fontFamily.getD "" = t'.fontFamily.getD "" ∧
      t.signatureFields color = t'.signatureFields color' := by
  have split := congrArg (fun s : String => s.toList.splitOn '|') same
  rw [splitOn_signature t bar, splitOn_signature t' bar'] at split
  obtain ⟨family, fields⟩ := List.append_inj' split rfl
  have family := congrArg ['|'].intercalate family
  rw [List.intercalate_splitOn, List.intercalate_splitOn, String.toList_inj] at family
  exact ⟨family, List.map_injective_iff.2 (fun _ _ => String.toList_inj.1) fields⟩

/-! ### Looks -/

/-- What signatures rely on in a text: its font family has a name, its own color no bar, and its paragraph
spacing is a finite number other than zero. -/
structure IsProper (t : TextContent) : Prop where
  family : t.fontFamily ≠ some ""
  color : ∀ c ∈ t.color, '|' ∉ c.toList
  spacing : ∀ v ∈ t.paragraphSpacing, v.isFinite = true ∧ ¬ (v == 0) = true

/-- Looks with the same signature have the same declarations. -/
theorem declarations_eq_of_signature_eq {t t' : TextContent} (h : t.IsProper) (h' : t'.IsProper)
    {color color' : String} (bar : '|' ∉ color.toList) (bar' : '|' ∉ color'.toList)
    (same : t.signature color = t'.signature color') :
    t.declarations color = t'.declarations color' := by
  obtain ⟨family, fields⟩ := signature_inj bar bar' same
  have family : t.fontFamily = t'.fontFamily := eq_of_getD_eq h.family h'.family family
  simp only [signatureFields, List.cons.injEq, and_true] at fields
  obtain ⟨weight, size, height, letters, rfl, spacing⟩ := fields
  have weight := Css.numberOrNothing_inj weight
  have size := Css.map_px_eq (Css.numberOrNothing_inj size)
  have height := Css.map_px_eq (Css.numberOrNothing_inj height)
  have letters := Css.map_px_eq (Css.numberOrNothing_inj letters)
  have margin := Css.map_px_filter_pos_eq h.spacing h'.spacing (Css.numberOrNothing_inj spacing)
  rw [declarations, declarations, fontStyle, fontStyle, family, weight, size, height, letters, margin]

end TextContent

end DesignCode
