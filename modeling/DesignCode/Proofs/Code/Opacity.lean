import DesignCode.Proofs.Code.Inheritance
import DesignCode.Proofs.Code.LayerStyle
import DesignCode.Proofs.Css.Thousandth

/-!
# The opacity of a layer and of its node

The style map of a layer writes the opacity that the layer has, to three places.  The node of the layer
has the opacity rounded to three places, and its style rounds the product with the opacity above it once
more.  At the root the texts are the same unless the thousandfold of the opacity comes to a half or the
opacity is rounded up to 1 (`opacity_of_both_styles`).  An opacity that has three places itself does not
come to a half (`Css.not_roundsApart_thousandth`).
-/

namespace DesignCode

open Float.Model.UnpackedFloat
open Decimal Decimal.Binary

namespace Css

/-- The opacity is rounded to one number of thousandths before it is written and to another one while it is,
because its thousandfold comes to a half. -/
def RoundsApart (o : Float) : Prop := ComesToHalf (ofFloat o) (ofFloat (o * 1000))

theorem not_roundsApart_thousandth {n : ℕ} (le : n ≤ 10 ^ 15) {r : Binary} (hr : r.IsNearestTo (n / 1000))
    (s : Sign) : ¬ RoundsApart (r.withSign s) := by
  obtain ⟨p, hp⟩ := exists_thousandfold hr.isSize (thousandth_lt le hr)
  rw [RoundsApart, withSign_mul_thousand hr.isSize hp, (ofFloat_withSign_of_isSize hr.isSize s).1,
    (ofFloat_withSign_of_isSize hp.isSize s).1]
  exact not_comesToHalf_thousandth le hr hp

/-- The text of an opacity that is rounded before it is written; there is none unless it is then below 1. -/
def roundedText? (o : Float) : Option String := if round3 o < 1 then some (number (round3 o)) else none

theorem value_lt_one {o : Float} (finite : o.isFinite = true) (below : o < 1) : value o < 1 := by
  rw [lt_iff_value_lt finite (by decide +kernel), value_one] at below
  exact below

theorem roundedText?_withSign {x p : Binary} (hx : x.IsSize) (hp : p.IsNearestTo (x.size * 1000))
    (less : x.size < 10 ^ 12) (s : Sign) (text : String) :
    roundedText? (x.withSign s) = some text ↔
      (s = .negative ∨ p.scaled 0 .away < 1000) ∧ thousandthText s (p.scaled 0 .away) = text := by
  have le := thousandths_le hp less
  obtain ⟨r, hr⟩ := exists_thousandth _ le
  have rounded := round3_withSign hx hp (by norm_num at less ⊢; linarith) hr s
  rw [roundedText?, rounded, number_thousandth le hr, ← thousandth_lt_one_iff le hr s]
  split_ifs with below
  · rw [Option.some_inj, and_iff_right below]
  · exact iff_of_false (by simp) fun both => below both.1

theorem size_lt {o : Float} (finite : o.isFinite = true) (above : -10 ^ 12 < value o) (below : o < 1) :
    (ofFloat o).size < 10 ^ 12 := by
  have less := value_lt_one finite below
  rw [value_eq] at above less
  norm_num at above ⊢
  cases sign : signOf o <;> rw [sign, signedSize] at above less <;> linarith

/-- An opacity has one text, whether it is rounded before it is written or only then, unless it comes to a
half or is rounded up to 1. -/
theorem roundedText?_eq_iff {o : Float} (finite : o.isFinite = true) (above : -10 ^ 12 < value o)
    (below : o < 1) :
    roundedText? o = some (opacity o) ↔ value o < 1999 / 2000 ∧ ¬ RoundsApart o := by
  have hx := isSize_ofFloat finite
  have same := withSign_ofFloat finite
  have less := value_lt_one finite below
  have nonneg := (ofFloat o).size_nonneg
  have size := size_lt finite above below
  rw [value_eq] at less ⊢
  obtain ⟨p, hp⟩ := exists_thousandfold hx (by norm_num at size ⊢; linarith)
  have thousandfold : ofFloat (o * 1000) = p := by
    rw [← same, withSign_mul_thousand hx hp]
    exact (ofFloat_withSign_of_isSize hp.isSize _).1
  have texts := roundedText?_withSign hx hp size (signOf o) (opacity o)
  rw [same] at texts
  rw [texts, opacity_eq finite, thousandthText_inj, @eq_comm ℕ, thousandths_eq_iff hp size, RoundsApart,
    thousandfold]
  refine and_congr_left fun apart => ?_
  cases sign : signOf o with
  | negative => exact iff_of_true (.inl rfl) (by rw [signedSize]; linarith)
  | positive =>
    rw [sign, signedSize] at less
    rw [signedSize, ← thousandths_lt_iff hp less apart]
    exact or_iff_right fun none => by cases none

/-- An opacity that is rounded once is not changed by the opacity of the root nor by being rounded again. -/
theorem round3_own {o : Float} (finite : o.isFinite = true) (size : (ofFloat o).size < 10 ^ 12) :
    round3 (1 * round3 o) = round3 o := by
  have hx := isSize_ofFloat finite
  obtain ⟨p, hp⟩ := exists_thousandfold hx (by norm_num at size ⊢; linarith)
  have le := thousandths_le hp size
  obtain ⟨r, hr⟩ := exists_thousandth _ le
  have rounded := round3_withSign hx hp (by norm_num at size ⊢; linarith) hr (signOf o)
  rw [withSign_ofFloat finite] at rounded
  rw [rounded, one_mul_withSign hr.isSize, round3_thousandth le hr]

end Css

/-! ### The two style maps -/

namespace Layer

variable (l : Layer) (parent : Option Layer) (nodes : List (Tree Node)) (p : Palette)

theorem display?_opacity : l.styles.display? "opacity" = l.translucency.map Css.opacity :=
  l.display?_given .box rfl rfl (by decide)

/-- The style of a node at the root has its own opacity, rounded once more. -/
theorem nodeStyle_opacity :
    (l.nodeStyle parent nodes p {}).display? "opacity" = Css.roundedText? (1 * l.ownOpacity.getD 1) := by
  rw [nodeStyle, StyleMap.display?, Node.get?_opacity, Css.roundedText?]
  show Option.map _ (if Css.round3 (1 * l.ownOpacity.getD 1) < 1 then _ else _) = _
  split_ifs <;> rfl

theorem nodeStyle_opacity_of_none (none : l.translucency = none) :
    (l.nodeStyle parent nodes p {}).display? "opacity" = Option.none := by
  rw [nodeStyle_opacity, ownOpacity, none]
  decide +kernel

theorem nodeStyle_opacity_of_some {o : Float} (some : l.translucency = some o) (finite : o.isFinite = true)
    (size : (ofFloat o).size < 10 ^ 12) :
    (l.nodeStyle parent nodes p {}).display? "opacity" = Css.roundedText? o := by
  rw [nodeStyle_opacity, ownOpacity, some]
  show Css.roundedText? (1 * Css.round3 o) = _
  rw [Css.roundedText?, Css.round3_own finite size, Css.roundedText?]

theorem same_opacity_iff (given : ∀ o ∈ l.opacity, o.isFinite = true ∧ -10 ^ 12 < value o) :
    (l.nodeStyle parent nodes p {}).display? "opacity" = l.styles.display? "opacity" ↔
      ∀ o ∈ l.opacity, o < 1 → value o < 1999 / 2000 ∧ ¬ Css.RoundsApart o := by
  rw [display?_opacity]
  cases shown : l.translucency with
  | none =>
    rw [l.nodeStyle_opacity_of_none _ _ _ shown]
    refine iff_of_true rfl fun o mem below => ?_
    rw [translucency, Option.filter_eq_none_iff] at shown
    exact absurd (decide_eq_true below) (by simpa using shown o mem)
  | some o =>
    obtain ⟨mem, below⟩ : l.opacity = some o ∧ o < 1 := by
      simpa [translucency, Option.filter_eq_some_iff] using shown
    obtain ⟨finite, above⟩ := given o mem
    rw [l.nodeStyle_opacity_of_some _ _ _ shown finite (Css.size_lt finite above below),
      Option.map_some, Css.roundedText?_eq_iff finite above below, mem]
    simp [below]

end Layer

/-- The style map of a layer and the style of its node at the root have no opacity or display the same text,
unless the opacity is at least 0.9995 but below 1 or comes to a half of a thousandth.  Below `-10 ^ 12`
the thousandfold of a double need not have places behind the point. -/
theorem opacity_of_both_styles (t : Tree Layer) (parent : Option Layer) (p : Palette)
    (visible : t.value.isHidden = false)
    (given : ∀ o ∈ t.value.opacity, o.isFinite = true ∧ -10 ^ 12 < value o) :
    ∃ n, (survey t parent).1 = some n ∧
      ((Node.style p {} n).display? "opacity" = t.value.styles.display? "opacity" ↔
        ∀ o ∈ t.value.opacity, o < 1 → value o < 1999 / 2000 ∧ ¬ Css.RoundsApart o) := by
  obtain ⟨l, cs⟩ := t
  exact ⟨_, survey_of_visible visible parent cs, l.same_opacity_iff parent _ p given⟩

/-- A frame through which half of what is below is seen. -/
def halfFrame : Layer := { id := "1", name := "Card", kind := .frame, opacity := some 0.5 }

theorem opacity_of_halfFrame :
    halfFrame.isHidden = false ∧ (∀ o ∈ halfFrame.opacity, o.isFinite = true ∧ -10 ^ 12 < value o) ∧
      ∃ n, (survey (.node halfFrame []) none).1 = some n ∧
        ((Node.style {} {} n).display? "opacity" = halfFrame.styles.display? "opacity" ↔
          ∀ o ∈ halfFrame.opacity, o < 1 → value o < 1999 / 2000 ∧ ¬ Css.RoundsApart o) := by
  have given : ∀ o ∈ halfFrame.opacity, o.isFinite = true ∧ -10 ^ 12 < value o := by
    intro o mem
    rw [← Option.some_inj.1 mem]
    decide +kernel
  exact ⟨rfl, given, opacity_of_both_styles (.node halfFrame []) none {} rfl given⟩

/-- A frame with an opacity whose double is just below four and a half thousandths. -/
def faintFrame : Layer := { id := "1", name := "Card", kind := .frame, opacity := some 0.0045 }

/-- The thousandfold of its opacity is 4.5, so that it is rounded up before it is written. -/
theorem faintFrame_has_two_opacities :
    faintFrame.isHidden = false ∧ faintFrame.styles.display? "opacity" = some "0.004" ∧
      ∃ n, (survey (.node faintFrame []) none).1 = some n ∧
        (Node.style {} {} n).display? "opacity" = some "0.005" := by
  refine ⟨rfl, ?_, _, rfl, ?_⟩
  · rw [faintFrame.display?_opacity]
    decide +kernel
  · show (faintFrame.nodeStyle none _ {} {}).display? "opacity" = _
    rw [faintFrame.nodeStyle_opacity]
    decide +kernel

end DesignCode
