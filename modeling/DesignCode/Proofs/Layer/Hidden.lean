import Mathlib.Tactic.Common
import DesignCode.Node.OfLayer

/-!
# Hidden paints and effects

`Layer.withoutHidden` takes the hidden strokes and effects out of a layer, and the hidden fills that are not
images.  Nothing that is read off a layer changes by it, so the node of the layer and what a survey says
about it stay the same.
-/

namespace DesignCode.Layer

/-- Whether anything is read off a fill.  A hidden image still asks for a placeholder. -/
def isFillRead (p : Paint) : Bool := p.isVisible || p.kind = .image

/-- The layer without hidden strokes, hidden effects and hidden fills other than images.  A layer without fills
is told from one with an empty list of fills. -/
def withoutHidden (l : Layer) : Layer :=
  { l with
    fills := l.fills.map (·.filter isFillRead)
    strokes := some ((l.strokes.getD []).filter Paint.isVisible)
    effects := some ((l.effects.getD []).filter Effect.isVisible) }

/-! ### Lists of paints and effects -/

/-- Items that give nothing can be left out of a search. -/
theorem findSome?_filter {α β : Type} {p : α → Bool} {f : α → Option β}
    (h : ∀ a, p a = false → f a = none) (as : List α) :
    (as.filter p).findSome? f = as.findSome? f := by
  induction as with
  | nil => rfl
  | cons a as ih =>
    by_cases read : p a = true
    · rw [List.filter_cons_of_pos read, List.findSome?_cons, List.findSome?_cons, ih]
    · rw [List.filter_cons_of_neg read, List.findSome?_cons, h a (by simpa using read), ih]

theorem getD_map_filter {α : Type} (p : α → Bool) (as : Option (List α)) :
    (as.map (·.filter p)).getD [] = (as.getD []).filter p := by
  cases as <;> rfl

/-! ### Facts -/

section

variable (l : Layer)

@[simp] theorem isHidden_withoutHidden : l.withoutHidden.isHidden = l.isHidden := rfl

theorem fills_withoutHidden : l.withoutHidden.fills = l.fills.map (·.filter isFillRead) := rfl

theorem firstVisibleFill_withoutHidden :
    l.withoutHidden.firstVisibleFill = l.firstVisibleFill := by
  have read (p : Paint) : decide (isFillRead p ∧ p.isVisible) = p.isVisible := by
    rw [isFillRead]
    cases p.isVisible <;> simp
  rw [firstVisibleFill, firstVisibleFill, fills_withoutHidden]
  cases l.fills with
  | none => rfl
  | some fills =>
    rw [Option.map_some, Option.bind_some, Option.bind_some, List.find?_filter]
    simp only [read]

theorem background_withoutHidden : l.withoutHidden.background = l.background := by
  unfold background
  rw [firstVisibleFill_withoutHidden, fills_withoutHidden]
  cases l.fills <;> rfl

theorem textColor_withoutHidden : l.withoutHidden.textColor = l.textColor := by
  have hidden (p : Paint) (h : isFillRead p = false) : paintTextColor p = none := by
    have visible : p.isVisible = false := (Bool.or_eq_false_iff.1 h).1
    rw [paintTextColor, visible]
    simp
  rw [textColor, fills_withoutHidden, getD_map_filter, findSome?_filter hidden, textColor]

theorem hasImageFill_withoutHidden : l.withoutHidden.hasImageFill = l.hasImageFill := by
  have read (p : Paint) : (isFillRead p && decide (p.kind = .image)) = decide (p.kind = .image) := by
    rw [isFillRead]
    cases p.isVisible <;> simp
  rw [hasImageFill, fills_withoutHidden, getD_map_filter, List.any_filter, hasImageFill]
  simp only [read]

theorem border_withoutHidden : l.withoutHidden.border = l.border := by
  have hidden (p : Paint) (h : p.isVisible = false) :
      (if p.isVisible then p.color else none) = none := by
    rw [h]
    rfl
  have strokes : (l.withoutHidden.strokes.getD []) = (l.strokes.getD []).filter Paint.isVisible := rfl
  unfold border
  rw [strokes, findSome?_filter hidden]
  rfl

theorem shading_withoutHidden : l.withoutHidden.shading = l.shading := by
  have twice : l.withoutHidden.visibleEffects = l.visibleEffects := by
    show ((l.effects.getD []).filter Effect.isVisible).filter Effect.isVisible = _
    rw [List.filter_filter]
    simp only [Bool.and_self]
    rfl
  rw [shading, twice]
  rfl

/-! ### Records -/

theorem visual_withoutHidden : l.withoutHidden.visual = l.visual := by
  rw [visual, background_withoutHidden, border_withoutHidden]
  rfl

theorem effectsRecord_withoutHidden : l.withoutHidden.effectsRecord = l.effectsRecord := by
  rw [effectsRecord, shading_withoutHidden]
  rfl

theorem typography_withoutHidden : l.withoutHidden.typography = l.typography := by
  rw [typography, textColor_withoutHidden]
  rfl

theorem textContent_withoutHidden : l.withoutHidden.textContent = l.textContent := by
  rw [textContent, typography_withoutHidden, textColor_withoutHidden]
  rfl

theorem placeholder_withoutHidden : l.withoutHidden.placeholder = l.placeholder := by
  rw [placeholder, hasImageFill_withoutHidden]
  rfl

theorem place_withoutHidden (parent : Option Layer) :
    l.withoutHidden.place (parent.map withoutHidden) = l.place parent := by
  have box : l.withoutHidden.box = l.box := rfl
  unfold place
  rw [box]
  cases parent with
  | none => rfl
  | some p => cases l.box <;> rfl

theorem ofLayer_withoutHidden (parent : Option Layer) :
    Node.ofLayer l.withoutHidden (parent.map withoutHidden) = Node.ofLayer l parent := by
  rw [Node.ofLayer, place_withoutHidden, visual_withoutHidden, effectsRecord_withoutHidden,
    textContent_withoutHidden, placeholder_withoutHidden]
  rfl

theorem note_withoutHidden (parent : Option Layer) (s : Survey) (depth : Nat) :
    s.note l.withoutHidden (parent.map withoutHidden) depth = s.note l parent depth := by
  have findings : Survey.findings l.withoutHidden (parent.map withoutHidden) =
      Survey.findings l parent := by
    rw [Survey.findings, place_withoutHidden]
    rfl
  rw [Survey.note, findings]
  rfl

end

end DesignCode.Layer
