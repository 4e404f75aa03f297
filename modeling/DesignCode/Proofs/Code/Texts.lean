import DesignCode.Proofs.Code.Position
import Mathlib.Data.List.Flatten

/-!
# Texts in generated code

An expression shows the texts of all nodes.  A component shows them in the same order, but not those
below a text or an icon: these are exactly the texts that it loses.
-/

namespace DesignCode

/-- The text stands in the element; an empty text leaves no trace in markup. -/
def Shown.ShowsText (v : Shown) (cs : List Char) : Prop := cs = [] ∨ cs ∈ v.texts

/-- An outline shows the text of every text node of a tree, at the position of the node. -/
def ShowsTexts (t : Tree Node) (x : Tree Shown) : Prop :=
  ∀ p u c, t.at? p = some u → u.value.text = some c →
    ∃ v, x.at? p = some v ∧ v.value.ShowsText c.characters.toList

/-- The texts of an outline in their order. -/
def shownTexts (x : Tree Shown) : List (List Char) := x.preorder.flatMap Shown.texts

theorem shownTexts_node (v : Shown) (children : List (Tree Shown)) :
    shownTexts (.node v children) = v.texts ++ children.flatMap shownTexts := by
  rw [shownTexts, Tree.preorder_node, List.flatMap_cons, List.flatMap_assoc]
  rfl

/-! ### Order -/

/-- An element of a component has no text that the call for the node lacks. -/
theorem texts_ofPlaced_sublist (n : Nat) (p : Place) (s : Styled) :
    (Shown.ofPlaced n (p, s)).texts.Sublist (Shown.ofCall s).texts := by
  have placed : (Shown.ofPlaced n (p, s)).texts.Sublist [s.markupText] := by
    simp only [Shown.ofPlaced, Shown.ofMarkup]
    split_ifs <;> simp
  cases ht : s.node.text with
  | some c =>
    refine placed.trans ?_
    simp [Styled.markupText, ht, Shown.ofCall, Call.ofStyled]
  | none =>
    cases hi : s.icon with
    | none =>
      simp [Shown.ofPlaced, Shown.ofMarkup, Styled.markupText, ht, hi]
    | some icon =>
      cases icon with
      | svg width height label =>
        simp [Shown.ofPlaced, Shown.ofMarkup, Styled.markupText, ht, hi]
      | glyph label =>
        refine placed.trans ?_
        simp [Styled.markupText, ht, hi, Shown.ofCall, Call.ofStyled, Call.glyph?]

/-- The texts of a component come in the order in which the expression has them. -/
theorem texts_nodesShown_sublist (n : Nat) (t : Tree Styled) (p : Place) :
    (shownTexts ((nodesShown p t).map (Shown.ofPlaced n))).Sublist
      (shownTexts (t.map Shown.ofCall)) := by
  induction t using Tree.induct generalizing p with
  | node s children ih =>
    rw [nodesShown_node, Tree.map_node, Tree.map_node, shownTexts_node, shownTexts_node]
    refine (texts_ofPlaced_sublist n p s).append ?_
    split_ifs
    · exact List.nil_sublist _
    · rw [List.flatMap_map, List.flatMap_map, List.flatMap_map]
      exact List.Sublist.flatMap_right children fun c hc => ih c hc _

variable {o : Options} {t : Tree Node} {x y : Tree Shown}

theorem Outlines.texts_sublist (h : Outlines o t x y) : (shownTexts y).Sublist (shownTexts x) := by
  rw [h.eq.1, h.eq.2]
  exact texts_nodesShown_sublist 4 _ _

/-! ### Texts that are shown -/

/-- An expression loses no text. -/
theorem Outlines.showsTexts_expression (h : Outlines o t x y) : ShowsTexts t x := by
  intro p u c hu hc
  obtain ⟨i, v, found, value⟩ := h.at?_expression hu
  refine ⟨v, found, .inr ?_⟩
  have node : (Styled.ofNode o (Styled.registry o t) i u).node.text = some c := hc
  rw [value]
  simp [Shown.ofCall, Call.ofStyled, node]

/-- A component shows a text exactly if no node above it covers it. -/
theorem Outlines.showsText_component (h : Outlines o t x y) {p : List Nat} {u : Tree Node}
    {c : TextContent} (hu : t.at? p = some u) (hc : u.value.text = some c) :
    (∃ v, y.at? p = some v ∧ v.value.ShowsText c.characters.toList) ↔ ¬ IsCovered o t p := by
  obtain ⟨hidden, visible⟩ := h.at?_component hu
  constructor
  · rintro ⟨v, found, -⟩ covered
    rw [hidden covered] at found
    exact absurd found (by simp)
  · intro uncovered
    obtain ⟨i, place, v, found, -, value⟩ := visible uncovered
    have node : (Styled.ofNode o (Styled.registry o t) i u).node.text = some c := hc
    refine ⟨v, found, ?_⟩
    rw [value]
    by_cases empty : c.characters.toList = []
    · exact .inl empty
    · refine .inr ?_
      simp [Shown.ofPlaced, Shown.ofMarkup, Styled.markupText, node, empty]

/-- Both kinds of code are read as trees of elements with the nodes at their positions.  The expression
shows the text of every text node, and the texts of the component come in the same order; it shows the
texts of all text nodes exactly if none of them is below a text or an icon. -/
theorem texts_shown (o : Options) (t : Tree Node) :
    ∃ x y, Outlines o t x y ∧ ShowsTexts t x ∧ (shownTexts y).Sublist (shownTexts x) ∧
      (ShowsTexts t y ↔
        ∀ p u, t.at? p = some u → u.value.isText = true → ¬ IsCovered o t p) := by
  have h := outlines_ofTree o t
  refine ⟨_, _, h, h.showsTexts_expression, h.texts_sublist, ?_⟩
  constructor
  · intro shows p u hu text
    obtain ⟨c, hc⟩ := Option.isSome_iff_exists.1 text
    exact (h.showsText_component hu hc).1 (shows p u c hu hc)
  · intro uncovered p u c hu hc
    have text : u.value.isText = true := by simp [Node.isText, hc]
    exact (h.showsText_component hu hc).2 (uncovered p u hu text)

/-- A shape with a text below it, as boolean operations have them. -/
def shapeWithText : Tree Node :=
  .node { id := "1", name := "Badge", kind := .booleanOperation }
    [.node { id := "2", name := "Caption", kind := .text, text := some { characters := "Label" } } []]

/-- The component for a shape with a text below it has lost the text, which the expression shows. -/
theorem shapeWithText_loses_text :
    ∃ x y, Outlines {} shapeWithText x y ∧ shownTexts x = ["Label".toList] ∧ shownTexts y = [] ∧
      ¬ ShowsTexts shapeWithText y := by
  have h := outlines_ofTree {} shapeWithText
  refine ⟨_, _, h, rfl, rfl, fun shows => ?_⟩
  have covered : IsCovered {} shapeWithText [0] :=
    ⟨[], [0], shapeWithText, rfl, by simp, rfl, by decide⟩
  obtain ⟨v, found, -⟩ := shows [0] _ { characters := "Label" } rfl rfl
  rw [(h.at?_component rfl).1 covered] at found
  exact absurd found (by simp)

end DesignCode
