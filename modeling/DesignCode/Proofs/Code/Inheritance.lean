import DesignCode.Proofs.Code.Position
import DesignCode.Proofs.Code.Style

/-!
# What nodes inherit

A node inherits the product of the opacities above it and the color of the nearest text above it
(`Inherited.ofAbove_eq`).  Both kinds of code write its style with these, whatever else stands in the tree
(`styled_ofAbove`): the opacity is that of the whole way from the root, and a text without a color takes the
inherited one before one of the palette.
-/

namespace DesignCode

/-! ### Opacity and color -/

/-- The opacities above a node are multiplied from the root down; the color is that of the nearest text above
that has one. -/
theorem Inherited.ofAbove_eq (above : List Node) :
    ofAbove above =
      { color := above.findSome? fun n => n.text.bind TextContent.color
        opacity := above.reverse.foldl (fun x n => x * n.opacity.getD 1) 1 } := by
  induction above with
  | nil => rfl
  | cons n above ih =>
    have step : ofAbove (n :: above) = (ofAbove above).below n := rfl
    rw [step, ih, List.reverse_cons, List.foldl_append, List.findSome?_cons, below, opacityOf]
    cases n.text.bind TextContent.color <;> rfl

theorem Palette.find?_textColor (p : Palette) :
    (p.brand ++ [p.neutral, p.placeholder, "#999999"]).find? (· ≠ "") = some p.textColor := by
  have split : p.brand ++ [p.neutral, p.placeholder, "#999999"] =
      (p.brand ++ [p.neutral, p.placeholder]) ++ ["#999999"] := by simp
  rw [split, List.find?_append, textColor]
  cases (p.brand ++ [p.neutral, p.placeholder]).find? (· ≠ "") <;> rfl

namespace Node

variable (p : Palette) (i : Inherited) (t : Tree Node)

theorem get?_opacity :
    (style p i t).get? "opacity" =
      if Css.round3 (i.opacityOf t.value) < 1 then
        some (.number (Css.round3 (i.opacityOf t.value))) else none := by
  rw [get?_style p i t .opacity (by decide), partStyle, opacityStyle]
  split_ifs <;> rfl

theorem get?_color :
    (style p i t).get? "color" = t.value.text.map fun c => .text (i.textColor p c) := by
  rw [get?_style p i t .text (by decide), partStyle, textStyle]
  cases t.value.text <;> rfl

/-- The color of a text: its own, else the inherited one, else the first of the palette. -/
theorem get?_color_of_text {c : TextContent} (h : t.value.text = some c) :
    (style p i t).get? "color" =
      (c.color <|> i.color <|>
        (p.brand ++ [p.neutral, p.placeholder, "#999999"]).find? (· ≠ "")).map .text := by
  rw [get?_color, h, Palette.find?_textColor, Option.map_some, Inherited.textColor]
  cases c.color with
  | some color => rfl
  | none => cases i.color <;> rfl

end Node

/-! ### Styles of elements -/

/-- The style of the element of a node: a list that nothing covers has no marks. -/
theorem Styled.elementStyle_treeBelow (o : Options) (tokens : TokenRegistry) (i : Inherited)
    (t : Tree Node) :
    elementStyle (treeBelow o tokens i t) =
      if ¬ t.value.covers o = true ∧ Node.isList t = true then
        Element.listStyle (Node.style o.palette i t)
      else Node.style o.palette i t := by
  cases t with
  | node n children =>
    have style : elementStyle (treeBelow o tokens i (.node n children)) =
        if n.covers o then Node.style o.palette i (.node n children)
        else if Node.isList (.node n children) then
          Element.listStyle (Node.style o.palette i (.node n children))
        else Node.style o.palette i (.node n children) := by
      rw [treeBelow_node, elementStyle, Tree.value, Tree.children, Element.blockStyle, isList_treeBelow]
      rfl
    rw [style]
    cases covers : n.covers o <;> simp [Tree.value, covers]

section

variable (o : Options) (t : Tree Node)

/-- The expression has the style of the node at every position. -/
theorem style?_expression (p : List Nat) :
    (((Styled.ofTree o t).map ReadElement.ofCall).at? p).map (·.value.style?) =
      (t.at? p).map fun u => (Node.style o.palette (.ofAbove (t.above p)) u).term? := by
  rw [Tree.at?_map, Styled.at?_ofTree_treeBelow, Option.map_map, Option.map_map]
  refine congrArg (Option.map · (t.at? p)) ?_
  funext u
  show ((Tree.map ReadElement.ofCall _).value).style? = _
  rw [Tree.value_map, Call.style?_ofCall, Styled.value_treeBelow]
  rfl

/-- An element of the component has the style of the node at its position, or that of a list of it. -/
theorem style?_component {p : List Nat} {u : Tree Node} (hu : t.at? p = some u) {v : Tree ReadElement}
    (hv : ((nodesPlaced .root (Styled.ofTree o t)).map (ReadElement.ofPlaced 4)).at? p = some v) :
    v.value.style? = (Styled.elementStyle
      (Styled.treeBelow o (Styled.registry o t) (.ofAbove (t.above p)) u)).term? := by
  rw [Tree.at?_map] at hv
  obtain ⟨w, hw, rfl⟩ := Option.map_eq_some_iff.1 hv
  obtain ⟨place, s, hs, value, -⟩ := exists_of_at?_nodesPlaced hw
  rw [Styled.at?_ofTree_treeBelow, hu] at hs
  obtain rfl := Option.some.inj hs
  rw [Tree.value_map, value, ReadElement.style?_ofPlaced]

/-- The component has an element exactly for the nodes that nothing covers. -/
theorem Draws.at?_component_eq_none_iff {o : Options} {t : Tree Node} {x y : Tree ReadElement}
    (h : Draws o t x y) {p : List Nat} {u : Tree Node} (hu : t.at? p = some u) :
    y.at? p = none ↔ IsCovered o t p := by
  obtain ⟨hidden, shown⟩ := h.outlines.at?_component hu
  rw [Tree.at?_map, Option.map_eq_none_iff] at hidden
  refine ⟨fun none => ?_, hidden⟩
  by_contra uncovered
  obtain ⟨-, -, v, hv, -⟩ := shown uncovered
  rw [Tree.at?_map, none] at hv
  cases hv

end

/-- What a node inherits comes from the nodes above it alone.  Both kinds of code give it, as far as the component
has an element for it, the style that it has under the product of the opacities above it, multiplied from the
root down, and under the color of the nearest text above it.  A list has the properties of lists besides.
The opacity of the style is the product with that of the node to three places, if it is below 1; the
color of a text is its own, else the inherited one, else the first one of the palette. -/
theorem styled_ofAbove (o : Options) (t : Tree Node) :
    ∃ x y, Draws o t x y ∧ ∀ p u, t.at? p = some u →
      let above := t.above p
      let i : Inherited :=
        { color := above.findSome? fun n => n.text.bind TextContent.color
          opacity := above.reverse.foldl (fun x n => x * n.opacity.getD 1) 1 }
      let css := Node.style o.palette i u
      let opacity := Css.round3 (i.opacity * u.value.opacity.getD 1)
      (x.at? p).map (·.value.style?) = some css.term? ∧
        (y.at? p = none ↔ IsCovered o t p) ∧
        (∀ v, y.at? p = some v → v.value.style? =
          (if ¬ u.value.covers o = true ∧ Node.isList u = true then Element.listStyle css
            else css).term?) ∧
        css.get? "opacity" = (if opacity < 1 then some (.number opacity) else none) ∧
        ∀ c, u.value.text = some c → css.get? "color" =
          (c.color <|> i.color <|> (o.palette.brand ++
            [o.palette.neutral, o.palette.placeholder, "#999999"]).find? (· ≠ "")).map .text := by
  refine ⟨_, _, draws_ofTree o t, ?_⟩
  intro p u hu above i css opacity
  have inherited : Inherited.ofAbove (t.above p) = i := Inherited.ofAbove_eq _
  refine ⟨?_, (draws_ofTree o t).at?_component_eq_none_iff hu, ?_, Node.get?_opacity _ i u,
    fun c hc => Node.get?_color_of_text _ i u hc⟩
  · rw [style?_expression, hu, inherited]
    rfl
  · intro v hv
    rw [style?_component o t hu hv, Styled.elementStyle_treeBelow, inherited]

/-- A translucent text. -/
def fadedCaption : Tree Node :=
  .node { id := "2", kind := .text, opacity := some 0.5, text := some { characters := "Hi" } } []

/-- A translucent column above it. -/
def fadedColumn : Tree Node :=
  .node { id := "1", kind := .frame, opacity := some 0.5, flex := some { direction := .column } }
    [fadedCaption]

theorem styled_fadedCaption :
    fadedColumn.at? [0] = some fadedCaption ∧
      ∃ x y, Draws {} fadedColumn x y ∧
        (x.at? [0]).map (·.value.style?) =
          some (Node.style {} { opacity := 1 * 0.5 } fadedCaption).term? ∧
        (Node.style {} { opacity := 1 * 0.5 } fadedCaption).get? "color" = some (.text "#000000") := by
  obtain ⟨x, y, draws, styled⟩ := styled_ofAbove {} fadedColumn
  obtain ⟨style, -, -, -, color⟩ := styled [0] fadedCaption rfl
  exact ⟨rfl, x, y, draws, style, color _ rfl⟩

end DesignCode
