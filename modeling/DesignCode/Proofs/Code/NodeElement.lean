import DesignCode.Code.Element
import Mathlib.Tactic.SplitIfs

/-!
# The elements of nodes

An `Element` is an element of markup as a tree, and `Element.lines` are the lines of it.
`Element.ofTree` is the element of a tree of nodes, as part of a block or as the root, and
`Element.item` its item in a list.
-/

namespace DesignCode

/-- What stands between the tags of an element on one line. -/
inductive InlineContent where
  | text (s : String)
  | heading (level : Nat) (css : StyleMap) (s : String)
  | svg (width height label : String)

/-- An element of markup. -/
inductive Element where
  | inline (tag : String) (attributes : List Attribute) (content : InlineContent)
  | block (tag : String) (attributes : List Attribute) (children : List Element)

namespace Element

/-! ### Lines -/

/-- The text of the content of an element on one line. -/
def renderContent : InlineContent → List Char
  | .text s => Markup.childText s.toList
  | .heading level css s => oneLine (headingTag level) [.style css] (Markup.childText s.toList)
  | .svg width height label => Icon.svgMarkup width height label

mutual

/-- The lines of an element at a depth.  A block without children closes itself. -/
def lines (depth : Nat) : Element → List (List Char)
  | inline tag attributes content =>
    [Writer.line depth (oneLine tag attributes (renderContent content))]
  | block tag attributes [] => [Writer.line depth (opening tag attributes ++ [' ', '/', '>'])]
  | block tag attributes (e :: es) =>
    Writer.line depth (opening tag attributes ++ ['>']) ::
      (lines (depth + 1) e ++ linesAll (depth + 1) es ++ [Writer.line depth (closing tag)])

def linesAll (depth : Nat) : List Element → List (List Char)
  | [] => []
  | e :: es => lines depth e ++ linesAll depth es

end

/-- The text of the lines. -/
def render (e : Element) : List Char := Text.joined ['\n'] (lines 0 e)

/-- A statement that a block takes over from what is in it holds of all elements. -/
@[elab_as_elim]
theorem induct {motive : Element → Prop}
    (inline : ∀ tag attributes content, motive (.inline tag attributes content))
    (block : ∀ tag attributes children, (∀ e ∈ children, motive e) →
      motive (.block tag attributes children)) : ∀ e, motive e
  | .inline tag attributes content => inline tag attributes content
  | .block tag attributes children =>
    block tag attributes children fun e _ => induct inline block e

theorem linesAll_eq (depth : Nat) (es : List Element) :
    linesAll depth es = es.flatMap (lines depth) := by
  induction es with
  | nil => rfl
  | cons e es ih => rw [linesAll, ih, List.flatMap_cons]

theorem lines_block (depth : Nat) (tag : String) (attributes : List Attribute) (e : Element)
    (es : List Element) :
    lines depth (.block tag attributes (e :: es)) =
      Writer.line depth (opening tag attributes ++ ['>']) ::
        ((e :: es).flatMap (lines (depth + 1)) ++ [Writer.line depth (closing tag)]) := by
  rw [lines, linesAll_eq, List.flatMap_cons]

/-! ### Elements of nodes -/

def textItem (s : Styled) (t : TextContent) : Element :=
  .inline "li" (attributesOf (classOf false s) none s.style)
    (match headingLevel? s.node.name with
      | some level => .heading level headingStyle t.characters
      | none => .text t.characters)

mutual

/-- The element of a tree of nodes. -/
def ofTree (isRoot : Bool) : Tree Styled → Element
  | .node s children =>
    let attributes := attributesOf (classOf isRoot s)
    match s.node.text, s.icon with
    | some t, _ => .inline "span" (attributes s.node.placeholder s.style) (.text t.characters)
    | none, some (.svg width height label) =>
      .inline "div" (attributes s.node.placeholder s.style) (.svg width height label)
    | none, some (.glyph label) =>
      .inline "span" (attributes (some ⟨"img", label⟩) s.style) (.text Icon.fallbackGlyph)
    | none, none =>
      if isList s children then
        .block "ul" (attributes s.node.placeholder (listStyle s.style)) (items children)
      else
        .block (((Landmark.ofName? s.node.name).map Landmark.tag).getD "div")
          (attributes s.node.placeholder s.style) (blocks children)

/-- The elements of the children of a block. -/
def blocks : List (Tree Styled) → List Element
  | [] => []
  | t :: ts => ofTree false t :: blocks ts

/-- The items of the children of a list. -/
def items : List (Tree Styled) → List Element
  | [] => []
  | .node s children :: ts =>
    (match s.node.text with
      | some t => textItem s t
      | none => .block "li" [] [ofTree false (.node s children)]) :: items ts

end

theorem blocks_eq_map (ts : List (Tree Styled)) : blocks ts = ts.map (ofTree false) := by
  induction ts with
  | nil => rfl
  | cons t ts ih => rw [blocks, ih, List.map_cons]

/-- The item of a tree of nodes in a list. -/
def item : Tree Styled → Element
  | .node s children =>
    match s.node.text with
    | some t => textItem s t
    | none => .block "li" [] [ofTree false (.node s children)]

theorem items_eq_map (ts : List (Tree Styled)) : items ts = ts.map item := by
  induction ts with
  | nil => rfl
  | cons t ts ih =>
    cases t with
    | node s children =>
      rw [items, ih, List.map_cons]
      congr 1

/-- The tag of a block. -/
def blockTag (s : Styled) (children : List (Tree Styled)) : String :=
  if isList s children then "ul" else ((Landmark.ofName? s.node.name).map Landmark.tag).getD "div"

/-- The style of a block. -/
def blockStyle (s : Styled) (children : List (Tree Styled)) : StyleMap :=
  if isList s children then listStyle s.style else s.style

variable {s : Styled} (isRoot : Bool) (children : List (Tree Styled))

theorem ofTree_text {t : TextContent} (ht : s.node.text = some t) :
    ofTree isRoot (.node s children) =
      .inline "span" (attributesOf (classOf isRoot s) s.node.placeholder s.style)
        (.text t.characters) := by
  rw [ofTree]
  simp only [ht]

theorem ofTree_svg (ht : s.node.text = none) {width height label : String}
    (hi : s.icon = some (.svg width height label)) :
    ofTree isRoot (.node s children) =
      .inline "div" (attributesOf (classOf isRoot s) s.node.placeholder s.style)
        (.svg width height label) := by
  rw [ofTree]
  simp only [ht, hi]

theorem ofTree_glyph (ht : s.node.text = none) {label : String}
    (hi : s.icon = some (.glyph label)) :
    ofTree isRoot (.node s children) =
      .inline "span" (attributesOf (classOf isRoot s) (some ⟨"img", label⟩) s.style)
        (.text Icon.fallbackGlyph) := by
  rw [ofTree]
  simp only [ht, hi]

theorem ofTree_block (ht : s.node.text = none) (hi : s.icon = none) :
    ofTree isRoot (.node s children) =
      .block (blockTag s children)
        (attributesOf (classOf isRoot s) s.node.placeholder (blockStyle s children))
        (children.map (if isList s children then item else ofTree false)) := by
  rw [ofTree]
  simp only [ht, hi, blockTag, blockStyle, items_eq_map, blocks_eq_map]
  split_ifs <;> rfl

theorem item_text {t : TextContent} (ht : s.node.text = some t) :
    item (.node s children) = textItem s t := by
  rw [item]
  simp only [ht]

theorem item_none (ht : s.node.text = none) :
    item (.node s children) = .block "li" [] [ofTree false (.node s children)] := by
  rw [item]
  simp only [ht]

end Element

end DesignCode
