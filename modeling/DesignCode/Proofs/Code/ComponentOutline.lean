import DesignCode.Proofs.Code.Component
import DesignCode.Proofs.Code.Outline

/-!
# The outline of a component

A component has no element for what is below a text or an icon.  `nodesPlaced` gives the trees of nodes
that it has elements for, each with the place where its element stands, and `ReadElement.ofPlaced` that
element.  `elements_ofTree` says that the markup is read as these elements, `map_shown_nodesPlaced` what
the elements show.
-/

namespace DesignCode

open Markup (Content)
open Script (Term)

/-! ### Nodes in a component -/

/-- Where the element of a node stands in a component. -/
inductive Place where
  | root
  | block
  | item
deriving DecidableEq

namespace Styled

/-- Whether a component has no elements for what is below a node: texts and icons are on one line. -/
def covers (s : Styled) : Bool := s.node.isText ∨ s.icon.isSome

/-- The label and the role of the element of a node at a place: an item that is a text has none. -/
def placeholderAt (p : Place) (s : Styled) : Option Placeholder :=
  match s.node.text, s.icon with
  | some _, _ => if p = .item then none else s.node.placeholder
  | none, some (.glyph label) => some ⟨"img", label⟩
  | none, _ => s.node.placeholder

/-- The class of the element of a node at a place, with its lines moved. -/
def classAt (n : Nat) (p : Place) (s : Styled) : Option Term :=
  if p = .root then some (.word "className".toList)
  else s.token.map fun c => .text (Text.moved n c.toList)

/-- The text of the element of a node. -/
def markupText (s : Styled) : List Char :=
  match s.node.text, s.icon with
  | some t, _ => t.characters.toList
  | none, some (.glyph _) => Icon.fallbackGlyph.toList
  | none, _ => []

/-- The place of what is below a node. -/
def placeBelow (s : Styled) (children : List (Tree Styled)) : Place :=
  if Element.isList s children then .item else .block

section

variable {s : Styled}

theorem covers_of_text {t : TextContent} (h : s.node.text = some t) : s.covers = true := by
  simp [covers, Node.isText, h]

theorem covers_of_icon {icon : Icon} (h : s.icon = some icon) : s.covers = true := by
  simp [covers, h]

theorem covers_eq_false (ht : s.node.text = none) (hi : s.icon = none) : s.covers = false := by
  simp [covers, Node.isText, ht, hi]

/-- Being an item takes the label only from a text. -/
theorem placeholderAt_item (ht : s.node.text = none) :
    s.placeholderAt .item = s.placeholderAt .block := by
  unfold placeholderAt
  rw [ht]
  cases s.icon with
  | none => rfl
  | some icon => cases icon <;> rfl

end

end Styled

mutual

/-- The trees of nodes that a component has elements for, with their places: those that nothing covers. -/
def nodesPlaced (p : Place) : Tree Styled → Tree (Place × Tree Styled)
  | .node s children =>
    .node (p, .node s children)
      (if s.covers then [] else nodesPlacedAll (s.placeBelow children) children)

/-- The same for several trees at one place. -/
def nodesPlacedAll (p : Place) : List (Tree Styled) → List (Tree (Place × Tree Styled))
  | [] => []
  | t :: ts => nodesPlaced p t :: nodesPlacedAll p ts

end

theorem nodesPlacedAll_eq_map (p : Place) (ts : List (Tree Styled)) :
    nodesPlacedAll p ts = ts.map (nodesPlaced p) := by
  induction ts with
  | nil => rfl
  | cons t ts ih => rw [nodesPlacedAll, ih, List.map_cons]

theorem nodesPlaced_node (p : Place) (s : Styled) (children : List (Tree Styled)) :
    nodesPlaced p (.node s children) =
      .node (p, .node s children)
        (if s.covers then [] else children.map (nodesPlaced (s.placeBelow children))) := by
  rw [nodesPlaced, nodesPlacedAll_eq_map]

theorem nodesPlaced_covers {s : Styled} (h : s.covers = true) (p : Place)
    (children : List (Tree Styled)) :
    nodesPlaced p (.node s children) = .node (p, .node s children) [] := by
  rw [nodesPlaced_node, if_pos h]

/-- The nodes of these trees, with their places. -/
def nodesShown (p : Place) (t : Tree Styled) : Tree (Place × Styled) :=
  (nodesPlaced p t).map fun x => (x.1, x.2.value)

theorem nodesShown_node (p : Place) (s : Styled) (children : List (Tree Styled)) :
    nodesShown p (.node s children) =
      .node (p, s) (if s.covers then [] else children.map (nodesShown (s.placeBelow children))) := by
  rw [nodesShown, nodesPlaced_node, Tree.map_node]
  split_ifs
  · rfl
  · rw [List.map_map]
    rfl

/-- What the element of a node with the given label and text shows in markup that is moved. -/
def Shown.ofMarkup (n : Nat) (label : Option Placeholder) (cls : Option Term) (text : List Char) :
    Shown where
  label := label.map fun p => .text (Text.moved n p.label.toList)
  cls := cls
  role := label.map fun p => .text (Text.moved n p.role.toList)
  texts := if text = [] then [] else [text]

/-- What the element of a node shows in markup that is moved. -/
def Shown.ofPlaced (n : Nat) (s : Place × Styled) : Shown :=
  .ofMarkup n (s.2.placeholderAt s.1) (s.2.classAt n s.1) s.2.markupText

namespace Element

open Markup.Content (elements elementsAll texts)

theorem lookup_text {β : Type} (n : Nat) (key name : String) (a : Option β) (f : β → String) :
    (((a.map fun b => Attribute.text name (f b)).toList.map (Attribute.moved n)).map
      Attribute.term).lookup key.toList =
        if key = name then a.map fun b => .text (Text.moved n (f b).toList) else none := by
  rw [← lookup_option]
  cases a with
  | none => rfl
  | some b =>
    rw [Option.map_some, Option.toList_some, List.map_singleton, List.map_singleton,
      Attribute.term_moved_text]
    rfl

theorem lookup_class (n : Nat) (isRoot : Bool) (s : Styled) (key : String) :
    (((classOf isRoot s).toList.map (Attribute.moved n)).map Attribute.term).lookup key.toList =
      if key = "className" then s.classAt n (if isRoot then .root else .block) else none := by
  cases isRoot with
  | true => exact lookup_option key "className" (some (Term.word "className".toList)) id
  | false => exact lookup_text n key "className" s.token id

theorem lookup_style (n : Nat) (css : StyleMap) (key : String) :
    (((if css.isEmpty then [] else [Attribute.style css]).map (Attribute.moved n)).map
      Attribute.term).lookup key.toList = if key = "style" then css.term? else none := by
  rw [← Call.lookup_style]
  split_ifs <;> rfl

theorem lookup_attributesOf (n : Nat) (isRoot : Bool) (s : Styled) (label : Option Placeholder)
    (css : StyleMap) (key : String) :
    (((attributesOf (classOf isRoot s) label css).map (Attribute.moved n)).map
        Attribute.term).lookup key.toList =
      (((if key = "aria-label" then label.map fun p => .text (Text.moved n p.label.toList)
          else none).or
        (if key = "className" then s.classAt n (if isRoot then .root else .block) else none)).or
        (if key = "role" then label.map fun p => .text (Text.moved n p.role.toList) else none)).or
        (if key = "style" then css.term? else none) := by
  simp only [attributesOf, List.map_append, List.lookup_append]
  rw [lookup_style n css, lookup_class, lookup_text n key "aria-label" label Placeholder.label,
    lookup_text n key "role" label Placeholder.role]

end Element

/-! ### Elements of nodes -/

/-- The style of the element of the root of a tree: a list has no marks. -/
def Styled.elementStyle (t : Tree Styled) : StyleMap :=
  if t.value.covers then t.value.style else Element.blockStyle t.value t.children

namespace ReadElement

/-- The element of a node with the given label, style and text in markup that is moved. -/
def ofMarkup (n : Nat) (isRoot : Bool) (s : Styled) (label : Option Placeholder) (css : StyleMap)
    (text : List Char) : ReadElement where
  members := ((Element.attributesOf (Element.classOf isRoot s) label css).map
    (Attribute.moved n)).map Attribute.term
  texts := if text = [] then [] else [text]

/-- The element of the root of a tree in markup that is moved. -/
def ofPlaced (n : Nat) (x : Place × Tree Styled) : ReadElement :=
  .ofMarkup n (x.1 = .root) x.2.value (x.2.value.placeholderAt x.1) (Styled.elementStyle x.2)
    x.2.value.markupText

section

variable (n : Nat)

theorem shown_ofMarkup (isRoot : Bool) (s : Styled) (label : Option Placeholder) (css : StyleMap)
    (text : List Char) :
    (ofMarkup n isRoot s label css text).shown =
      .ofMarkup n label (s.classAt n (if isRoot then .root else .block)) text := by
  have labels := Element.lookup_attributesOf n isRoot s label css "aria-label"
  have cls := Element.lookup_attributesOf n isRoot s label css "className"
  have role := Element.lookup_attributesOf n isRoot s label css "role"
  unfold ReadElement.shown ofMarkup Shown.ofMembers Shown.ofMarkup
  rw [labels, cls, role]
  simp

theorem style?_ofMarkup (isRoot : Bool) (s : Styled) (label : Option Placeholder) (css : StyleMap)
    (text : List Char) : (ofMarkup n isRoot s label css text).style? = css.term? := by
  unfold ReadElement.style? ofMarkup
  rw [Element.lookup_attributesOf]
  simp

theorem shown_ofPlaced (x : Place × Tree Styled) :
    (ofPlaced n x).shown = .ofPlaced n (x.1, x.2.value) := by
  have place : x.2.value.classAt n (if decide (x.1 = .root) then .root else .block) =
      x.2.value.classAt n x.1 := by
    cases x.1 <;> rfl
  rw [ofPlaced, shown_ofMarkup, place]
  rfl

/-- The element of a node has the style of the node, or that of a list of it. -/
theorem style?_ofPlaced (x : Place × Tree Styled) :
    (ofPlaced n x).style? = (Styled.elementStyle x.2).term? :=
  style?_ofMarkup n _ _ _ _ _

variable {s : Styled} (children : List (Tree Styled))

theorem ofPlaced_text {t : TextContent} (ht : s.node.text = some t) {p : Place} (hp : p ≠ .item) :
    ofPlaced n (p, .node s children) =
      .ofMarkup n (p = .root) s s.node.placeholder s.style t.characters.toList := by
  simp only [ofPlaced, Tree.value, Styled.elementStyle, Styled.covers_of_text ht, Styled.placeholderAt,
    Styled.markupText, ht, if_neg hp, if_true]

theorem ofPlaced_item {t : TextContent} (ht : s.node.text = some t) :
    ofPlaced n (.item, .node s children) =
      .ofMarkup n false s none s.style t.characters.toList := by
  simp only [ofPlaced, Tree.value, Styled.elementStyle, Styled.covers_of_text ht, Styled.placeholderAt,
    Styled.markupText, ht, if_true]
  rfl

theorem ofPlaced_svg (ht : s.node.text = none) {width height label : String}
    (hi : s.icon = some (.svg width height label)) (p : Place) :
    ofPlaced n (p, .node s children) =
      .ofMarkup n (p = .root) s s.node.placeholder s.style [] := by
  simp only [ofPlaced, Tree.value, Styled.elementStyle, Styled.covers_of_icon hi, Styled.placeholderAt,
    Styled.markupText, ht, hi, if_true]

theorem ofPlaced_glyph (ht : s.node.text = none) {label : String}
    (hi : s.icon = some (.glyph label)) (p : Place) :
    ofPlaced n (p, .node s children) =
      .ofMarkup n (p = .root) s (some ⟨"img", label⟩) s.style Icon.fallbackGlyph.toList := by
  simp only [ofPlaced, Tree.value, Styled.elementStyle, Styled.covers_of_icon hi, Styled.placeholderAt,
    Styled.markupText, ht, hi, if_true]

theorem ofPlaced_block (ht : s.node.text = none) (hi : s.icon = none) (p : Place) :
    ofPlaced n (p, .node s children) =
      .ofMarkup n (p = .root) s s.node.placeholder (Element.blockStyle s children) [] := by
  simp only [ofPlaced, Tree.value, Tree.children, Styled.elementStyle, Styled.covers_eq_false ht hi,
    Styled.placeholderAt, Styled.markupText, ht, hi]
  rfl

/-- The place in a list makes no difference for a node that is no text. -/
theorem ofPlaced_place (ht : s.node.text = none) :
    ofPlaced n (.item, .node s children) = ofPlaced n (.block, .node s children) := by
  rw [ofPlaced, ofPlaced, Tree.value, Styled.placeholderAt_item ht]
  rfl

end

end ReadElement

/-! ### Elements of contents -/

namespace Element

open Markup.Content (elements elementsAll texts)

theorem elements_element {tag : List Char} (h : ¬ (tag = "svg".toList ∨ Markup.isHeading tag = true))
    (attributes : List (List Char × Term)) (contents : List Content)
    (hb : tag = "li".toList → contents.flatMap elements = []) :
    elements (.element tag attributes contents) =
      [.node ⟨attributes, contents.flatMap texts⟩ (contents.flatMap elements)] := by
  rw [elements, if_neg h, Markup.Content.elementsAll_eq]
  by_cases li : tag = "li".toList
  · rw [if_neg (by rw [hb li]; simp)]
  · rw [if_neg fun both => li both.1]

/-- An item around another element stands for that element. -/
theorem elements_item {attributes : List (List Char × Term)} {c : Content} {x : Tree ReadElement}
    (h : elements c = [x]) : elements (.element "li".toList attributes [c]) = [x] := by
  have below : elementsAll [c] = [x] := by
    rw [Markup.Content.elementsAll_eq, List.flatMap_singleton, h]
  rw [elements, if_neg (by decide), below]
  rfl

theorem elements_textContents (cs : List Char) : (Markup.textContents cs).flatMap elements = [] := by
  unfold Markup.textContents
  split_ifs <;> rfl

theorem texts_textContents (cs : List Char) :
    (Markup.textContents cs).flatMap texts = if cs = [] then [] else [cs] := by
  unfold Markup.textContents
  split_ifs <;> rfl

theorem isHeading_headingTag (level : Nat) : Markup.isHeading (headingTag level).toList = true := by
  have digits : (Decimal.digitChars level).all Char.isDigit = true :=
    List.all_eq_true.2 fun c hc => Nat.isDigit_of_mem_toDigits (by decide) (by decide) hc
  rw [toList_headingTag, Markup.isHeading, digits]
  simp [Decimal.digitChars, Nat.toDigits_ne_nil]

/-- The content of an element on one line has no elements of nodes in it. -/
theorem elements_contents (c : InlineContent) : c.contents.flatMap elements = [] := by
  cases c with
  | text s => exact elements_textContents s.toList
  | heading level css s =>
    rw [InlineContent.contents, List.flatMap_singleton, elements,
      if_pos (.inr (isHeading_headingTag level))]
  | svg width height label =>
    rw [InlineContent.contents, List.flatMap_singleton, Icon.svgContent, elements,
      if_pos (.inl rfl)]

end Element

/-- The text that an element on one line shows. -/
def InlineContent.shownText : InlineContent → List Char
  | .text s => s.toList
  | .heading _ _ s => s.toList
  | .svg _ _ _ => []

namespace Element

open Markup.Content (elements texts)

theorem shownText_moved (n : Nat) (c : InlineContent) : (c.moved n).shownText = c.shownText := by
  cases c <;> rfl

theorem texts_contents (c : InlineContent) :
    c.contents.flatMap texts = if c.shownText = [] then [] else [c.shownText] := by
  cases c with
  | text s => exact texts_textContents s.toList
  | heading level css s =>
    rw [InlineContent.contents, List.flatMap_singleton, texts, if_pos (isHeading_headingTag level),
      InlineContent.shownText]
    unfold Markup.textContents
    split_ifs <;> rfl
  | svg width height label => rfl

theorem elements_inline (n : Nat) {tag : String}
    (h : ¬ (tag.toList = "svg".toList ∨ Markup.isHeading tag.toList = true)) (isRoot : Bool)
    (s : Styled) (label : Option Placeholder) (css : StyleMap) (c : InlineContent) :
    elements (moved n (.inline tag (attributesOf (classOf isRoot s) label css) c)).content =
      [.node (.ofMarkup n isRoot s label css c.shownText) []] := by
  have inside := elements_contents (c.moved n)
  have shown := texts_contents (c.moved n)
  rw [shownText_moved] at shown
  have read : (moved n (.inline tag (attributesOf (classOf isRoot s) label css) c)).content =
      .element tag.toList (((attributesOf (classOf isRoot s) label css).map
        (Attribute.moved n)).map Attribute.term) (c.moved n).contents := rfl
  rw [read, elements_element h _ _ fun _ => inside, inside, shown]
  rfl

/-- The tag of an element. -/
def tag : Element → String
  | .inline tag _ _ => tag
  | .block tag _ _ => tag

theorem texts_content {n : Nat} {e : Element} (h : Markup.isHeading e.tag.toList = false) :
    (e.moved n).content.texts = [] := by
  cases e with
  | inline tag attributes c =>
    have read : ((Element.inline tag attributes c).moved n).content.texts =
        if Markup.isHeading tag.toList then (c.moved n).contents.filterMap Markup.Content.text?
        else [] := rfl
    rw [read, if_neg (by rw [show Markup.isHeading tag.toList = false from h]; simp)]
  | block tag attributes children =>
    rw [moved_block, content_block, texts,
      if_neg (by rw [show Markup.isHeading tag.toList = false from h]; simp)]

theorem elements_block (n : Nat) {tag : String}
    (h : ¬ (tag.toList = "svg".toList ∨ Markup.isHeading tag.toList = true))
    (li : tag.toList ≠ "li".toList) (isRoot : Bool)
    (s : Styled) (label : Option Placeholder) (css : StyleMap) {children : List Element}
    (hc : ∀ e ∈ children, Markup.isHeading e.tag.toList = false) :
    elements (moved n (.block tag (attributesOf (classOf isRoot s) label css) children)).content =
      [.node (.ofMarkup n isRoot s label css [])
        (children.flatMap fun e => elements (e.moved n).content)] := by
  have noTexts : (children.map fun e => (e.moved n).content).flatMap texts = [] := by
    rw [List.flatMap_map, List.flatMap_eq_nil_iff]
    exact fun e he => texts_content (hc e he)
  have read : (moved n (.block tag (attributesOf (classOf isRoot s) label css) children)).content =
      .element tag.toList (((attributesOf (classOf isRoot s) label css).map
        (Attribute.moved n)).map Attribute.term) (children.map fun e => (e.moved n).content) := by
    have below : (children.map (moved n)).map content = children.map fun e => (e.moved n).content :=
      List.map_map
    rw [moved_block, content_block, below]
  rw [read, elements_element h _ _ fun e => absurd e li, noTexts, List.flatMap_map]
  rfl

/-! ### Tags -/

/-- The tag of a block is that of an element of its own, and not that of an item. -/
theorem blockTag_cases (s : Styled) (children : List (Tree Styled)) :
    ¬ ((blockTag s children).toList = "svg".toList ∨
        Markup.isHeading (blockTag s children).toList = true) ∧
      (blockTag s children).toList ≠ "li".toList := by
  cases list : isList s children with
  | true =>
    rw [blockTag_of_isList list]
    decide
  | false =>
    have other : ∀ tag ∈ containerTags,
        ¬ (tag.toList = "svg".toList ∨ Markup.isHeading tag.toList = true) ∧
          tag.toList ≠ "li".toList := by decide
    exact other _ (blockTag_mem list)

theorem isHeading_tag_ofTree (isRoot : Bool) (t : Tree Styled) :
    Markup.isHeading (ofTree isRoot t).tag.toList = false := by
  cases t with
  | node s children =>
    refine ofTree_cases (motive := fun e => Markup.isHeading e.tag.toList = false)
      (fun tag label c tags _ => ?_) fun _ _ => ?_
    · rw [Element.tag]
      rcases tags with rfl | rfl <;> decide
    · rw [tag]
      simpa using fun h => (blockTag_cases s children).1 (.inr h)

theorem isHeading_tag_item (t : Tree Styled) : Markup.isHeading (item t).tag.toList = false := by
  cases t with
  | node s children =>
    cases ht : s.node.text with
    | some t =>
      rw [item_text children ht, textItem, tag]
      decide
    | none =>
      rw [item_none children ht, tag]
      decide

theorem isHeading_tag_children (s : Styled) (children : List (Tree Styled)) :
    ∀ e ∈ children.map (if isList s children then item else ofTree false),
      Markup.isHeading e.tag.toList = false := by
  rw [List.forall_mem_map]
  intro t _
  split_ifs
  · exact isHeading_tag_item t
  · exact isHeading_tag_ofTree false t

end Element

/-! ### The elements of a component -/

/-- The item of a text shows the text, as a heading or not. -/
theorem elements_textItem (n : Nat) (s : Styled) (t : TextContent) :
    ((Element.textItem s t).moved n).content.elements =
      [.node (.ofMarkup n false s none s.style t.characters.toList) []] := by
  have li : ¬ ("li".toList = "svg".toList ∨ Markup.isHeading "li".toList = true) := by decide
  rw [Element.textItem, Element.elements_inline n li]
  cases headingLevel? s.node.name <;> rfl

/-- The element of a tree of nodes is read as the elements of the nodes that nothing covers, each at its
place; so is its item. -/
def IsRead (n : Nat) (t : Tree Styled) : Prop :=
  (∀ isRoot, ((Element.ofTree isRoot t).moved n).content.elements =
      [(nodesPlaced (if isRoot then .root else .block) t).map (ReadElement.ofPlaced n)]) ∧
    ((Element.item t).moved n).content.elements =
      [(nodesPlaced .item t).map (ReadElement.ofPlaced n)]

/-- What is in a block is read as what is below the node, as items or not. -/
theorem elements_children (n : Nat) (s : Styled) {children : List (Tree Styled)}
    (ih : ∀ c ∈ children, IsRead n c) :
    (children.map (if Element.isList s children then Element.item else Element.ofTree false)).flatMap
        (fun e => (e.moved n).content.elements) =
      (children.map (nodesPlaced (s.placeBelow children))).map (Tree.map (ReadElement.ofPlaced n)) := by
  rw [List.flatMap_map, List.map_map, List.map_eq_flatMap]
  refine List.flatMap_congr ?_
  intro c hc
  unfold Styled.placeBelow
  split_ifs
  · exact (ih c hc).2
  · exact (ih c hc).1 false

/-- The element of a node is read as that of the node, with those of what it does not cover below. -/
theorem elements_node (n : Nat) (s : Styled) {children : List (Tree Styled)}
    (ih : ∀ c ∈ children, IsRead n c) (isRoot : Bool) :
    ((Element.ofTree isRoot (.node s children)).moved n).content.elements =
      [(nodesPlaced (if isRoot then .root else .block) (.node s children)).map
        (ReadElement.ofPlaced n)] := by
  have span : ¬ ("span".toList = "svg".toList ∨ Markup.isHeading "span".toList = true) := by decide
  have div : ¬ ("div".toList = "svg".toList ∨ Markup.isHeading "div".toList = true) := by decide
  have place : (if isRoot then Place.root else .block) ≠ .item := by
    cases isRoot <;> decide
  have root : decide ((if isRoot then Place.root else .block) = .root) = isRoot := by
    cases isRoot <;> decide
  cases ht : s.node.text with
  | some t =>
    rw [Element.ofTree_text isRoot children ht, Element.elements_inline n span,
      nodesPlaced_covers (Styled.covers_of_text ht), Tree.map_node,
      ReadElement.ofPlaced_text n children ht place, root]
    rfl
  | none =>
    cases hi : s.icon with
    | none =>
      have uncovered : s.covers = false := Styled.covers_eq_false ht hi
      obtain ⟨plain, li⟩ := Element.blockTag_cases s children
      rw [Element.ofTree_block isRoot children ht hi,
        Element.elements_block n plain li _ _ _ _ (Element.isHeading_tag_children s children),
        elements_children n s ih, nodesPlaced_node, uncovered, Tree.map_node,
        ReadElement.ofPlaced_block n children ht hi, root]
      rfl
    | some icon =>
      have covers : s.covers = true := Styled.covers_of_icon hi
      cases icon with
      | svg width height label =>
        rw [Element.ofTree_svg isRoot children ht hi, Element.elements_inline n div,
          nodesPlaced_covers covers, Tree.map_node, ReadElement.ofPlaced_svg n children ht hi, root]
        rfl
      | glyph label =>
        rw [Element.ofTree_glyph isRoot children ht hi, Element.elements_inline n span,
          nodesPlaced_covers covers, Tree.map_node, ReadElement.ofPlaced_glyph n children ht hi, root]
        rfl

theorem elements_ofTree (n : Nat) (t : Tree Styled) : IsRead n t := by
  induction t using Tree.induct with
  | node s children ih =>
    refine ⟨elements_node n s ih, ?_⟩
    cases ht : s.node.text with
    | some t =>
      rw [Element.item_text children ht, nodesPlaced_covers (Styled.covers_of_text ht),
        Tree.map_node, ReadElement.ofPlaced_item n children ht, elements_textItem]
      rfl
    | none =>
      -- the item of another node is put around the element of the node
      have inside := elements_node n s ih false
      rw [nodesPlaced_node, Tree.map_node] at inside
      rw [Element.item_none children ht, Element.moved_block, Element.content_block,
        nodesPlaced_node, Tree.map_node, ReadElement.ofPlaced_place n children ht]
      exact Element.elements_item inside

/-- The elements of nodes show what their places leave of the nodes. -/
theorem map_shown_nodesPlaced (n : Nat) (p : Place) (t : Tree Styled) :
    ((nodesPlaced p t).map (ReadElement.ofPlaced n)).map ReadElement.shown =
      (nodesShown p t).map (Shown.ofPlaced n) := by
  rw [nodesShown, Tree.map_map, Tree.map_map]
  congr 1
  funext x
  exact ReadElement.shown_ofPlaced n x

end DesignCode
