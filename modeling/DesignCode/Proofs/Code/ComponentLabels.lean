import DesignCode.Proofs.Code.ComponentOutline

/-!
# The labels in a component

`attachedLabels` lists the labels that a component gives to the elements of its nodes: those of
placeholders, of glyphs and of the squares of icons.  Its source has the same labels in the same order, but
the markup is moved to its margin line by line, and with it the lines of the labels: only labels on one line
are left as they are (`componentLabels_read`).
-/

namespace DesignCode

open Markup (Content)
open Script (Term)

/-! ### Labels that are read -/

namespace Markup

/-- The label that a name with a value is. -/
def label? (a : List Char × Term) : Option (List Char) :=
  if a.1 = "aria-label".toList then a.2.text? else none

namespace Content

mutual

/-- The labels in a content; that of an element comes before those below it. -/
def labels : Content → List (List Char)
  | text _ => []
  | element _ attributes contents => attributes.filterMap label? ++ labelsAll contents

/-- The labels in several contents. -/
def labelsAll : List Content → List (List Char)
  | [] => []
  | c :: cs => labels c ++ labelsAll cs

end

theorem labelsAll_eq (cs : List Content) : labelsAll cs = cs.flatMap labels := by
  induction cs with
  | nil => rfl
  | cons c cs ih => rw [labelsAll, ih, List.flatMap_cons]

theorem labels_element (tag : List Char) (attributes : List (List Char × Term))
    (contents : List Content) :
    labels (.element tag attributes contents) =
      attributes.filterMap label? ++ contents.flatMap labels := by
  rw [labels, labelsAll_eq]

end Content

end Markup

/-! ### Labels that are attached -/

/-- The label that an attribute is. -/
def Attribute.label? : Attribute → Option String
  | text name value => if name = "aria-label" then some value else none
  | givenClass => none
  | style _ => none

/-- The label in the content of an element on one line, which is that of a square. -/
def InlineContent.label? : InlineContent → Option String
  | text _ => none
  | heading _ _ _ => none
  | svg _ _ label => some label

namespace Element

/-- The labels in an element; its own comes before those below it. -/
def labels (e : Element) : List String :=
  e.fold (fun _ attributes c => attributes.filterMap Attribute.label? ++ c.label?.toList)
    fun _ attributes below => attributes.filterMap Attribute.label? ++ below.flatten

theorem labels_block (tag : String) (attributes : List Attribute) (children : List Element) :
    labels (.block tag attributes children) =
      attributes.filterMap Attribute.label? ++ children.flatMap labels := by
  rw [labels, fold_block, List.flatMap_def]
  rfl

end Element

/-! ### Reading and moving labels -/

namespace Attribute

theorem label?_term (a : Attribute) : Markup.label? a.term = a.label?.map String.toList := by
  cases a with
  | text name value =>
    have named : name.toList = "aria-label".toList ↔ name = "aria-label" := String.toList_inj
    show (if name.toList = "aria-label".toList then some value.toList else none) =
      (if name = "aria-label" then some value else none).map String.toList
    simp only [named]
    split_ifs <;> rfl
  | givenClass => exact if_neg (by decide : ¬ "className".toList = "aria-label".toList)
  | style css => exact if_neg (by decide : ¬ "style".toList = "aria-label".toList)

theorem filterMap_label?_term (attributes : List Attribute) :
    (attributes.map term).filterMap Markup.label? =
      (attributes.filterMap label?).map String.toList := by
  rw [List.filterMap_map, List.map_filterMap]
  exact congrArg (List.filterMap · attributes) (funext label?_term)

theorem label?_moved (n : Nat) (a : Attribute) :
    (a.moved n).label? = a.label?.map fun l => String.ofList (Text.moved n l.toList) := by
  cases a with
  | text name value =>
    unfold moved label?
    dsimp only
    split_ifs <;> rfl
  | givenClass => rfl
  | style css => rfl

theorem filterMap_label?_moved (n : Nat) (attributes : List Attribute) :
    (attributes.map (Attribute.moved n)).filterMap label? =
      (attributes.filterMap label?).map fun l => String.ofList (Text.moved n l.toList) := by
  rw [List.filterMap_map, List.map_filterMap]
  exact congrArg (List.filterMap · attributes) (funext (label?_moved n))

end Attribute

theorem Markup.Content.labels_textContents (cs : List Char) :
    (Markup.textContents cs).flatMap labels = [] := by
  unfold Markup.textContents
  split_ifs <;> rfl

namespace InlineContent

theorem labels_contents (c : InlineContent) :
    c.contents.flatMap Content.labels = c.label?.toList.map String.toList := by
  cases c with
  | text s => exact Content.labels_textContents s.toList
  | heading level css s =>
    have style : [Attribute.style css].filterMap Attribute.label? = [] := rfl
    have read := Attribute.filterMap_label?_term [.style css]
    rw [contents, List.flatMap_singleton, Content.labels_element, Content.labels_textContents,
      List.append_nil]
    rw [style] at read
    exact read
  | svg width height label =>
    -- of the attributes of the square and the rectangle in it only one is a label
    have svg : (Icon.svgAttributes width height label).filterMap Attribute.label? = [label] := rfl
    have rect : (Icon.rectAttributes width height).filterMap Attribute.label? = [] := rfl
    rw [contents, List.flatMap_singleton, Icon.svgContent, Content.labels_element,
      List.flatMap_singleton, Content.labels_element, Attribute.filterMap_label?_term,
      Attribute.filterMap_label?_term, svg, rect]
    rfl

theorem label?_moved (n : Nat) (c : InlineContent) :
    (c.moved n).label? = c.label?.map fun l => String.ofList (Text.moved n l.toList) := by
  cases c <;> rfl

end InlineContent

namespace Element

theorem labels_content (e : Element) : e.content.labels = e.labels.map String.toList := by
  induction e using induct with
  | inline tag attributes c =>
    show Content.labels (.element tag.toList (attributes.map Attribute.term) c.contents) =
      (attributes.filterMap Attribute.label? ++ c.label?.toList).map String.toList
    rw [Content.labels_element, Attribute.filterMap_label?_term, c.labels_contents, List.map_append]
  | block tag attributes children ih =>
    rw [content_block, Content.labels_element, Attribute.filterMap_label?_term, labels_block,
      List.map_append, List.flatMap_map, List.map_flatMap]
    exact congrArg _ (List.flatMap_congr ih)

/-- Moving an element moves the lines of all its labels. -/
theorem labels_moved (n : Nat) (e : Element) :
    (e.moved n).labels = e.labels.map fun l => String.ofList (Text.moved n l.toList) := by
  induction e using induct with
  | inline tag attributes c =>
    show (attributes.map (Attribute.moved n)).filterMap Attribute.label? ++ (c.moved n).label?.toList =
      (attributes.filterMap Attribute.label? ++ c.label?.toList).map _
    rw [Attribute.filterMap_label?_moved, c.label?_moved, List.map_append, Option.toList_map]
  | block tag attributes children ih =>
    rw [moved_block, labels_block, Attribute.filterMap_label?_moved, labels_block, List.map_append,
      List.flatMap_map, List.map_flatMap]
    exact congrArg _ (List.flatMap_congr ih)

end Element

/-! ### Labels of nodes -/

/-- The label of the square of a node that is shown as one. -/
def Styled.squareLabel? (s : Styled) : Option String :=
  match s.node.text, s.icon with
  | none, some (.svg _ _ label) => some label
  | _, _ => none

/-- The labels that a component gives to a node at a place: that of its element, which comes from the
placeholder or the glyph, and that of its square. -/
def Styled.labelsAt (p : Place) (s : Styled) : List String :=
  ((s.placeholderAt p).map (·.label)).toList ++ s.squareLabel?.toList

/-- The labels that a component gives to the nodes of a tree, in the order of the nodes. -/
def labelsShown (p : Place) (t : Tree Styled) : List String :=
  (nodesShown p t).preorder.flatMap fun s => s.2.labelsAt s.1

/-- The labels that a component of a tree attaches to its elements. -/
def attachedLabels (o : Options) (t : Tree Node) : List String :=
  labelsShown .root (Styled.ofTree o t)

theorem labelsShown_node (p : Place) (s : Styled) (children : List (Tree Styled)) :
    labelsShown p (.node s children) =
      s.labelsAt p ++
        if s.covers then [] else children.flatMap (labelsShown (s.placeBelow children)) := by
  rw [labelsShown, nodesShown_node, Tree.preorder_node, List.flatMap_cons]
  split_ifs
  · rfl
  · rw [List.flatMap_map, List.flatMap_assoc]
    rfl

theorem labelsShown_covers {s : Styled} (h : s.covers = true) (p : Place)
    (children : List (Tree Styled)) : labelsShown p (.node s children) = s.labelsAt p := by
  rw [labelsShown_node, if_pos h, List.append_nil]

namespace Element

theorem labels_attributesOf (isRoot : Bool) (s : Styled) (label : Option Placeholder)
    (css : StyleMap) :
    (attributesOf (classOf isRoot s) label css).filterMap Attribute.label? =
      (label.map (·.label)).toList := by
  -- neither the class nor the style of an element is a label
  have cls : (classOf isRoot s).toList.filterMap Attribute.label? = [] := by
    unfold classOf
    split_ifs
    · rfl
    · cases s.token <;> rfl
  have style : (if css.isEmpty then [] else [Attribute.style css]).filterMap Attribute.label? = [] := by
    split_ifs <;> rfl
  rw [attributesOf, List.filterMap_append, List.filterMap_append, List.filterMap_append, cls, style]
  cases label <;> rfl

theorem labels_inline (tag : String) (isRoot : Bool) (s : Styled) (label : Option Placeholder)
    (css : StyleMap) (c : InlineContent) :
    labels (.inline tag (attributesOf (classOf isRoot s) label css) c) =
      (label.map (·.label)).toList ++ c.label?.toList := by
  rw [← labels_attributesOf isRoot s label css]
  rfl

theorem labels_textItem (s : Styled) (t : TextContent) : (textItem s t).labels = [] := by
  rw [textItem, labels_inline]
  cases headingLevel? s.node.name <;> rfl

end Element

/-- The labels in the element of a tree of nodes are those that its nodes are given; so are those in its
item. -/
def IsLabeled (t : Tree Styled) : Prop :=
  (∀ isRoot, (Element.ofTree isRoot t).labels = labelsShown (if isRoot then .root else .block) t) ∧
    (Element.item t).labels = labelsShown .item t

theorem labels_children (s : Styled) {children : List (Tree Styled)}
    (ih : ∀ c ∈ children, IsLabeled c) :
    (children.map (if Element.isList s children then Element.item else Element.ofTree false)).flatMap
        Element.labels =
      children.flatMap (labelsShown (s.placeBelow children)) := by
  rw [List.flatMap_map]
  refine List.flatMap_congr ?_
  intro c hc
  unfold Styled.placeBelow
  split_ifs
  · exact (ih c hc).2
  · exact (ih c hc).1 false

theorem labels_node (s : Styled) {children : List (Tree Styled)}
    (ih : ∀ c ∈ children, IsLabeled c) (isRoot : Bool) :
    (Element.ofTree isRoot (.node s children)).labels =
      labelsShown (if isRoot then .root else .block) (.node s children) := by
  have place : (if isRoot then Place.root else .block) ≠ .item := by
    cases isRoot <;> decide
  cases ht : s.node.text with
  | some t =>
    rw [Element.ofTree_text isRoot children ht, Element.labels_inline,
      labelsShown_covers (Styled.covers_of_text ht)]
    simp [Styled.labelsAt, Styled.placeholderAt, Styled.squareLabel?, ht, place,
      InlineContent.label?]
  | none =>
    cases hi : s.icon with
    | none =>
      rw [Element.ofTree_block isRoot children ht hi, Element.labels_block,
        Element.labels_attributesOf, labels_children s ih, labelsShown_node,
        Styled.covers_eq_false ht hi]
      simp [Styled.labelsAt, Styled.placeholderAt, Styled.squareLabel?, ht, hi]
    | some icon =>
      have covers : s.covers = true := Styled.covers_of_icon hi
      cases icon with
      | svg width height label =>
        rw [Element.ofTree_svg isRoot children ht hi, Element.labels_inline,
          labelsShown_covers covers]
        simp [Styled.labelsAt, Styled.placeholderAt, Styled.squareLabel?, ht, hi,
          InlineContent.label?]
      | glyph label =>
        rw [Element.ofTree_glyph isRoot children ht hi, Element.labels_inline,
          labelsShown_covers covers]
        simp [Styled.labelsAt, Styled.placeholderAt, Styled.squareLabel?, ht, hi,
          InlineContent.label?]

theorem labels_ofTree (t : Tree Styled) : IsLabeled t := by
  induction t using Tree.induct with
  | node s children ih =>
    refine ⟨labels_node s ih, ?_⟩
    cases ht : s.node.text with
    | some t =>
      rw [Element.item_text children ht, Element.labels_textItem,
        labelsShown_covers (Styled.covers_of_text ht)]
      simp [Styled.labelsAt, Styled.placeholderAt, Styled.squareLabel?, ht]
    | none =>
      -- the item is put around the element of the node and has no label of its own
      have element := labels_node s ih false
      have place : s.labelsAt .item = s.labelsAt .block := by
        rw [Styled.labelsAt, Styled.labelsAt, Styled.placeholderAt_item ht]
      rw [labelsShown_node] at element
      rw [Element.item_none children ht, Element.labels_block, List.flatMap_singleton, element,
        labelsShown_node, place]
      rfl

/-! ### The whole component -/

theorem labels_componentElement (o : Options) (t : Tree Node) :
    (componentElement o t).content.labels =
      (attachedLabels o t).map fun l => Text.moved 4 l.toList := by
  have shown := (labels_ofTree (Styled.ofTree o t)).1 true
  rw [componentElement, Element.labels_content, Element.labels_moved, shown, List.map_map,
    attachedLabels]
  simp [Function.comp_def]

/-- The markup in the source of a component is read with the labels that the component attaches, in their
order, and each is moved by the margin.  They are exactly the attached labels if and only if these have no
line feed. -/
theorem componentLabels_read (o : Options) (t : Tree Node) :
    ∃ markup content,
      (componentCode o t).toList =
          componentFrame o.identifier.toList o.memo ((componentRules o t).map String.toList) markup ∧
        Content.read? markup = some content ∧
        content.labels = (attachedLabels o t).map (fun l => Text.moved 4 l.toList) ∧
        (content.labels = (attachedLabels o t).map String.toList ↔
          ∀ l ∈ attachedLabels o t, '\n' ∉ l.toList) := by
  obtain ⟨source, read⟩ := componentCode_reads o t
  refine ⟨_, _, source, read, labels_componentElement o t, ?_⟩
  rw [labels_componentElement, List.map_inj_left]
  refine forall₂_congr ?_
  intro l _
  exact Text.moved_eq_self_iff (by decide)

/-- An image whose name has two lines. -/
def twoLineImage : Tree Node :=
  .node { id := "1", name := "Hero\nImage", kind := .rectangle
          placeholder := some ⟨"img", "Hero\nImage placeholder"⟩ } []

/-- The second line of such a name is moved by the margin of the markup. -/
theorem twoLineImage_label_moved :
    ∃ content, Content.read? (Text.indent 4 (componentBody {} twoLineImage)) = some content ∧
      attachedLabels {} twoLineImage = ["Hero\nImage placeholder"] ∧
      content.labels = ["Hero\n    Image placeholder".toList] := by
  refine ⟨_, (componentCode_reads {} twoLineImage).2, rfl, ?_⟩
  rw [labels_componentElement]
  have attached : attachedLabels {} twoLineImage = ["Hero\nImage placeholder"] := rfl
  rw [attached]
  decide

end DesignCode
