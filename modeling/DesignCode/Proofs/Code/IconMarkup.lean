import DesignCode.Code.Icon
import DesignCode.Proofs.Code.Element
import DesignCode.Proofs.Decimal.Value
import DesignCode.Proofs.Text.Trim

/-!
# Icons of any name and size

The name of a shape is written into markup.  Whatever the name is, the markup is read as a square and
nothing else, and its label is the name as it was (`isSquareMarkup_svgMarkup`).  A square is made of every
shape whose edges are positive numbers, and of no other (`icon_of_any_shape`).
-/

namespace DesignCode

open Markup (Content IsName ReadsElement attributeText)
open Script (Term)

/-! ### Edges -/

/-- An edge that can be drawn is a finite number above zero. -/
def Icon.IsEdge (v : Float) : Prop := v.isFinite = true ∧ 0 < Decimal.value v

theorem Icon.isDrawable_iff {v : Float} : isDrawable v = true ↔ IsEdge v := by
  have zero : Decimal.value 0 = 0 := by decide +kernel
  unfold isDrawable IsEdge
  rw [decide_eq_true_iff]
  constructor
  · rintro ⟨finite, pos⟩
    refine ⟨finite, ?_⟩
    rwa [Decimal.lt_iff_value_lt (by decide +kernel) finite, zero] at pos
  · rintro ⟨finite, pos⟩
    refine ⟨finite, ?_⟩
    rwa [Decimal.lt_iff_value_lt (by decide +kernel) finite, zero]

/-! ### Labels -/

/-- The label of a name is the name between its outer blanks with the word `icon` behind it. -/
def IconSource.IsLabel (name label : List Char) : Prop :=
  ∃ part, Text.IsTrimmed Text.isBlank part name ∧
    label = if part = [] then "icon".toList else part ++ " icon".toList

theorem IconSource.isLabel_label (s : IconSource) : IsLabel s.name.toList s.label.toList := by
  refine ⟨Text.trim s.name.toList, Text.isTrimmed_trimWhile _ _, ?_⟩
  unfold label
  cases h : Text.trim s.name.toList with
  | nil => rfl
  | cons c part =>
    rw [if_neg (List.cons_ne_nil c part), String.toList_ofList]
    rfl

/-! ### The markup -/

namespace Icon

/-- The attributes of a square and of the rectangle in it show the edges and the label. -/
structure ShowsEdges (square rect : List (List Char × Term)) (width height label : List Char) :
    Prop where
  squareNames : (square.map Prod.fst).Nodup
  rectNames : (rect.map Prod.fst).Nodup
  squareWidth : square.lookup "width".toList = some (.text width)
  squareHeight : square.lookup "height".toList = some (.text height)
  viewBox : square.lookup "viewBox".toList = some (.text ("0 0 ".toList ++ width ++ ' ' :: height))
  label : square.lookup "aria-label".toList = some (.text label)
  rectWidth : rect.lookup "width".toList = some (.text width)
  rectHeight : rect.lookup "height".toList = some (.text height)

/-- A content that is a square and nothing else: one element in an element, with no text in or beside it. -/
inductive IsSquare : Content → (width height label : List Char) → Prop where
  | rect {square rect : List (List Char × Term)} {width height label : List Char}
      (shown : ShowsEdges square rect width height label) :
      IsSquare (.element "svg".toList square [.element "rect".toList rect []]) width height label

/-- Markup that is read as a square.  The brackets of its three tags and the quotes of its twelve attributes
are the only ones that it holds. -/
structure IsSquareMarkup (markup width height label : List Char) : Prop where
  read : ∃ c, Content.read? markup = some c ∧ IsSquare c width height label
  brackets : markup.count '<' = 3 ∧ markup.count '>' = 3
  quotes : markup.count '"' = 24

variable (width height label : String)

theorem isSquare_svgContent :
    IsSquare (svgContent width height label) width.toList height.toList label.toList := by
  have box : ("0 0 " ++ width ++ " " ++ height).toList =
      "0 0 ".toList ++ width.toList ++ ' ' :: height.toList := by
    simp
  refine .rect ⟨?_, ?_, rfl, rfl, ?_, rfl, rfl, rfl⟩
  · show ["xmlns".toList, "width".toList, "height".toList, "viewBox".toList, "fill".toList, "role".toList,
      "aria-label".toList].Nodup
    decide
  · show ["width".toList, "height".toList, "rx".toList, "fill".toList, "opacity".toList].Nodup
    decide
  · rw [← box]
    rfl

/-- The characters that begin or end a tag or the value of an attribute. -/
def IsDelimiter (c : Char) : Prop := c = '<' ∨ c = '>' ∨ c = '"'

theorem IsDelimiter.not_mem_attributeChar {c : Char} (h : IsDelimiter c) (d : Char) :
    c ∉ Markup.attributeChar d := by
  intro mem
  rcases Markup.mem_attributeChar mem with entity | ⟨rfl, -⟩
  · rcases h with rfl | rfl | rfl <;> exact absurd entity (by decide)
  · rcases h with rfl | rfl | rfl <;> exact absurd mem (by decide)

theorem IsDelimiter.count_attributeText {c : Char} (h : IsDelimiter c) (cs : List Char) :
    (attributeText cs).count c = 0 := by
  rw [List.count_eq_zero]
  intro mem
  obtain ⟨d, -, inside⟩ := List.mem_flatMap.1 mem
  exact h.not_mem_attributeChar d inside

theorem IsDelimiter.count_name {c : Char} (h : IsDelimiter c) {name : List Char} (named : IsName name) :
    name.count c = 0 := by
  rw [List.count_eq_zero]
  intro mem
  have allowed := named.2 c mem
  rcases h with rfl | rfl | rfl <;> exact absurd allowed (by decide)

/-- An attribute holds its own two quotes and no bracket. -/
theorem IsDelimiter.count_render {c : Char} (h : IsDelimiter c) {name : String}
    (named : IsName name.toList) (value : String) :
    (Attribute.render (.text name value)).count c = if c = '"' then 2 else 0 := by
  show (' ' :: (name.toList ++ '=' :: '"' :: attributeText value.toList ++ ['"'])).count c = _
  simp only [List.count_cons, List.count_append, h.count_name named, h.count_attributeText]
  rcases h with rfl | rfl | rfl <;> decide

/-- An attribute with a text in quotes, behind a name of markup. -/
def IsQuoted (a : Attribute) : Prop := ∃ name value, a = .text name value ∧ IsName name.toList

theorem IsDelimiter.count_attributes {c : Char} (h : IsDelimiter c) {attributes : List Attribute}
    (quoted : ∀ a ∈ attributes, IsQuoted a) :
    (attributes.flatMap Attribute.render).count c = if c = '"' then 2 * attributes.length else 0 := by
  induction attributes with
  | nil => simp
  | cons a attributes ih =>
    rw [List.forall_mem_cons] at quoted
    obtain ⟨⟨name, value, rfl, named⟩, more⟩ := quoted
    rw [List.flatMap_cons, List.count_append, h.count_render named, ih more, List.length_cons]
    split_ifs <;> omega

/-- A tag with attributes in quotes holds the bracket that opens it, and two quotes for each attribute. -/
theorem IsDelimiter.count_opening {c : Char} (h : IsDelimiter c) {tag : String} (name : IsName tag.toList)
    {attributes : List Attribute} (quoted : ∀ a ∈ attributes, IsQuoted a) :
    (Element.opening tag attributes).count c =
      (if c = '<' then 1 else 0) + if c = '"' then 2 * attributes.length else 0 := by
  rw [Element.opening, List.count_append, List.count_cons, h.count_name name, h.count_attributes quoted]
  rcases h with rfl | rfl | rfl <;> simp

variable (width height label : String)

theorem isQuoted_svgAttributes : ∀ a ∈ svgAttributes width height label, IsQuoted a := by
  simp only [svgAttributes, List.forall_mem_cons, List.not_mem_nil, IsEmpty.forall_iff, implies_true,
    and_true]
  refine ⟨⟨_, _, rfl, ?_⟩, ⟨_, _, rfl, ?_⟩, ⟨_, _, rfl, ?_⟩, ⟨_, _, rfl, ?_⟩, ⟨_, _, rfl, ?_⟩,
    ⟨_, _, rfl, ?_⟩, ⟨_, _, rfl, ?_⟩⟩
  all_goals decide

theorem isQuoted_rectAttributes : ∀ a ∈ rectAttributes width height, IsQuoted a := by
  simp only [rectAttributes, List.forall_mem_cons, List.not_mem_nil, IsEmpty.forall_iff, implies_true,
    and_true]
  refine ⟨⟨_, _, rfl, ?_⟩, ⟨_, _, rfl, ?_⟩, ⟨_, _, rfl, ?_⟩, ⟨_, _, rfl, ?_⟩, ⟨_, _, rfl, ?_⟩⟩
  all_goals decide

/-- The delimiters of the markup are those of its tags and attributes: none comes from a value. -/
theorem IsDelimiter.count_svgMarkup {c : Char} (h : IsDelimiter c) :
    (svgMarkup width height label).count c = if c = '"' then 24 else 3 := by
  have svg := h.count_opening (by decide : IsName "svg".toList) (isQuoted_svgAttributes width height label)
  have rect := h.count_opening (by decide : IsName "rect".toList) (isQuoted_rectAttributes width height)
  rw [svgMarkup_eq, Element.oneLine, List.count_append, List.count_append, svg, List.count_cons,
    List.count_append, rect]
  simp only [svgAttributes, rectAttributes, List.length_cons, List.length_nil]
  rcases h with rfl | rfl | rfl <;> decide

/-- Whatever its values are, the markup of a square is read as the square and nothing else. -/
theorem isSquareMarkup_svgMarkup :
    IsSquareMarkup (svgMarkup width height label) width.toList height.toList label.toList := by
  have read := (Element.reads_svgMarkup width height label).read? (Call.isSpace_replicate 0)
  have less := IsDelimiter.count_svgMarkup width height label (.inl rfl)
  have greater := IsDelimiter.count_svgMarkup width height label (.inr (.inl rfl))
  have quote := IsDelimiter.count_svgMarkup width height label (.inr (.inr rfl))
  rw [if_neg (by decide)] at less greater
  rw [if_pos rfl] at quote
  exact ⟨⟨_, read, isSquare_svgContent width height label⟩, ⟨less, greater⟩, quote⟩

/-! ### The icon of a shape -/

/-- What the icon of a shape with a name and two edges is. -/
structure IsIconOf (icon : Icon) (name : String) (width height : Float) : Prop where
  drawn_iff : (∃ w h label, icon = .svg w h label) ↔ IsEdge width ∧ IsEdge height
  square : ∀ w h label, icon = .svg w h label → w = Css.number width ∧ h = Css.number height ∧
    ∃ shown, IconSource.IsLabel name.toList shown ∧
      IsSquareMarkup (svgMarkup w h label) w.toList h.toList shown
  glyph : ∀ label, icon = .glyph label → IconSource.IsLabel name.toList label.toList

/-- The edges that an icon is made with: the given ones if both are known. -/
def edges : Option Float → Option Float → Float × Float
  | some width, some height => (width, height)
  | _, _ => (24, 24)

theorem isIconOf_ofSource (s : IconSource) {width height : Float}
    (h : s.size.getD (defaultEdge, defaultEdge) = (width, height)) :
    IsIconOf (ofSource s) s.name width height := by
  have label := s.isLabel_label
  by_cases drawn : IsEdge width ∧ IsEdge height
  · have made : ofSource s = .svg (Css.number width) (Css.number height) s.label := by
      unfold ofSource
      rw [h]
      simp [isDrawable_iff, drawn]
    rw [made]
    refine ⟨⟨fun _ => drawn, fun _ => ⟨_, _, _, rfl⟩⟩, ?_, by simp⟩
    rintro w h l same
    obtain ⟨rfl, rfl, rfl⟩ := Icon.svg.inj same
    exact ⟨rfl, rfl, _, label, isSquareMarkup_svgMarkup _ _ _⟩
  · have made : ofSource s = .glyph s.label := by
      unfold ofSource
      rw [h]
      simp [isDrawable_iff, drawn]
    rw [made]
    refine ⟨by simp [drawn], by simp, ?_⟩
    rintro l same
    obtain rfl := Icon.glyph.inj same
    exact label

end Icon

/-- The icon of every node and of every layer is a square with the label and the edges of the shape if its
edges can be drawn, and a glyph with the same label if not. -/
theorem icon_of_any_shape :
    (∀ n : Node,
      let (width, height) := Icon.edges n.width n.height
      (Icon.ofSource (.ofNode n)).IsIconOf n.name width height) ∧
    ∀ l : Layer,
      let (width, height) := Icon.edges (l.box.map (·.width)) (l.box.map (·.height))
      (Icon.ofSource (.ofLayer l)).IsIconOf l.name width height := by
  constructor
  · intro n
    refine Icon.isIconOf_ofSource (.ofNode n) ?_
    unfold IconSource.ofNode
    cases n.width <;> cases n.height <;> rfl
  · intro l
    refine Icon.isIconOf_ofSource (.ofLayer l) ?_
    unfold IconSource.ofLayer
    cases l.box <;> rfl

end DesignCode
