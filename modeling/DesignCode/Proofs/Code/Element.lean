import DesignCode.Proofs.Code.Call
import DesignCode.Proofs.Code.NodeElement
import DesignCode.Proofs.Markup.Moved

/-!
# Reading elements of markup

`Element.content` is what an element of markup is read as.  `Element.written` is the text of an element
behind a margin; it is read as the content of the element (`reads_written`), and moving its lines gives
the text of the same element at a wider margin with the values of its attributes moved
(`moves_written`).
-/

namespace DesignCode

open Markup (Content IsName ReadsAttribute ReadsContents ReadsElement)
open Script (Term isSpace)
open Text (Moves isBreak lineBreak)

/-! ### Walking over elements -/

namespace Element

variable {β : Type}

mutual

/-- Computes a result from an element on one line, or from a block and the results of its children. -/
def fold (inline : String → List Attribute → InlineContent → β)
    (block : String → List Attribute → List β → β) : Element → β
  | .inline tag attributes content => inline tag attributes content
  | .block tag attributes children => block tag attributes (foldAll inline block children)

/-- The results of several elements. -/
def foldAll (inline : String → List Attribute → InlineContent → β)
    (block : String → List Attribute → List β → β) : List Element → List β
  | [] => []
  | e :: es => fold inline block e :: foldAll inline block es

end

theorem foldAll_eq_map (inline : String → List Attribute → InlineContent → β)
    (block : String → List Attribute → List β → β) (es : List Element) :
    foldAll inline block es = es.map (fold inline block) := by
  induction es with
  | nil => rfl
  | cons e es ih => rw [foldAll, ih, List.map_cons]

theorem fold_block (inline : String → List Attribute → InlineContent → β)
    (block : String → List Attribute → List β → β) (tag : String) (attributes : List Attribute)
    (children : List Element) :
    fold inline block (.block tag attributes children) =
      block tag attributes (children.map (fold inline block)) := by
  rw [fold, foldAll_eq_map]

end Element

/-! ### Names and contents -/

namespace Attribute

/-- The name and the value of an attribute. -/
def term : Attribute → List Char × Term
  | text name value => (name.toList, .text value.toList)
  | givenClass => ("className".toList, .word "className".toList)
  | style css => ("style".toList, css.term)

/-- The attribute with the lines of its text moved. -/
def moved (n : Nat) : Attribute → Attribute
  | text name value => text name (String.ofList (Text.moved n value.toList))
  | givenClass => givenClass
  | style css => style css

theorem term_moved_text (n : Nat) (name value : String) :
    ((text name value).moved n).term = (name.toList, .text (Text.moved n value.toList)) := by
  show (name.toList, Term.text (String.ofList (Text.moved n value.toList)).toList) = _
  rw [String.toList_ofList]

/-- The name of an attribute is a name of markup. -/
def IsNamed : Attribute → Prop
  | text name _ => IsName name.toList
  | givenClass => True
  | style _ => True

end Attribute

namespace Icon

/-- The attributes of the markup of a square. -/
def svgAttributes (width height label : String) : List Attribute :=
  [.text "xmlns" "http://www.w3.org/2000/svg", .text "width" width, .text "height" height,
    .text "viewBox" ("0 0 " ++ width ++ " " ++ height), .text "fill" "none", .text "role" "img",
    .text "aria-label" label]

/-- The attributes of the square in its markup. -/
def rectAttributes (width height : String) : List Attribute :=
  [.text "width" width, .text "height" height, .text "rx" "2", .text "fill" "currentColor",
    .text "opacity" "0.2"]

/-- What the markup of a square is read as. -/
def svgContent (width height label : String) : Content :=
  .element "svg".toList ((svgAttributes width height label).map Attribute.term)
    [.element "rect".toList ((rectAttributes width height).map Attribute.term) []]

/-- The pieces of the markup of a square, however its attributes are written. -/
theorem svgMarkup_pieces (f : String × String → List Char) (svg rect : List Char)
    (x w h v n r l k c o : String × String) :
    '<' :: svg ++ f x ++ f w ++ f h ++ f v ++ f n ++ f r ++ f l ++ '>' :: '<' :: rect ++
        f w ++ f h ++ f k ++ f c ++ f o ++ '/' :: '>' :: '<' :: '/' :: (svg ++ ['>']) =
      '<' :: svg ++ [x, w, h, v, n, r, l].flatMap f ++
        '>' :: ('<' :: rect ++ [w, h, k, c, o].flatMap f ++ ['/', '>']) ++
        ('<' :: '/' :: svg ++ ['>']) := by
  simp

theorem svgMarkup_eq (width height label : String) :
    svgMarkup width height label =
      Element.oneLine "svg" (svgAttributes width height label)
        (Element.opening "rect" (rectAttributes width height) ++ ['/', '>']) := by
  have svg : "<svg".toList = '<' :: "svg".toList := by decide
  have rect : "><rect".toList = '>' :: '<' :: "rect".toList := by decide
  have ends : "/></svg>".toList = '/' :: '>' :: '<' :: '/' :: ("svg".toList ++ ['>']) := by decide
  unfold svgMarkup
  rw [svg, rect, ends]
  exact svgMarkup_pieces (fun a => Attribute.render (.text a.1 a.2)) _ _ ("xmlns", _) ("width", _)
    ("height", _) ("viewBox", _) ("fill", _) ("role", _) ("aria-label", _) ("rx", _) ("fill", _)
    ("opacity", _)

theorem isNamed_svgAttributes (width height label : String) :
    ∀ a ∈ svgAttributes width height label, a.IsNamed := by
  simp only [svgAttributes, List.forall_mem_cons, Attribute.IsNamed, List.not_mem_nil,
    IsEmpty.forall_iff, implies_true, and_true]
  decide

theorem isNamed_rectAttributes (width height : String) :
    ∀ a ∈ rectAttributes width height, a.IsNamed := by
  simp only [rectAttributes, List.forall_mem_cons, Attribute.IsNamed, List.not_mem_nil,
    IsEmpty.forall_iff, implies_true, and_true]
  decide

end Icon

namespace InlineContent

/-- What the content of an element on one line is read as. -/
def contents : InlineContent → List Content
  | text s => Markup.textContents s.toList
  | heading level css s =>
    [.element (Element.headingTag level).toList [Attribute.term (.style css)]
      (Markup.textContents s.toList)]
  | svg width height label => [Icon.svgContent width height label]

/-- The content with the lines of the label of a square moved. -/
def moved (n : Nat) : InlineContent → InlineContent
  | text s => text s
  | heading level css s => heading level css s
  | svg width height label => svg width height (String.ofList (Text.moved n label.toList))

/-- The edges of a square are written on one line. -/
def IsDrawn : InlineContent → Prop
  | text _ => True
  | heading _ _ _ => True
  | svg width height _ =>
    (∀ c ∈ width.toList, isBreak c = false) ∧ ∀ c ∈ height.toList, isBreak c = false

end InlineContent

namespace Element

/-- What an element is read as. -/
def content (e : Element) : Content :=
  e.fold (fun tag attributes c => .element tag.toList (attributes.map Attribute.term) c.contents)
    fun tag attributes below => .element tag.toList (attributes.map Attribute.term) below

/-- The element with the lines of the texts of its attributes moved. -/
def moved (n : Nat) (e : Element) : Element :=
  e.fold (fun tag attributes c => .inline tag (attributes.map (Attribute.moved n)) (c.moved n))
    fun tag attributes below => .block tag (attributes.map (Attribute.moved n)) below

/-- The text of an element behind a margin.  The lines of what is in a block have a margin that is two
columns wider. -/
def written (column : Nat) (e : Element) : List Char :=
  e.fold (fun tag attributes c _ => oneLine tag attributes (renderContent c))
    (fun tag attributes below column =>
      if below.isEmpty then opening tag attributes ++ [' ', '/', '>']
      else
        oneLine tag attributes
          (below.flatMap (fun w => lineBreak (column + 2) ++ w (column + 2)) ++ lineBreak column))
    column

theorem content_block (tag : String) (attributes : List Attribute) (children : List Element) :
    content (.block tag attributes children) =
      .element tag.toList (attributes.map Attribute.term) (children.map content) := by
  rw [content, fold_block]
  rfl

theorem moved_block (n : Nat) (tag : String) (attributes : List Attribute)
    (children : List Element) :
    moved n (.block tag attributes children) =
      .block tag (attributes.map (Attribute.moved n)) (children.map (moved n)) := by
  rw [moved, fold_block]
  rfl

theorem written_block (column : Nat) (tag : String) (attributes : List Attribute)
    (children : List Element) :
    written column (.block tag attributes children) =
      if children.isEmpty then opening tag attributes ++ [' ', '/', '>']
      else
        oneLine tag attributes
          (children.flatMap (fun e => lineBreak (column + 2) ++ written (column + 2) e) ++
            lineBreak column) := by
  rw [written, fold_block, List.isEmpty_map, List.flatMap_map]
  rfl

/-- An element with names of tags and attributes that can be read, and squares on one line. -/
inductive IsMarkup : Element → Prop where
  | inline {tag : String} {attributes : List Attribute} {content : InlineContent}
      (name : IsName tag.toList) (named : ∀ a ∈ attributes, a.IsNamed) (drawn : content.IsDrawn) :
      IsMarkup (.inline tag attributes content)
  | block {tag : String} {attributes : List Attribute} {children : List Element}
      (name : IsName tag.toList) (named : ∀ a ∈ attributes, a.IsNamed)
      (below : ∀ e ∈ children, IsMarkup e) : IsMarkup (.block tag attributes children)

/-! ### Reading -/

theorem opening_append (tag : String) (attributes : List Attribute) (rest : List Char) :
    opening tag attributes ++ rest =
      '<' :: (tag.toList ++ ((attributes.map Attribute.render).flatten ++ rest)) := by
  simp [opening, List.flatMap_def]

theorem oneLine_eq (tag : String) (attributes : List Attribute) (w : List Char) :
    oneLine tag attributes w =
      '<' :: (tag.toList ++ ((attributes.map Attribute.render).flatten ++
        '>' :: (w ++ '<' :: '/' :: (tag.toList ++ ['>'])))) := by
  rw [oneLine, closing, List.append_assoc, opening_append]
  rfl

end Element

theorem Attribute.reads_render {a : Attribute} (h : a.IsNamed) : ReadsAttribute a.render a.term := by
  cases a with
  | text name value => exact Markup.readsAttribute_quoted h _
  | givenClass =>
    have written : givenClass.render =
        ' ' :: ("className".toList ++ '=' :: '\x7b' :: ("className".toList ++ ['\x7d'])) := by
      unfold render
      decide
    have name : IsName "className".toList := by decide
    rw [written]
    exact Markup.readsAttribute_braces name (Script.reads_word (by decide))
  | style css =>
    have name : IsName "style".toList := by decide
    have written : " style=\x7b".toList = ' ' :: ("style".toList ++ ['=', '\x7b']) := by decide
    unfold render term
    rw [written]
    -- a list for the name keeps the characters of the string out of the comparison
    generalize "style".toList = key at name ⊢
    simpa using Markup.readsAttribute_braces name css.reads_styleObject

namespace Element

theorem reads_attributes {attributes : List Attribute} (h : ∀ a ∈ attributes, a.IsNamed) :
    List.Forall₂ ReadsAttribute (attributes.map Attribute.render) (attributes.map Attribute.term) :=
  List.forall₂_map_left_iff.2 (List.forall₂_map_right_iff.2
    (List.forall₂_same.2 fun a ha => Attribute.reads_render (h a ha)))

section Tags

variable {tag : String} {attributes : List Attribute}

theorem reads_oneLine (name : IsName tag.toList) (named : ∀ a ∈ attributes, a.IsNamed)
    {w : List Char} {cs : List Content} (h : ReadsContents w cs) :
    ReadsElement (oneLine tag attributes w)
      (.element tag.toList (attributes.map Attribute.term) cs) := by
  rw [oneLine_eq]
  exact Markup.readsElement_contents name (reads_attributes named) h

theorem reads_closed (name : IsName tag.toList) (named : ∀ a ∈ attributes, a.IsNamed)
    {spaces : List Char} (hs : ∀ c ∈ spaces, isSpace c = true) :
    ReadsElement (opening tag attributes ++ (spaces ++ ['/', '>']))
      (.element tag.toList (attributes.map Attribute.term) []) := by
  rw [opening_append]
  exact Markup.readsElement_closed name (reads_attributes named) hs

end Tags

/-- An element as the only content of another one. -/
theorem readsContents_singleton {w : List Char} {c : Content} (h : ReadsElement w c) :
    ReadsContents w [c] := by
  have read := Markup.readsContents_element Markup.isSeparator_nil h
    (Markup.readsContents_separator Markup.isSeparator_nil)
  rwa [List.nil_append, List.append_nil] at read

theorem toList_headingTag (level : Nat) :
    (headingTag level).toList = 'h' :: Decimal.digitChars level := by
  simp [headingTag]

theorem isName_headingTag (level : Nat) : IsName (headingTag level).toList := by
  have digits : ∀ c ∈ Decimal.digitChars level, Markup.isNameChar c = true := by
    intro c hc
    have digit := Nat.isDigit_of_mem_toDigits (by decide) (by decide) hc
    simp [Markup.isNameChar, Char.isAlphanum, digit]
  rw [toList_headingTag]
  exact ⟨by simp, List.forall_mem_cons.2 ⟨by decide, digits⟩⟩

theorem reads_svgMarkup (width height label : String) :
    ReadsElement (Icon.svgMarkup width height label) (Icon.svgContent width height label) := by
  have square := reads_closed (by decide : IsName "rect".toList)
    (Icon.isNamed_rectAttributes width height) (Call.isSpace_replicate 0)
  rw [Icon.svgMarkup_eq]
  exact reads_oneLine (by decide) (Icon.isNamed_svgAttributes width height label)
    (readsContents_singleton square)

theorem reads_renderContent (c : InlineContent) : ReadsContents (renderContent c) c.contents := by
  cases c with
  | text s => exact Markup.readsContents_childText _
  | heading level css s =>
    exact readsContents_singleton (reads_oneLine (isName_headingTag level) (by simp [Attribute.IsNamed])
      (Markup.readsContents_childText s.toList))
  | svg width height label => exact readsContents_singleton (reads_svgMarkup width height label)

theorem isSeparator_lineBreak (k : Nat) : Markup.IsSeparator (lineBreak k) :=
  ⟨Call.isSpace_lineBreak k, fun _ => ⟨'\n', List.mem_cons_self, by decide⟩⟩

/-- Elements on lines of their own are read as contents. -/
theorem readsContents_lines {es : List Element} {w : Element → List Char}
    (h : ∀ e ∈ es, ReadsElement (w e) e.content) (column last : Nat) :
    ReadsContents (es.flatMap (fun e => lineBreak column ++ w e) ++ lineBreak last)
      (es.map content) := by
  induction es with
  | nil => exact Markup.readsContents_separator (isSeparator_lineBreak last)
  | cons e es ih =>
    have more := Markup.readsContents_element (isSeparator_lineBreak column)
      (h e List.mem_cons_self) (ih fun d hd => h d (List.mem_cons_of_mem _ hd))
    simpa using more

/-- The text of an element is read as its content, at whatever margin it stands. -/
theorem reads_written {e : Element} (h : IsMarkup e) (column : Nat) :
    ReadsElement (e.written column) e.content := by
  induction h generalizing column with
  | inline name named drawn => exact reads_oneLine name named (reads_renderContent _)
  | @block tag attributes children name named below ih =>
    rw [written_block, content_block]
    cases children with
    | nil => exact reads_closed name named (Call.isSpace_replicate 1)
    | cons e es =>
      exact reads_oneLine name named
        (readsContents_lines (fun d hd => ih d hd (column + 2)) (column + 2) column)

/-! ### Lines -/

/-- The lines of an element, with a line feed in front of each, are its text behind a margin. -/
theorem lines_flatMap (e : Element) (depth : Nat) :
    (lines depth e).flatMap ('\n' :: ·) = lineBreak (2 * depth) ++ e.written (2 * depth) := by
  induction e using induct generalizing depth with
  | inline tag attributes content => simp [lines, Writer.line, lineBreak, written, fold]
  | block tag attributes children ih =>
    rw [written_block]
    cases children with
    | nil => simp [lines, Writer.line, lineBreak]
    | cons e es =>
      have below : (linesAll (depth + 1) (e :: es)).flatMap ('\n' :: ·) =
          (e :: es).flatMap fun d => lineBreak (2 * depth + 2) ++ written (2 * depth + 2) d := by
        rw [linesAll_eq, List.flatMap_assoc]
        exact List.flatMap_congr fun d hd => ih d hd (depth + 1)
      have cut : lines depth (.block tag attributes (e :: es)) =
          Writer.line depth (opening tag attributes ++ ['>']) ::
            (linesAll (depth + 1) (e :: es) ++ [Writer.line depth (closing tag)]) := by
        simp [lines, linesAll]
      rw [cut, List.flatMap_cons, List.flatMap_append, below]
      simp [Writer.line, lineBreak, oneLine]

/-- The text of an element without a margin. -/
theorem render_eq_written (e : Element) : e.render = e.written 0 := by
  have feeds := lines_flatMap e 0
  cases h : lines 0 e with
  | nil => rw [h] at feeds; exact absurd feeds (by simp [lineBreak])
  | cons l ls =>
    rw [h, List.flatMap_cons] at feeds
    rw [render, h, Text.joined_cons]
    simpa [lineBreak] using feeds

end Element

/-! ### Moving -/

section

open scoped Text.ByMember

namespace Attribute

theorem moved_of_noBreak (n : Nat) (name : String) {value : String}
    (h : ∀ c ∈ value.toList, isBreak c = false) : (text name value).moved n = text name value := by
  rw [moved, (Text.moves_of_noBreak h).moved, String.ofList_toList]

theorem moves_render (n : Nat) {a : Attribute} (h : a.IsNamed) : Moves n a.render (a.moved n).render := by
  cases a with
  | text name value =>
    have name : IsName name.toList := h
    have moves := Markup.moves_attr name n value.toList
    unfold moved render
    dsimp only
    rwa [String.toList_ofList]
  | givenClass => exact Text.moves_of_noBreak (by unfold render; decide)
  | style css =>
    have before : Moves n " style=\x7b".toList " style=\x7b".toList :=
      Text.moves_of_noBreak (by decide)
    have literal : Moves n (Script.styleObject css) (Script.styleObject css) :=
      Text.moves_of_noBreak (Script.noBreak_styleObject css)
    have after : Moves n ['\x7d'] ['\x7d'] := Text.moves_of_noBreak (by decide)
    unfold moved render
    exact (before.append literal).append after

theorem isNamed_moved (n : Nat) {a : Attribute} (h : a.IsNamed) : (a.moved n).IsNamed := by
  cases a with
  | text name value => exact h
  | givenClass => trivial
  | style css => trivial

end Attribute

theorem Icon.moved_svgAttributes (n : Nat) {width height label : String}
    (hw : ∀ c ∈ width.toList, isBreak c = false) (hh : ∀ c ∈ height.toList, isBreak c = false) :
    (svgAttributes width height label).map (Attribute.moved n) =
      svgAttributes width height (String.ofList (Text.moved n label.toList)) := by
  have box : ∀ c ∈ ("0 0 " ++ width ++ " " ++ height).toList, isBreak c = false := by
    intro c hc
    simp only [String.toList_append, List.mem_append] at hc
    rcases hc with ((hc | hc) | hc) | hc
    · exact (by decide : ∀ c ∈ "0 0 ".toList, isBreak c = false) c hc
    · exact hw c hc
    · exact (by decide : ∀ c ∈ " ".toList, isBreak c = false) c hc
    · exact hh c hc
  simp only [svgAttributes, List.map_cons, List.map_nil, Attribute.moved_of_noBreak n _ hw,
    Attribute.moved_of_noBreak n _ hh, Attribute.moved_of_noBreak n _ box]
  rw [Attribute.moved_of_noBreak n _ (by decide), Attribute.moved_of_noBreak n _ (by decide),
    Attribute.moved_of_noBreak n _ (by decide)]
  rfl

theorem Icon.moved_rectAttributes (n : Nat) {width height : String}
    (hw : ∀ c ∈ width.toList, isBreak c = false) (hh : ∀ c ∈ height.toList, isBreak c = false) :
    (rectAttributes width height).map (Attribute.moved n) = rectAttributes width height := by
  simp only [rectAttributes, List.map_cons, List.map_nil, Attribute.moved_of_noBreak n _ hw,
    Attribute.moved_of_noBreak n _ hh]
  rw [Attribute.moved_of_noBreak n _ (by decide), Attribute.moved_of_noBreak n _ (by decide),
    Attribute.moved_of_noBreak n _ (by decide)]

namespace Element

theorem moves_opening (n : Nat) {tag : String} (name : IsName tag.toList)
    {attributes : List Attribute} (named : ∀ a ∈ attributes, a.IsNamed) :
    Moves n (opening tag attributes) (opening tag (attributes.map (Attribute.moved n))) := by
  have bracket : Moves n ('<' :: tag.toList) ('<' :: tag.toList) :=
    Text.moves_of_noBreak (List.forall_mem_cons.2 ⟨by decide, Markup.noBreak_name name⟩)
  exact bracket.append (Moves.flatMap fun a ha => Attribute.moves_render n (named a ha))

theorem moves_closing (n : Nat) {tag : String} (name : IsName tag.toList) :
    Moves n (closing tag) (closing tag) := by
  refine Text.moves_of_noBreak ?_
  intro c hc
  simp only [closing, List.cons_append, List.mem_cons, List.mem_append, List.not_mem_nil,
    or_false] at hc
  rcases hc with rfl | rfl | hc | rfl
  · decide
  · decide
  · exact Markup.noBreak_name name c hc
  · decide

/-- The text before the closing tag may end with a margin, which is moved together with the tag. -/
theorem moves_oneLine (n : Nat) {tag : String} (name : IsName tag.toList)
    {attributes : List Attribute} (named : ∀ a ∈ attributes, a.IsNamed) {w w' : List Char}
    (h : Moves n (w ++ closing tag) (w' ++ closing tag)) :
    Moves n (oneLine tag attributes w) (oneLine tag (attributes.map (Attribute.moved n)) w') := by
  have bracket : Moves n ['>'] ['>'] := Text.moves_of_noBreak (by decide)
  have all := ((moves_opening n name named).append bracket).append h
  simpa [oneLine] using all

theorem moves_renderContent (n : Nat) {c : InlineContent} (h : c.IsDrawn) :
    Moves n (renderContent c) (renderContent (c.moved n)) := by
  cases c with
  | text s => exact Text.moves_of_noBreak (Markup.noBreak_childText s.toList)
  | heading level css s =>
    have name := isName_headingTag level
    have named : ∀ a ∈ [Attribute.style css], a.IsNamed := by simp [Attribute.IsNamed]
    exact moves_oneLine n name named
      ((Text.moves_of_noBreak (Markup.noBreak_childText s.toList)).append (moves_closing n name))
  | svg width height label =>
    obtain ⟨hw, hh⟩ := h
    have rect := moves_opening n (by decide : IsName "rect".toList)
      (Icon.isNamed_rectAttributes width height)
    rw [Icon.moved_rectAttributes n hw hh] at rect
    have ends : Moves n ['/', '>'] ['/', '>'] := Text.moves_of_noBreak (by decide)
    have name : IsName "svg".toList := by decide
    have svg := moves_oneLine n name (Icon.isNamed_svgAttributes width height label)
      ((rect.append ends).append (moves_closing n name))
    rw [Icon.moved_svgAttributes n hw hh] at svg
    rw [renderContent, InlineContent.moved, renderContent, Icon.svgMarkup_eq, Icon.svgMarkup_eq]
    exact svg

theorem head?_written (column : Nat) (e : Element) : (written column e).head? = some '<' := by
  cases e with
  | inline tag attributes content => simp [written, fold, oneLine, opening]
  | block tag attributes children =>
    rw [written_block]
    split_ifs <;> simp [oneLine, opening]

/-- Moving the lines of an element moves the texts of its attributes and makes its margin wider. -/
theorem moves_written (n : Nat) {e : Element} (h : IsMarkup e) (column : Nat) :
    Moves n (e.written column) ((e.moved n).written (n + column)) := by
  induction h generalizing column with
  | inline name named drawn =>
    exact moves_oneLine n name named ((moves_renderContent n drawn).append (moves_closing n name))
  | @block tag attributes children name named below ih =>
    rw [moved_block, written_block, written_block, List.isEmpty_map]
    cases children with
    | nil => exact (moves_opening n name named).append (Text.moves_of_noBreak (by decide))
    | cons e es =>
      have inside : Moves n
          ((e :: es).flatMap fun d => lineBreak (column + 2) ++ written (column + 2) d)
          (((e :: es).map (moved n)).flatMap fun d =>
            lineBreak (n + column + 2) ++ written (n + column + 2) d) :=
        Moves.flatMap fun d hd =>
          (ih d hd (column + 2)).lineBreak (column + 2) (head?_written _ d) (by decide)
      have last : Moves n (lineBreak column ++ closing tag) (lineBreak (n + column) ++ closing tag) :=
        (moves_closing n name).lineBreak column rfl (by decide)
      refine moves_oneLine n name named ?_
      rw [List.append_assoc, List.append_assoc]
      exact inside.append last

theorem isDrawn_moved (n : Nat) {c : InlineContent} (h : c.IsDrawn) : (c.moved n).IsDrawn := by
  cases c with
  | text s => trivial
  | heading level css s => trivial
  | svg width height label => exact h

theorem isMarkup_moved (n : Nat) {e : Element} (h : IsMarkup e) : IsMarkup (e.moved n) := by
  have attributes {as : List Attribute} (named : ∀ a ∈ as, a.IsNamed) :
      ∀ a ∈ as.map (Attribute.moved n), a.IsNamed := by
    rw [List.forall_mem_map]
    exact fun a ha => Attribute.isNamed_moved n (named a ha)
  induction h with
  | inline name named drawn => exact .inline name (attributes named) (isDrawn_moved n drawn)
  | block name named below ih =>
    rw [moved_block]
    refine .block name (attributes named) ?_
    rw [List.forall_mem_map]
    exact ih

theorem endsSolid_written (column : Nat) (e : Element) : Text.EndsSolid (e.written column) := by
  have bracket : Text.EndsSolid ['>'] := ⟨[], '>', rfl, by decide⟩
  have line (tag : String) (attributes : List Attribute) (w : List Char) :
      Text.EndsSolid (oneLine tag attributes w) := (bracket.append _).append _
  cases e with
  | inline tag attributes content => exact line _ _ _
  | block tag attributes children =>
    rw [written_block]
    split_ifs
    · exact (bracket.append [' ', '/']).append _
    · exact line _ _ _

/-- Indenting the text of an element puts a margin before it and moves it. -/
theorem indent_render (n : Nat) {e : Element} (h : IsMarkup e) :
    Text.indent n e.render = List.replicate n ' ' ++ (e.moved n).written n := by
  have solid : Text.opensBlank (e.written 0) = false := by
    have head := head?_written 0 e
    cases hw : e.written 0 with
    | nil => rw [hw] at head; exact absurd head (by simp)
    | cons c w =>
      rw [hw] at head
      obtain rfl : c = '<' := by simpa using head
      exact Text.opensBlank_append_cons (by decide) [] w
  rw [render_eq_written, Text.indent_of_endsSolid n (endsSolid_written 0 e), Text.margin, solid,
    (moves_written n h 0).moved]
  rfl

/-- The text of an element is read back from behind any margin that it is indented by, up to the lines
in its attributes. -/
theorem read?_indent_render (n : Nat) {e : Element} (h : IsMarkup e) :
    Content.read? (Text.indent n e.render) = some (e.moved n).content := by
  rw [indent_render n h]
  exact (reads_written (isMarkup_moved n h) n).read? (Call.isSpace_replicate n)

end Element

end

end DesignCode
