import DesignCode.Proofs.Code.Element
import DesignCode.Proofs.Markup.Pieces

/-!
# Reading the lines of an element

The lines of an element are read one by one, with margins of two columns for each element around the line, and give
the element (`readLines?_lines`).  No text and no value of an attribute is taken for a tag.
-/

namespace DesignCode

open Markup (IsName IsReadAs Nest Piece Puts)

namespace InlineContent

/-- The pieces of the content of an element on one line. -/
def pieces : InlineContent → List Piece
  | text s => Markup.textPieces s.toList
  | heading level css s =>
    .opening (Element.headingTag level).toList [Attribute.term (.style css)] ::
      (Markup.textPieces s.toList ++ [.closing (Element.headingTag level).toList])
  | svg width height label =>
    .opening "svg".toList ((Icon.svgAttributes width height label).map Attribute.term) ::
      ([.single "rect".toList ((Icon.rectAttributes width height).map Attribute.term)] ++
        [.closing "svg".toList])

theorem puts_pieces (c : InlineContent) : Puts c.pieces c.contents := by
  cases c with
  | text s => exact Markup.puts_textPieces _
  | heading level css s => exact Markup.puts_element _ _ (Markup.puts_textPieces _)
  | svg width height label => exact Markup.puts_element _ _ (Markup.puts_single _ _)

end InlineContent

namespace Element

section Pieces

variable {tag : String} {attributes : List Attribute} {rest : List Char} {ps : List Piece}

theorem isReadAs_opening (name : IsName tag.toList) (named : ∀ a ∈ attributes, a.IsNamed)
    (h : IsReadAs rest ps) :
    IsReadAs (opening tag attributes ++ '>' :: rest)
      (.opening tag.toList (attributes.map Attribute.term) :: ps) := by
  rw [opening_append]
  exact Markup.isReadAs_opening name (reads_attributes named) h

theorem isReadAs_closed (name : IsName tag.toList) (named : ∀ a ∈ attributes, a.IsNamed)
    {spaces : List Char} (hs : ∀ c ∈ spaces, Script.isSpace c = true) (h : IsReadAs rest ps) :
    IsReadAs (opening tag attributes ++ (spaces ++ '/' :: '>' :: rest))
      (.single tag.toList (attributes.map Attribute.term) :: ps) := by
  rw [opening_append]
  exact Markup.isReadAs_single name (reads_attributes named) hs h

theorem isReadAs_closing (name : IsName tag.toList) (h : IsReadAs rest ps) :
    IsReadAs (closing tag ++ rest) (.closing tag.toList :: ps) := by
  have read := Markup.isReadAs_closing name h
  simpa [closing] using read

/-- An element on one line is read as its tags and what is between them. -/
theorem isReadAs_oneLine (name : IsName tag.toList) (named : ∀ a ∈ attributes, a.IsNamed)
    {w : List Char} {inside : List Piece}
    (hw : ∀ {rest ps}, IsReadAs ('<' :: rest) ps → IsReadAs (w ++ '<' :: rest) (inside ++ ps))
    (h : IsReadAs rest ps) :
    IsReadAs (oneLine tag attributes w ++ rest)
      (.opening tag.toList (attributes.map Attribute.term) ::
        (inside ++ [.closing tag.toList]) ++ ps) := by
  have read := isReadAs_opening name named (hw (isReadAs_closing name h))
  simpa [oneLine, closing] using read

end Pieces

theorem isReadAs_renderContent (c : InlineContent) {rest : List Char} {ps : List Piece}
    (h : IsReadAs ('<' :: rest) ps) :
    IsReadAs (renderContent c ++ '<' :: rest) (c.pieces ++ ps) := by
  cases c with
  | text s => exact Markup.isReadAs_childText _ h
  | heading level css s =>
    exact isReadAs_oneLine (isName_headingTag level) (by simp [Attribute.IsNamed])
      (Markup.isReadAs_childText s.toList) h
  | svg width height label =>
    have square {rest : List Char} {ps : List Piece} (h : IsReadAs ('<' :: rest) ps) :
        IsReadAs (opening "rect" (Icon.rectAttributes width height) ++ ['/', '>'] ++ '<' :: rest)
          ([.single "rect".toList ((Icon.rectAttributes width height).map Attribute.term)] ++ ps) := by
      rw [List.append_assoc]
      exact isReadAs_closed (by decide) (Icon.isNamed_rectAttributes width height)
        (Call.isSpace_replicate 0) h
    rw [renderContent, Icon.svgMarkup_eq]
    exact isReadAs_oneLine (by decide) (Icon.isNamed_svgAttributes width height label) square h

/-- A line with the margin of its pieces is taken in piece by piece. -/
theorem readLine?_line {s : Nest} {w : List Char} {ps : List Piece} (h : IsReadAs ('<' :: w) ps)
    {depth : Nat} (hd : s.depthAt ps = depth) :
    s.readLine? (Writer.line depth ('<' :: w)) = ps.foldlM Nest.step s := by
  have margin : ∀ c ∈ List.replicate (2 * depth) ' ', (decide (c = ' ')) = true := by simp
  obtain ⟨take, drop⟩ := Text.cut_append margin ('<' :: w) (Text.head?_cons_of (by decide) w)
  rw [Nest.readLine?, Writer.line, take, drop, h _ (by simp)]
  simp [hd]

theorem readLines?_flatMap {es : List Element}
    (h : ∀ e ∈ es, ∀ s : Nest, s.readLines? (e.lines s.opened.length) = some (s.put [e.content]))
    (s : Nest) :
    s.readLines? (es.flatMap (lines s.opened.length)) = some (s.put (es.map content)) := by
  induction es generalizing s with
  | nil => exact congrArg some s.put_nil.symm
  | cons e es ih =>
    obtain ⟨first, others⟩ := List.forall_mem_cons.1 h
    have more := ih others (s.put [e.content])
    rw [Nest.opened_put, Nest.put_put] at more
    rw [List.flatMap_cons, Nest.readLines?_append, first, Option.bind_some, more]
    rfl

/-- The lines of an element bring it into the element that is open, with two columns of margin for each element
around. -/
theorem readLines?_lines {e : Element} (h : IsMarkup e) (s : Nest) :
    s.readLines? (e.lines s.opened.length) = some (s.put [e.content]) := by
  induction h generalizing s with
  | @inline tag attributes content name named drawn =>
    have read := isReadAs_oneLine name named (isReadAs_renderContent content) Markup.isReadAs_nil
    rw [List.append_nil, List.append_nil] at read
    rw [lines, Nest.readLines?_singleton]
    exact (readLine?_line read rfl).trans (Markup.puts_element _ _ content.puts_pieces s)
  | @block tag attributes children name named below ih =>
    cases children with
    | nil =>
      have read := isReadAs_closed name named (Call.isSpace_replicate 1) Markup.isReadAs_nil
      rw [lines, Nest.readLines?_singleton]
      exact (readLine?_line read rfl).trans (Markup.puts_single _ _ s)
    | cons e es =>
      have first := isReadAs_opening name named Markup.isReadAs_nil
      have last := isReadAs_closing name Markup.isReadAs_nil
      rw [List.append_nil] at last
      let t : Nest := ⟨⟨tag.toList, attributes.map Attribute.term, s.contents⟩ :: s.opened, []⟩
      have entered : s.readLine? (Writer.line s.opened.length (opening tag attributes ++ ['>'])) = some t :=
        readLine?_line first rfl
      have inside : t.readLines? ((e :: es).flatMap (lines (s.opened.length + 1))) =
          some (t.put ((e :: es).map content)) := readLines?_flatMap ih t
      have left : (t.put ((e :: es).map content)).readLine? (Writer.line s.opened.length (closing tag)) =
          some (s.put [content (.block tag attributes (e :: es))]) := by
        rw [content_block]
        refine (readLine?_line last rfl).trans ?_
        simp [Nest.step, Nest.put, t]
      rw [lines_block, Nest.readLines?_cons, entered, Option.bind_some, Nest.readLines?_append, inside,
        Option.bind_some, Nest.readLines?_singleton, left]

end Element

end DesignCode
