import DesignCode.Code.Styled
import DesignCode.Code.Landmark
import DesignCode.Code.Writer

/-!
# Elements of markup

A tree of nodes is written as elements of markup.  Texts and icons are elements on one line; a column
with texts in it is a list; other nodes are blocks, named after the landmark that their name speaks
of.  `Element.commands` is what a writer is told for a tree of nodes.
-/

namespace DesignCode

/-- An attribute of an element. -/
inductive Attribute where
  | text (name : String) (value : String)
  /-- The class that the component is given. -/
  | givenClass
  | style (css : StyleMap)

/-- An attribute with a space in front. -/
def Attribute.render : Attribute → List Char
  | text name value => ' ' :: Markup.attr name value.toList
  | givenClass => " className=\x7bclassName\x7d".toList
  | style css => " style=\x7b".toList ++ Script.styleObject css ++ ['\x7d']

namespace Element

/-! ### Tags -/

/-- An opening tag without its bracket at the end. -/
def opening (tag : String) (attributes : List Attribute) : List Char :=
  '<' :: tag.toList ++ attributes.flatMap Attribute.render

def closing (tag : String) : List Char := '<' :: '/' :: tag.toList ++ ['>']

/-- An element on one line with written content. -/
def oneLine (tag : String) (attributes : List Attribute) (content : List Char) : List Char :=
  opening tag attributes ++ '>' :: content ++ closing tag

/-- An element around what is written inside of it. -/
def around (tag : String) (attributes : List Attribute) (inside : List Writer.Command) :
    List Writer.Command :=
  .enter (opening tag attributes ++ ['>']) :: (inside ++ [.leave (closing tag)])

def headingTag (level : Nat) : String := "h" ++ String.ofList (Decimal.digitChars level)

/-! ### Elements of nodes -/

/-- Label, class, role and style of an element. -/
def attributesOf (cls : Option Attribute) (label : Option Placeholder) (css : StyleMap) :
    List Attribute :=
  (label.map fun p => Attribute.text "aria-label" p.label).toList ++ cls.toList ++
    (label.map fun p => Attribute.text "role" p.role).toList ++
    if css.isEmpty then [] else [.style css]

/-- The class of an element: the root has the one that the component is given, the others that of
their text. -/
def classOf (isRoot : Bool) (s : Styled) : Option Attribute :=
  if isRoot then some .givenClass else s.token.map (.text "className")

/-- Whether a node becomes a list: it is a column with texts. -/
def isList (s : Styled) (children : List (Tree Styled)) : Bool :=
  s.node.flex.any (·.direction = .column) ∧ children.any (·.value.node.isText)

/-- The style of a list, which has no marks, no margin, and no padding of its own. -/
def listStyle (css : StyleMap) : StyleMap :=
  let css := (css.insert "list-style" (.text "none")).insert "margin" (.text "0px")
  (if css.contains "padding" then css else css.insert "padding" (.text "0px")).sortKeys

/-- The style of a heading inside an item, which looks like the item. -/
def headingStyle : StyleMap := .ofList [("font", .text "inherit"), ("margin", .text "0px")]

/-- The line of an item that is a text, as a heading if the name of its node speaks of one. -/
def textItemLine (s : Styled) (t : TextContent) : List Char :=
  let text := Markup.childText t.characters.toList
  oneLine "li" (attributesOf (classOf false s) none s.style)
    (match headingLevel? s.node.name with
      | some level => oneLine (headingTag level) [.style headingStyle] text
      | none => text)

mutual

/-- What the writer is told for a tree of nodes. -/
def commands (isRoot : Bool) : Tree Styled → List Writer.Command
  | .node s children =>
    let attributes := attributesOf (classOf isRoot s)
    match s.node.text, s.icon with
    | some t, _ =>
      [.write (oneLine "span" (attributes s.node.placeholder s.style)
        (Markup.childText t.characters.toList))]
    | none, some (.svg width height label) =>
      [.write (oneLine "div" (attributes s.node.placeholder s.style)
        (Icon.svgMarkup width height label))]
    | none, some (.glyph label) =>
      [.write (oneLine "span" (attributes (some ⟨"img", label⟩) s.style)
        (Markup.childText Icon.fallbackGlyph.toList))]
    | none, none =>
      if isList s children then
        around "ul" (attributes s.node.placeholder (listStyle s.style)) (itemCommands children)
      else
        let tag := ((Landmark.ofName? s.node.name).map Landmark.tag).getD "div"
        let attributes := attributes s.node.placeholder s.style
        if children.isEmpty then [.write (opening tag attributes ++ [' ', '/', '>'])]
        else around tag attributes (childCommands children)

/-- What the writer is told for the children of a block. -/
def childCommands : List (Tree Styled) → List Writer.Command
  | [] => []
  | t :: ts => commands false t ++ childCommands ts

/-- What the writer is told for the children of a list. -/
def itemCommands : List (Tree Styled) → List Writer.Command
  | [] => []
  | .node s children :: ts =>
    (match s.node.text with
      | some t => [.write (textItemLine s t)]
      | none => around "li" [] (commands false (.node s children))) ++ itemCommands ts

end

end Element

end DesignCode
