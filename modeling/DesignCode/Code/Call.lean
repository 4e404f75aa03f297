import DesignCode.Code.Styled

/-!
# Element calls

A tree of nodes becomes a tree of calls of `createElement`: each call has properties, texts, and the
calls of the children.  `Call.render` writes a tree of calls.
-/

namespace DesignCode

/-- The value of a property of an element. -/
inductive Property where
  | text (s : String)
  /-- Markup that becomes the inside of the element. -/
  | inner (markup : List Char)
  | style (css : StyleMap)

/-- A call that makes an element, apart from the calls of its children. -/
structure Call where
  properties : List (String × Property)
  texts : List String

namespace Property

def render : Property → List Char
  | text s => Script.literal s.toList
  | inner markup =>
    "\x7b __html: ".toList ++ Script.literal markup ++ [' ', '\x7d']
  | style css => Script.styleObject css

end Property

namespace Call

/-- The label of an element: that of the glyph that it shows, else that of its placeholder. -/
def label? (s : Styled) : Option String :=
  match s.icon with
  | some (.glyph label) => some label
  | _ => s.node.placeholder.map Placeholder.label

/-- The property that says what an element shows: the markup of an icon, or a role. -/
def content? (s : Styled) : Option (String × Property) :=
  match s.icon with
  | some (.svg width height label) =>
    some ("dangerouslySetInnerHTML", .inner (Icon.svgMarkup width height label))
  | some (.glyph _) => some ("role", .text "img")
  | none => s.node.placeholder.map fun p => ("role", .text p.role)

/-- The glyph that an element shows. -/
def glyph? (s : Styled) : Option String :=
  match s.icon with
  | some (.glyph _) => some Icon.fallbackGlyph
  | _ => none

/-- The call that makes the element of a node. -/
def ofStyled (s : Styled) : Call where
  properties :=
    ((label? s).map fun l => ("aria-label", Property.text l)).toList ++
      (s.token.map fun t => ("className", Property.text t)).toList ++
      (content? s).toList ++
      if s.style.isEmpty then [] else [("style", .style s.style)]
  texts := (glyph? s).toList ++ (s.node.text.map TextContent.characters).toList

/-- The calls that make the elements of a tree. -/
def ofTree (t : Tree Styled) : Tree Call := t.fold fun s calls => .node (ofStyled s) calls

/-- The second argument of a call. -/
def renderProperties (c : Call) : List Char :=
  if c.properties.isEmpty then ['n', 'u', 'l', 'l']
  else Script.object (c.properties.map fun p => (p.1.toList, p.2.render))

/-- A comma and a new line up to a column, in front of `rest`. -/
def nextArgument (column : Nat) (rest : List Char) : List Char :=
  ',' :: '\n' :: (List.replicate column ' ' ++ rest)

/-- The texts of an element as arguments at a column, in front of `rest`. -/
def writeTexts (column : Nat) (texts : List String) (rest : List Char) : List Char :=
  texts.foldr (fun s r => nextArgument column (Script.literal s.toList ++ r)) rest

/-- The bracket that ends a call, in front of `rest`.  Behind arguments of their own lines it has a
line of its own, at the column where the call begins. -/
def closing (indent : Nat) (hasLines : Bool) (rest : List Char) : List Char :=
  if hasLines then '\n' :: (List.replicate indent ' ' ++ ')' :: rest) else ')' :: rest

/-- A call up to its properties. -/
def opening (c : Call) : List Char := "createElement('div', ".toList ++ c.renderProperties

mutual

/-- A tree of calls that begins at a column, in front of `rest`.  Texts and the calls of the children
stand two columns further, each on a line of its own. -/
def write (indent : Nat) : Tree Call → List Char → List Char
  | .node c calls, rest =>
    c.opening ++ writeTexts (indent + 2) c.texts
      (writeAll (indent + 2) calls (closing indent (c.texts ≠ [] ∨ ¬ calls.isEmpty) rest))

/-- Several trees as arguments at a column, in front of `rest`. -/
def writeAll (column : Nat) : List (Tree Call) → List Char → List Char
  | [], rest => rest
  | t :: ts, rest => nextArgument column (write column t (writeAll column ts rest))

end

/-- The text of a tree of calls that begins at a column. -/
def render (indent : Nat) (t : Tree Call) : List Char := write indent t []

end Call

end DesignCode
