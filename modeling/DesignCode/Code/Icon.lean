import DesignCode.Markup.Escape
import DesignCode.Node.Basic
import DesignCode.Layer.Basic

/-!
# Icons

Shapes are not drawn; a square of the size of the shape stands for it, with a label made of its name.
A shape whose size cannot be drawn is shown as a glyph.
-/

namespace DesignCode

/-- What an icon is made from. -/
structure IconSource where
  name : String
  kind : Kind
  /-- Width and height, if they are known. -/
  size : Option (Float × Float)

namespace IconSource

/-- A node as the source of an icon; its size counts if both edges are known. -/
def ofNode (n : Node) : IconSource where
  name := n.name
  kind := n.kind
  size := do return (← n.width, ← n.height)

/-- A layer as the source of an icon. -/
def ofLayer (l : Layer) : IconSource where
  name := l.name
  kind := l.kind
  size := l.box.map fun b => (b.width, b.height)

/-- Whether the source is to be shown as an icon. -/
def isIcon (s : IconSource) : Bool := s.kind.isShape

def label (s : IconSource) : String :=
  match Text.trim s.name.toList with
  | [] => "icon"
  | name => String.ofList (name ++ [' ', 'i', 'c', 'o', 'n'])

end IconSource

/-- A sign that stands for a shape. -/
inductive Icon where
  /-- A square with the written lengths of its edges. -/
  | svg (width height label : String)
  /-- A glyph, if the size cannot be drawn. -/
  | glyph (label : String)

namespace Icon

/-- The length of an edge if the size is not known. -/
def defaultEdge : Float := 24

/-- The glyph that is shown if the size cannot be drawn. -/
def fallbackGlyph : String := "□"

/-- Whether an edge can be drawn. -/
def isDrawable (v : Float) : Bool := v.isFinite ∧ 0 < v

def ofSource (s : IconSource) : Icon :=
  let (width, height) := s.size.getD (defaultEdge, defaultEdge)
  if isDrawable width ∧ isDrawable height then svg (Css.number width) (Css.number height) s.label
  else glyph s.label

/-- The markup of a square with its label. -/
def svgMarkup (width height label : String) : List Char :=
  let attr (name value : String) : List Char := ' ' :: Markup.attr name value.toList
  "<svg".toList ++ attr "xmlns" "http://www.w3.org/2000/svg" ++ attr "width" width ++
    attr "height" height ++ attr "viewBox" ("0 0 " ++ width ++ " " ++ height) ++
    attr "fill" "none" ++ attr "role" "img" ++ attr "aria-label" label ++
    "><rect".toList ++ attr "width" width ++ attr "height" height ++ attr "rx" "2" ++
    attr "fill" "currentColor" ++ attr "opacity" "0.2" ++ "/></svg>".toList

end Icon

end DesignCode
