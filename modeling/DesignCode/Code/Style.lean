import DesignCode.Code.Options
import DesignCode.Css.Effects
import DesignCode.Css.FlexBox
import DesignCode.Layer.Placeholder
import DesignCode.Node.Basic

/-!
# The style of a node

A node inherits from its ancestors their opacity and the color of text (`Inherited`).  `Node.style`
is the style map that all generated code gives to a node.
-/

namespace DesignCode

/-- What a node inherits from its ancestors. -/
structure Inherited where
  /-- The color of the nearest text above that has one. -/
  color : Option String := none
  /-- The product of the opacities above. -/
  opacity : Float := 1

namespace Inherited

/-- The opacity of a node with that of its ancestors. -/
def opacityOf (i : Inherited) (n : Node) : Float := i.opacity * n.opacity.getD 1

/-- What the children of a node inherit. -/
def below (i : Inherited) (n : Node) : Inherited where
  color := n.text.bind TextContent.color <|> i.color
  opacity := i.opacityOf n

/-- The color of a text: its own, else the inherited one, else that of the palette. -/
def textColor (i : Inherited) (p : Palette) (t : TextContent) : String :=
  (t.color <|> i.color).getD p.textColor

end Inherited

namespace TextContent

/-- The properties that texts with one look share. -/
def fontStyle (t : TextContent) (color : String) : List (String × StyleValue) :=
  StyleMap.given
    [("color", some color),
     ("font-family", t.fontFamily),
     ("font-size", t.fontSize.map Css.px),
     ("font-weight", t.fontWeight.map Css.number),
     ("letter-spacing", t.letterSpacing.map Css.px),
     ("line-height", t.lineHeight.map Css.px)]

/-- The properties of one text besides those of its look. -/
def flowStyle (t : TextContent) : List (String × StyleValue) :=
  StyleMap.given
    [("text-align", t.textAlign),
     ("text-decoration", t.textDecoration),
     ("text-transform", t.textTransform),
     ("white-space", some "pre-wrap"),
     ("word-break", some "break-word")]

end TextContent

namespace Node

def sizeStyle (n : Node) : List (String × StyleValue) :=
  StyleMap.given [("width", n.width.map Css.px), ("height", n.height.map Css.px)]

/-- The place in the parent; a node is a frame for children with an offset. -/
def placeStyle (n : Node) (holdsAbsolute : Bool) : List (String × StyleValue) :=
  match n.position with
  | some (.absolute p) =>
    StyleMap.given
      [("position", some "absolute"), ("left", some (Css.px p.x)), ("top", some (Css.px p.y))]
  | _ => StyleMap.given [("position", if holdsAbsolute then some "relative" else none)]

/-- The background: none for a text, whose fill is the color of its letters; gray for a placeholder
without one. -/
def background (n : Node) : Option String :=
  (if n.isText then none else n.visual.bind Visual.background) <|>
    if n.placeholder.isSome then some Placeholder.background else none

def visualStyle (n : Node) : List (String × StyleValue) :=
  StyleMap.given
    [("background", n.background),
     ("border", (n.visual.bind Visual.border).map Css.border),
     ("border-radius", (n.visual.bind Visual.radius).map Css.radii)]

def effectsStyle (n : Node) : List (String × StyleValue) :=
  StyleMap.given
    [("box-shadow", n.effects.bind fun e => Css.shadows e.shadows),
     ("filter", n.effects.bind fun e => Css.blurs e.blur.toList),
     ("backdrop-filter", n.effects.bind fun e => Css.blurs e.backdropBlur.toList)]

def textStyle (n : Node) (p : Palette) (i : Inherited) : List (String × StyleValue) :=
  (n.text.map fun t => t.fontStyle (i.textColor p t) ++ t.flowStyle).getD []

/-- The opacity with that of the ancestors to three places, if it is below 1. -/
def opacityStyle (n : Node) (i : Inherited) : List (String × StyleValue) :=
  let v := Css.round3 (i.opacityOf n)
  if v < 1 then [("opacity", .number v)] else []

/-- All properties of the root of a tree. -/
def properties (p : Palette) (i : Inherited) (t : Tree Node) : List (String × StyleValue) :=
  let n := t.value
  n.sizeStyle ++ n.placeStyle (hasAbsoluteChild t) ++ (n.flex.map (·.style)).getD [] ++
    n.visualStyle ++ n.effectsStyle ++ n.textStyle p i ++ n.opacityStyle i

/-- The style of the root of a tree, in the order of the property names. -/
def style (p : Palette) (i : Inherited) (t : Tree Node) : StyleMap :=
  (OrderedMap.ofList (properties p i t)).sortKeys

end Node

end DesignCode
