import DesignCode.Layer.Typography
import DesignCode.Layer.Shading
import DesignCode.Css.FlexBox

/-!
# The style map of a layer

Each `Layer.Part` has some CSS properties; `Layer.styles` sets those of all parts and puts them in
the order of their names.
-/

namespace DesignCode

def Typography.style (t : Typography) : List (String × StyleValue) :=
  StyleMap.given
    [("font-family", t.fontFamily),
     ("font-size", t.fontSize.map Css.px),
     ("font-weight", t.fontWeight.map Css.number),
     ("letter-spacing", t.letterSpacing.map Css.px),
     ("line-height", t.lineHeight.map Css.px),
     ("text-align", t.textAlign),
     ("text-decoration", t.textDecoration),
     ("text-transform", t.textTransform),
     ("white-space", some "pre-wrap"),
     ("color", t.color),
     ("word-break", some "break-word")]

namespace Layer

/-- The parts of which the style of a layer is made. -/
inductive Part where
  | layout
  | box
  | fill
  | stroke
  | text
  | effects
deriving DecidableEq

namespace Part

/-- The parts in the order in which they are set. -/
def all : List Part := [layout, box, fill, stroke, text, effects]

end Part

/-- The size, the clipping and the opacity. -/
def boxStyle (l : Layer) : List (String × StyleValue) :=
  StyleMap.given
    [("width", l.size.map fun s => Css.px s.1),
     ("height", l.size.map fun s => Css.px s.2),
     ("overflow", if l.clipsContent = some true then some "hidden" else none),
     ("opacity", l.translucency.map Css.opacity)]

def Corners.css : Corners → String
  | uniform r => Css.px r
  | each q => Css.quadPx q

def strokeStyle (l : Layer) : List (String × StyleValue) :=
  StyleMap.given
    [("border", l.border.map Css.border),
     ("border-radius", l.corners.map (·.css))]

def effectsStyle (l : Layer) : List (String × StyleValue) :=
  StyleMap.given
    [("filter", Css.blurs l.shading.layerBlurs),
     ("backdrop-filter", Css.blurs l.shading.backgroundBlurs),
     ("box-shadow", Css.shadows l.shading.shadows)]

def partStyle (l : Layer) : Part → List (String × StyleValue)
  | .layout => (l.flexBox.map (·.style)).getD []
  | .box => l.boxStyle
  | .fill => StyleMap.given [("background", l.background)]
  | .stroke => l.strokeStyle
  | .text => (l.typography.map (·.style)).getD []
  | .effects => l.effectsStyle

/-- Sets the properties of a part. -/
def setPart (l : Layer) (css : StyleMap) (p : Part) : StyleMap := css.insertAll (l.partStyle p)

/-- The style of a layer, in the order of the property names. -/
def styles (l : Layer) : StyleMap := (Part.all.foldl l.setPart .empty).sortKeys

end Layer

end DesignCode
