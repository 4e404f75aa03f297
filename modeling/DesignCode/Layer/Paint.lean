import DesignCode.Layer.Color

/-!
# Paints

A `Paint` fills a layer or draws its stroke: with one color, along a gradient, or with an image.
-/

namespace DesignCode

open Json

/-- What a paint paints with. -/
inductive PaintKind where
  | solid
  | linearGradient
  | radialGradient
  | angularGradient
  | diamondGradient
  | image
  | unsupported
deriving DecidableEq, Inhabited

namespace PaintKind

/-- The name of a kind of paint in documents. -/
def name : PaintKind → String
  | solid => "SOLID"
  | linearGradient => "GRADIENT_LINEAR"
  | radialGradient => "GRADIENT_RADIAL"
  | angularGradient => "GRADIENT_ANGULAR"
  | diamondGradient => "GRADIENT_DIAMOND"
  | image => "IMAGE"
  | unsupported => "UNSUPPORTED"

/-- Kinds of paint; any other name stands for an unsupported one. -/
def names : Names PaintKind where
  all := [solid, linearGradient, radialGradient, angularGradient, diamondGradient, image,
    unsupported]
  name := name
  other := some unsupported

end PaintKind

/-- A color at a place along a gradient, which runs from 0 to 1. -/
structure ColorStop where
  position : Float
  color : Color

namespace ColorStop

def record : Record ColorStop where
  title := "struct ColorStop"
  blank := ⟨0, ⟨0, 0, 0, 1⟩⟩
  fields :=
    [.needed "position" .float ColorStop.position fun v s => { s with position := v },
     .needed "color" Color.codec ColorStop.color fun v s => { s with color := v }]

def codec : Codec ColorStop := record.codec

end ColorStop

/-- A fill or a stroke. -/
structure Paint where
  kind : PaintKind := .unsupported
  visible : Option Bool := none
  opacity : Option Float := none
  color : Option Color := none
  stops : List ColorStop := []
  /-- The points between which a gradient runs, and further ones. -/
  handles : List Point := []
  imageRef : Option String := none

namespace Paint

def solid (color : Color) : Paint := { kind := .solid, color := some color }

def linearGradient (stops : List ColorStop) (handles : List Point) : Paint :=
  { kind := .linearGradient, stops := stops, handles := handles }

def image (ref : String) : Paint := { kind := .image, imageRef := some ref }

def hidden (p : Paint) : Paint := { p with visible := some false }

/-- A paint is visible unless it says that it is not. -/
def isVisible (p : Paint) : Bool := p.visible ≠ some false

def record : Record Paint where
  title := "struct Paint"
  blank := {}
  fields :=
    [.defaulted "type" PaintKind.names.codec Paint.kind fun v p => { p with kind := v },
     .optional "visible" .bool Paint.visible fun v p => { p with visible := v },
     .optional "opacity" .float Paint.opacity fun v p => { p with opacity := v },
     .optional "color" Color.codec Paint.color fun v p => { p with color := v },
     .listed "gradientStops" ColorStop.codec Paint.stops fun v p => { p with stops := v },
     .listed "gradientHandlePositions" Point.codec Paint.handles fun v p =>
       { p with handles := v },
     .optional "imageRef" .string Paint.imageRef fun v p => { p with imageRef := v }]

def codec : Codec Paint := record.codec

end Paint

end DesignCode
