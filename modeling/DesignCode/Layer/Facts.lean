import DesignCode.Layer.Basic
import DesignCode.Node.FlexBox
import DesignCode.Node.Visual
import DesignCode.Css.Notation

/-!
# What a layer says about its look

Each function reads one fact off a layer: its size, its background, its border, how it arranges its
children.  The flat style map and the records of nodes are made of these facts, so that they cannot
disagree; only the opacity is taken in two forms, one before and one after it is rounded.
-/

namespace DesignCode.Layer

open Decimal

/-! ### Size and opacity -/

/-- The size of the box in whole pixels, width first. -/
def size (l : Layer) : Option (Float × Float) :=
  l.box.map fun b => (nearestWhole b.width, nearestWhole b.height)

/-- The opacity of the layer, if it is below 1. -/
def translucency (l : Layer) : Option Float := l.opacity.filter (· < 1)

/-- The opacity of the layer to three places, if it is below 1. -/
def ownOpacity (l : Layer) : Option Float := l.translucency.map Css.round3

/-! ### Paints -/

/-- A color stop of a gradient; places are written in whole percents. -/
def gradientStop (s : ColorStop) : String :=
  Css.rgba s.color ++ " " ++ Css.number (nearestWhole (s.position * 100)) ++ "%"

def gradient (p : Paint) : String :=
  "linear-gradient(" ++ Css.number (Css.gradientAngle p.handles) ++ "deg, " ++
    ", ".intercalate (p.stops.map gradientStop) ++ ")"

/-- The background that a paint makes.  Only solid paints and gradients along a line with stops make
one. -/
def paintBackground (p : Paint) : Option String :=
  match p.kind with
  | .solid => p.color.map Css.color
  | .linearGradient => if p.stops.isEmpty then none else some (gradient p)
  | _ => none

/-- The background: that of the first visible fill if there is a list of fills, else the background
color. -/
def background (l : Layer) : Option String :=
  match l.fills with
  | some _ => l.firstVisibleFill.bind paintBackground
  | none => l.backgroundColor.map Css.color

/-- The color that a visible solid paint gives to text. -/
def paintTextColor (p : Paint) : Option Color :=
  if p.isVisible ∧ p.kind = .solid then p.color else none

/-- The color of text: that of the first visible solid fill with a color. -/
def textColor (l : Layer) : Option String :=
  ((l.fills.getD []).findSome? paintTextColor).map Css.color

/-- The border: the first visible stroke with a color, unless its weight is zero. -/
def border (l : Layer) : Option Border := do
  let weight ← l.strokeWeight.filter (· != 0)
  let color ← (l.strokes.getD []).findSome? fun p => if p.isVisible then p.color else none
  return ⟨weight, Css.color color⟩

/-! ### Corners -/

/-- How the corners are rounded. -/
inductive Corners where
  | uniform (radius : Float)
  | each (radii : Quad Float)

def Corners.radii : Corners → Quad Float
  | uniform r => .replicate r
  | each q => q

/-- The rounding of the corners; four radii count before a single one. -/
def corners (l : Layer) : Option Corners :=
  l.cornerRadii.map .each <|> l.cornerRadius.map .uniform

/-! ### Arrangement of the children -/

/-- The alignment along the direction. -/
def mainAlign : PrimaryAlign → MainAlign
  | .min => .start
  | .max => .stop
  | .spaceBetween => .spaceBetween
  | .center => .center

/-- The alignment across the direction. -/
def crossAlign : CounterAlign → CrossAlign
  | .min => .start
  | .max => .stop
  | .baseline => .baseline
  | .center => .center

/-- The direction in which the children are arranged. -/
def direction (l : Layer) : Option FlexDirection :=
  match l.layoutMode with
  | some .horizontal => some .row
  | some .vertical => some .column
  | _ => none

/-- The padding, if any side has one; the other sides have zero. -/
def padding (l : Layer) : Option (Quad Float) :=
  let sides : Quad (Option Float) :=
    ⟨l.paddingTop, l.paddingRight, l.paddingBottom, l.paddingLeft⟩
  if sides.toList.any Option.isSome then some (sides.map (·.getD 0)) else none

/-- The flex box of a layer that arranges its children. -/
def flexBox (l : Layer) : Option FlexBox :=
  l.direction.map fun d =>
    { direction := d
      gap := l.itemSpacing
      padding := l.padding
      justify := l.primaryAlign.map mainAlign
      align := l.counterAlign.map crossAlign }

end DesignCode.Layer
