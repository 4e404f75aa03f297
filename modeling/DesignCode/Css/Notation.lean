import DesignCode.Layer.Color
import DesignCode.Quad
import DesignCode.Decimal.Notation

/-!
# Numbers and colors in CSS

Every number of a style is written by one of these functions: `number` with the fewest digits that
read back, `opacity` with at most three digits behind the point.  Colors are written in whole
channels, with the alpha channel to three places if it is not 1.
-/

namespace DesignCode.Css

open Decimal

/-- The nearest multiple of a thousandth. -/
def round3 (v : Float) : Float := nearestWhole (v * 1000) / 1000

/-- A number without exponent; zeros and values that are not finite are written `0`. -/
def number (v : Float) : String :=
  if v.isFinite ∧ ¬ v == 0 then String.ofList (shortest v) else "0"

/-- Drops the zeros at the end of a text, and a point before them. -/
def dropFractionZeros (cs : List Char) : List Char :=
  match cs.reverse.dropWhile (· = '0') with
  | '.' :: rest => rest.reverse
  | rest => rest.reverse

/-- A number to three places without zeros at its end; a zero has no sign. -/
def opacity (v : Float) : String :=
  let text := dropFractionZeros (fixed 3 v)
  if text = ['-', '0'] then "0" else String.ofList text

def px (v : Float) : String := number v ++ "px"

def quadPx (q : Quad Float) : String := " ".intercalate (q.toList.map px)

/-- Four corner radii, written as one if they agree. -/
def radii (q : Quad Float) : String :=
  if q.toList.all (· == q.first) then px q.first else quadPx q

/-- The three color channels with commas between them. -/
def channels (c : Color) : String :=
  let (r, g, b) := c.rgb8
  ", ".intercalate ([r, g, b].map fun n => String.ofList (digitChars n))

/-- A color with its alpha channel. -/
def rgba (c : Color) : String := "rgba(" ++ channels c ++ ", " ++ number (round3 c.a) ++ ")"

/-- A color, with its alpha channel if that is not 1. -/
def color (c : Color) : String :=
  if round3 c.a == 1 then "rgb(" ++ channels c ++ ")" else rgba c

/-- The angle of a direction in degrees, from the first axis towards the second. -/
def degrees (d : Point) : Float := Float.atan2 d.y d.x * 57.29577951308232

/-- The angle of a gradient in whole degrees.  The first two handles give its direction; the angle
zero points up, a quarter turn from the first axis. -/
def gradientAngle : List Point → Float
  | start :: stop :: _ =>
    let turned := degrees (stop - start) + 90 + 360
    let rounded := nearestWhole (if turned < 360 then turned else turned - 360)
    if 360 ≤ rounded then 0 else rounded
  | _ => 0

end DesignCode.Css
