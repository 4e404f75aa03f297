import DesignCode.Json.Record
import DesignCode.Decimal.Whole

/-!
# Colors, points and boxes

The values of which layers are made: colors with channels between 0 and 1, points, and boxes in the
coordinates of the whole document.
-/

namespace DesignCode

open Json

/-! ### Colors -/

/-- A color; the channels run from 0 to 1. -/
structure Color where
  r : Float
  g : Float
  b : Float
  a : Float := 1

namespace Color

/-- A channel in 8 bits: 255 times its value to the nearest whole number, cut off at both ends. -/
def channel (v : Float) : Nat := (Decimal.nearestWhole (v * 255)).toUInt8.toNat

/-- The red, green and blue channels in 8 bits. -/
def rgb8 (c : Color) : Nat × Nat × Nat := (channel c.r, channel c.g, channel c.b)

/-- A color is opaque unless its record says otherwise. -/
def record : Record Color where
  title := "struct Color"
  blank := ⟨0, 0, 0, 1⟩
  fields :=
    [.needed "r" .float Color.r fun v c => { c with r := v },
     .needed "g" .float Color.g fun v c => { c with g := v },
     .needed "b" .float Color.b fun v c => { c with b := v },
     .defaulted "a" .float Color.a fun v c => { c with a := v }]

def codec : Codec Color := record.codec

end Color

/-! ### Points -/

/-- A point, or the way from one point to another. -/
structure Point where
  x : Float
  y : Float

namespace Point

/-- The way from `q` to `p`. -/
def sub (p q : Point) : Point := ⟨p.x - q.x, p.y - q.y⟩

instance : Sub Point := ⟨sub⟩

def zero : Point := ⟨0, 0⟩

def record : Record Point where
  title := "struct Point"
  blank := zero
  fields :=
    [.needed "x" .float Point.x fun v p => { p with x := v },
     .needed "y" .float Point.y fun v p => { p with y := v }]

def codec : Codec Point := record.codec

end Point

/-! ### Boxes -/

/-- A box with its sides along the axes. -/
structure Rect where
  x : Float
  y : Float
  width : Float
  height : Float

namespace Rect

/-- The corner with the smallest coordinates. -/
def origin (r : Rect) : Point := ⟨r.x, r.y⟩

def record : Record Rect where
  title := "struct Rect"
  blank := ⟨0, 0, 0, 0⟩
  fields :=
    [.needed "x" .float Rect.x fun v r => { r with x := v },
     .needed "y" .float Rect.y fun v r => { r with y := v },
     .needed "width" .float Rect.width fun v r => { r with width := v },
     .needed "height" .float Rect.height fun v r => { r with height := v }]

def codec : Codec Rect := record.codec

end Rect

end DesignCode
