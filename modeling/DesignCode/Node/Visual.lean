import DesignCode.Quad
import DesignCode.Layer.Color

/-!
# What a node looks like

Background, border and corners of a node, and its shadows and blurs.  Colors are CSS texts.
-/

namespace DesignCode

open Json

/-- A solid line around a node. -/
structure Border where
  weight : Float
  color : String

namespace Border

def record : Record Border where
  title := "struct Border"
  blank := ⟨0, ""⟩
  fields :=
    [.needed "weight" .float Border.weight fun v b => { b with weight := v },
     .needed "color" .string Border.color fun v b => { b with color := v }]

def codec : Codec Border := record.codec

end Border

/-- Background, border and corners. -/
structure Visual where
  background : Option String := none
  border : Option Border := none
  radius : Option (Quad Float) := none

namespace Visual

/-- Border and corners are always written, as null if there are none. -/
def record : Record Visual where
  title := "struct Visual"
  blank := {}
  fields :=
    [.optional "background" .string Visual.background fun v x => { x with background := v },
     .defaulted "border" Border.codec.option Visual.border fun v x => { x with border := v },
     .defaulted "radius" (Quad.codec .float).option Visual.radius fun v x =>
       { x with radius := v }]

def codec : Codec Visual := record.codec

end Visual

/-- A shadow around or inside a node. -/
structure Shadow where
  offset : Point
  blur : Float
  color : String
  inset : Bool := false

namespace Shadow

def record : Record Shadow where
  title := "struct Shadow"
  blank := ⟨⟨0, 0⟩, 0, "", false⟩
  fields :=
    [.needed "x" .float (·.offset.x) fun v s => { s with offset := ⟨v, s.offset.y⟩ },
     .needed "y" .float (·.offset.y) fun v s => { s with offset := ⟨s.offset.x, v⟩ },
     .needed "blur" .float Shadow.blur fun v s => { s with blur := v },
     .needed "color" .string Shadow.color fun v s => { s with color := v },
     .flagged "inset" Shadow.inset fun v s => { s with inset := v }]

def codec : Codec Shadow := record.codec

end Shadow

/-- Shadows and blurs. -/
structure Effects where
  shadows : List Shadow := []
  blur : Option Float := none
  backdropBlur : Option Float := none

namespace Effects

/-- Whether there is neither a shadow nor a blur. -/
def isEmpty (e : Effects) : Bool := e.shadows.isEmpty ∧ e.blur.isNone ∧ e.backdropBlur.isNone

def record : Record Effects where
  title := "struct Effects"
  blank := {}
  fields :=
    [.listed "shadows" Shadow.codec Effects.shadows fun v e => { e with shadows := v },
     .optional "blur" .float Effects.blur fun v e => { e with blur := v },
     .optional "backdropBlur" .float Effects.backdropBlur fun v e => { e with backdropBlur := v }]

def codec : Codec Effects := record.codec

end Effects

end DesignCode
