import DesignCode.Layer.Color

/-!
# Effects

An `Effect` adds a shadow to a layer or blurs the layer or what lies behind it.
-/

namespace DesignCode

open Json

/-- What an effect does. -/
inductive EffectKind where
  | dropShadow
  | innerShadow
  | layerBlur
  | backgroundBlur
  | unsupported
deriving DecidableEq, Inhabited

namespace EffectKind

/-- The name of a kind of effect in documents. -/
def name : EffectKind → String
  | dropShadow => "DROP_SHADOW"
  | innerShadow => "INNER_SHADOW"
  | layerBlur => "LAYER_BLUR"
  | backgroundBlur => "BACKGROUND_BLUR"
  | unsupported => "UNSUPPORTED"

/-- Kinds of effect; any other name stands for an unsupported one. -/
def names : Names EffectKind where
  all := [dropShadow, innerShadow, layerBlur, backgroundBlur, unsupported]
  name := name
  other := some unsupported

end EffectKind

/-- A shadow or a blur. -/
structure Effect where
  kind : EffectKind := .unsupported
  visible : Option Bool := none
  radius : Option Float := none
  color : Option Color := none
  offset : Option Point := none

namespace Effect

def dropShadow (offset : Point) (radius : Float) (color : Color) : Effect :=
  { kind := .dropShadow, radius := some radius, color := some color, offset := some offset }

def innerShadow (offset : Point) (radius : Float) (color : Color) : Effect :=
  { dropShadow offset radius color with kind := .innerShadow }

def layerBlur (radius : Float) : Effect := { kind := .layerBlur, radius := some radius }

/-- A blur of what lies behind the layer. -/
def backgroundBlur (radius : Float) : Effect := { kind := .backgroundBlur, radius := some radius }

/-- An effect is visible unless it says that it is not. -/
def isVisible (e : Effect) : Bool := e.visible ≠ some false

def record : Record Effect where
  title := "struct Effect"
  blank := {}
  fields :=
    [.defaulted "type" EffectKind.names.codec Effect.kind fun v e => { e with kind := v },
     .optional "visible" .bool Effect.visible fun v e => { e with visible := v },
     .optional "radius" .float Effect.radius fun v e => { e with radius := v },
     .optional "color" Color.codec Effect.color fun v e => { e with color := v },
     .optional "offset" Point.codec Effect.offset fun v e => { e with offset := v }]

def codec : Codec Effect := record.codec

end Effect

end DesignCode
