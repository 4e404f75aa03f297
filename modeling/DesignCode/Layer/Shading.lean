import DesignCode.Layer.Facts
import DesignCode.Css.Effects

/-!
# The visible effects of a layer

`Layer.shading` sorts the visible effects of a layer into shadows and blurs, each in the order of
the document.
-/

namespace DesignCode

/-- Shadows and the radii of blurs. -/
structure Shading where
  shadows : List Shadow := []
  layerBlurs : List Float := []
  backgroundBlurs : List Float := []

namespace Shading

/-- Whether there is neither a shadow nor a blur. -/
def isEmpty (s : Shading) : Bool :=
  s.shadows.isEmpty ∧ s.layerBlurs.isEmpty ∧ s.backgroundBlurs.isEmpty

end Shading

namespace Effect

/-- The shadow of an effect that has both an offset and a color. -/
def shadow? (e : Effect) : Option Shadow :=
  if e.kind = .dropShadow ∨ e.kind = .innerShadow then do
    return ⟨← e.offset, e.radius.getD 0, Css.rgba (← e.color), e.kind = .innerShadow⟩
  else none

/-- The radius of an effect of the given kind. -/
def radius? (kind : EffectKind) (e : Effect) : Option Float :=
  if e.kind = kind then some (e.radius.getD 0) else none

end Effect

namespace Layer

def visibleEffects (l : Layer) : List Effect := (l.effects.getD []).filter Effect.isVisible

/-- The visible effects as shadows and blurs. -/
def shading (l : Layer) : Shading where
  shadows := l.visibleEffects.filterMap Effect.shadow?
  layerBlurs := l.visibleEffects.filterMap (Effect.radius? .layerBlur)
  backgroundBlurs := l.visibleEffects.filterMap (Effect.radius? .backgroundBlur)

end Layer

end DesignCode
