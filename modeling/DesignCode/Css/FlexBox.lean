import DesignCode.Node.FlexBox
import DesignCode.Css.StyleMap

/-!
# Flex boxes in CSS
-/

namespace DesignCode.FlexBox

/-- The properties of a flex box.  There is a gap only if it is larger than zero. -/
def style (b : FlexBox) : List (String × StyleValue) :=
  StyleMap.given
    [("display", some "flex"),
     ("flex-direction", some b.direction.css),
     ("justify-content", b.justify.map (·.css)),
     ("align-items", b.align.map (·.css)),
     ("gap", (b.gap.filter (0 < ·)).map Css.px),
     ("padding", b.padding.map Css.quadPx)]

end DesignCode.FlexBox
