import DesignCode.Node.Visual
import DesignCode.Css.Notation

/-!
# Shadows and blurs in CSS
-/

namespace DesignCode.Css

/-- A shadow as one entry of `box-shadow`. -/
def shadow (s : Shadow) : String :=
  px s.offset.x ++ " " ++ px s.offset.y ++ " " ++ px s.blur ++ " 0 " ++ s.color ++
    (if s.inset then " inset" else "")

/-- The value of `box-shadow`, if there are shadows. -/
def shadows (ss : List Shadow) : Option String :=
  if ss.isEmpty then none else some (", ".intercalate (ss.map shadow))

/-- The value of `filter` for blurs of the given radii, if there are any. -/
def blurs (radii : List Float) : Option String :=
  if radii.isEmpty then none
  else some (" ".intercalate (radii.map fun r => "blur(" ++ px r ++ ")"))

def border (b : Border) : String := px b.weight ++ " solid " ++ b.color

end DesignCode.Css
