import DesignCode.Layer.Basic
import DesignCode.Node.Basic
import DesignCode.Css.StyleMap

/-!
# Placeholders for images

Images are not shown; a layer filled with one is a gray box with a label.  `Layer.placeholder` is
the record of such a layer, `Layer.standalonePlaceholder` a placeholder with a style of its own and
the size in its label.
-/

namespace DesignCode

def Placeholder.background : String := "#ccc"

/-- A placeholder with a style of its own. -/
structure StandalonePlaceholder where
  label : Placeholder
  style : StyleMap

namespace StandalonePlaceholder

open Json in
/-- How a placeholder with a style is written. -/
def toJson (p : StandalonePlaceholder) : Json :=
  .object (Placeholder.record.members p.label ++ [("style", StyleMap.codec.write p.style)])

end StandalonePlaceholder

namespace Layer

/-- The label of the layer, made of its name. -/
def baseLabel (l : Layer) : String :=
  (if l.name = "" then "image" else l.name) ++ " placeholder"

def wholeText (v : Float) : String := String.ofList (Decimal.shortest (Decimal.nearestWhole v))

/-- The label of the layer with the size of its box. -/
def sizedLabel (l : Layer) : String :=
  match l.box with
  | some b => l.baseLabel ++ " " ++ wholeText b.width ++ "x" ++ wholeText b.height
  | none => l.baseLabel

/-- The placeholder of a layer that a fill shows an image on. -/
def placeholder (l : Layer) : Option Placeholder :=
  if l.hasImageFill then some ⟨"img", l.baseLabel⟩ else none

/-- The placeholder of a layer with its size in the label. -/
def sizedPlaceholder (l : Layer) : Placeholder := ⟨"img", l.sizedLabel⟩

/-- A placeholder with its label in the middle of a gray box. -/
def standalonePlaceholder (l : Layer) : StandalonePlaceholder where
  label := l.sizedPlaceholder
  style := (OrderedMap.ofList
    [("background", .text Placeholder.background),
     ("display", .text "flex"),
     ("align-items", .text "center"),
     ("justify-content", .text "center"),
     ("color", .text "#666"),
     ("font-size", .text "12px"),
     ("font-family", .text "sans-serif")]).sortKeys

end Layer

end DesignCode
