import DesignCode.Json.Codec

/-!
# Kinds of layers

What a layer is: a container, a text, a shape.  A kind without a name of its own is `unknown`.
-/

namespace DesignCode

open Json

/-- What a layer is. -/
inductive Kind where
  | frame
  | group
  | component
  | componentInstance
  | rectangle
  | text
  | vector
  | booleanOperation
  | star
  | line
  | ellipse
  | regularPolygon
  | unknown
deriving DecidableEq, Inhabited

namespace Kind

/-- The name of a kind in documents. -/
def name : Kind → String
  | frame => "FRAME"
  | group => "GROUP"
  | component => "COMPONENT"
  | componentInstance => "INSTANCE"
  | rectangle => "RECTANGLE"
  | text => "TEXT"
  | vector => "VECTOR"
  | booleanOperation => "BOOLEAN_OPERATION"
  | star => "STAR"
  | line => "LINE"
  | ellipse => "ELLIPSE"
  | regularPolygon => "REGULAR_POLYGON"
  | unknown => "UNKNOWN"

def all : List Kind :=
  [frame, group, component, componentInstance, rectangle, text, vector, booleanOperation, star, line,
   ellipse, regularPolygon, unknown]

/-- Kinds; a name that is none of theirs stands for an unknown one. -/
def names : Names Kind := ⟨all, name, some unknown⟩

/-- Whether layers of this kind hold text. -/
def isText (k : Kind) : Bool := k = text

/-- Whether layers of this kind are drawn shapes, which stand for icons. -/
def isShape : Kind → Bool
  | vector | booleanOperation | star | line | ellipse | regularPolygon => true
  | _ => false

/-- Whether the kind has no name of its own. -/
def isUnknown (k : Kind) : Bool := k = unknown

end Kind

end DesignCode
