import DesignCode.Layer.Facts
import DesignCode.Text.Case

/-!
# How the text of a layer is set

`Layer.typography` keeps of a type style what says something: no empty names, no zeros.
-/

namespace DesignCode

/-- How text is set. -/
structure Typography where
  fontFamily : Option String := none
  fontSize : Option Float := none
  fontWeight : Option Float := none
  letterSpacing : Option Float := none
  /-- In whole pixels. -/
  lineHeight : Option Float := none
  paragraphSpacing : Option Float := none
  textAlign : Option String := none
  textDecoration : Option String := none
  textTransform : Option String := none
  color : Option String := none

def TextCase.transform? : TextCase → Option String
  | upper => some "uppercase"
  | lower => some "lowercase"
  | title => some "capitalize"
  | asTyped => none

namespace Layer

def lowered (s : String) : String := String.ofList (Text.lower s.toList)

/-- Whether a text decoration decorates anything. -/
def isDecoration (s : String) : Bool :=
  s ≠ "" ∧ s.toList.map Char.toLower ≠ ['n', 'o', 'n', 'e']

/-- How a type style sets text in the given color. -/
def typographyOf (s : TypeStyle) (color : Option String) : Typography where
  fontFamily := s.fontFamily.filter (· ≠ "")
  fontSize := s.fontSize.filter (· != 0)
  fontWeight := s.fontWeight.filter (· != 0)
  letterSpacing := s.letterSpacing.filter (· != 0)
  lineHeight := (s.lineHeightPx.filter (· != 0)).map Decimal.nearestWhole
  paragraphSpacing := s.paragraphSpacing.filter (· != 0)
  textAlign := (s.textAlign.filter (· ≠ "")).map lowered
  textDecoration := (s.textDecoration.filter isDecoration).map lowered
  textTransform := s.textCase.bind TextCase.transform?
  color := color

/-- How the text of a text layer with a type style is set. -/
def typography (l : Layer) : Option Typography :=
  if l.kind.isText then l.style.map fun s => typographyOf s l.textColor else none

end Layer

end DesignCode
