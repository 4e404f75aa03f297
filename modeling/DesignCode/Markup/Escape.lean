import DesignCode.Script.Literal

/-!
# Text in markup

`childText` writes a text between two tags and `attributeText` one between the quotes of an
attribute.  Line breaks between tags would be folded, so a text with one becomes a string literal
in braces.
-/

namespace DesignCode.Markup

def escapedChar (c : Char) : List Char :=
  if c = '&' then ['&', 'a', 'm', 'p', ';']
  else if c = '<' then ['&', 'l', 't', ';']
  else if c = '>' then ['&', 'g', 't', ';']
  else if c = '\x7b' then ['&', '#', '1', '2', '3', ';']
  else if c = '\x7d' then ['&', '#', '1', '2', '5', ';']
  else [c]

/-- A text between two tags, with entities for what would be markup. -/
def escape (cs : List Char) : List Char := cs.flatMap escapedChar

/-- Whether the character ends a line of a script. -/
def endsLine (c : Char) : Bool := c = '\n' ∨ c = '\r' ∨ c = '\u2028' ∨ c = '\u2029'

/-- A text as a child of an element. -/
def childText (cs : List Char) : List Char :=
  if cs.any endsLine then '\x7b' :: Script.literal cs ++ ['\x7d'] else escape cs

/-- A character between the double quotes of an attribute. -/
def attributeChar (c : Char) : List Char :=
  if c = '&' then ['&', 'a', 'm', 'p', ';']
  else if c = '"' then ['&', 'q', 'u', 'o', 't', ';']
  else if c = '<' then ['&', 'l', 't', ';']
  else if c = '>' then ['&', 'g', 't', ';']
  else [c]

/-- A text between the double quotes of an attribute. -/
def attributeText (cs : List Char) : List Char := cs.flatMap attributeChar

/-- An attribute with a text in double quotes. -/
def attr (name : String) (cs : List Char) : List Char :=
  name.toList ++ '=' :: '"' :: attributeText cs ++ ['"']

end DesignCode.Markup
