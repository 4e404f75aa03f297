import DesignCode.Css.StyleMap
import DesignCode.Text.Lines

/-!
# Literals of scripts

A text becomes a string literal between single quotes; quotes, backslashes and the characters that
end a line are escaped.  A style map becomes an object literal, whose keys are quoted unless they are
identifiers and whose values are bare if they look like numbers.
-/

namespace DesignCode.Script

/-- A character inside a string literal. -/
def escapedChar (c : Char) : List Char :=
  if c = '\\' then ['\\', '\\']
  else if c = '\x27' then ['\\', '\x27']
  else if c = '\n' then ['\\', 'n']
  else if c = '\r' then ['\\', 'r']
  else if c = '\u2028' then ['\\', 'u', '2', '0', '2', '8']
  else if c = '\u2029' then ['\\', 'u', '2', '0', '2', '9']
  else [c]

/-- The inside of a string literal. -/
def escape (cs : List Char) : List Char := cs.flatMap escapedChar

def literal (cs : List Char) : List Char := '\x27' :: escape cs ++ ['\x27']

/-- Whether an identifier may begin with the character. -/
def startsIdentifier (c : Char) : Bool := c.isAlpha ∨ c = '_' ∨ c = '$'

/-- Whether a text is an identifier: letters and digits of ASCII, `_` and `$`, no digit first. -/
def isIdentifier : List Char → Bool
  | [] => false
  | c :: rest => startsIdentifier c ∧ rest.all fun d => startsIdentifier d ∨ d.isDigit

/-- A key of an object literal. -/
def key (cs : List Char) : List Char := if isIdentifier cs then cs else literal cs

/-- An object literal with the given keys and written values. -/
def object (entries : List (List Char × List Char)) : List Char :=
  if entries.isEmpty then ['\x7b', '\x7d']
  else
    ['\x7b', ' '] ++
      Text.joined [',', ' '] (entries.map fun e => key e.1 ++ ':' :: ' ' :: e.2) ++ [' ', '\x7d']

def styleValue (v : StyleValue) : List Char :=
  if v.isNumeric then v.display.toList else literal v.display.toList

/-- A style map as an object literal. -/
def styleObject (css : StyleMap) : List Char :=
  object (css.entries.map fun e => (e.1.toList, styleValue e.2))

end DesignCode.Script
