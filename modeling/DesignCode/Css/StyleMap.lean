import DesignCode.Css.Notation

/-!
# Style maps

A `StyleMap` gives CSS properties their values, in the order in which they were set.  A value is a
number or a text; both are displayed as they stand in CSS.  `StyleMap.given` makes entries of the
properties that apply, which `OrderedMap.insertAll` sets.
-/

namespace DesignCode

open Json

/-- The value of a CSS property. -/
inductive StyleValue where
  | number (v : Float)
  | text (s : String)

namespace StyleValue

/-- How the value stands in CSS. -/
def display : StyleValue → String
  | number v => Css.number v
  | text s => s

/-- Whether digits are left when at most one inner point is taken away. -/
def isUnsignedNumeral (cs : List Char) : Bool :=
  cs ≠ [] ∧ cs.all (fun c => c.isDigit ∨ c = '.') ∧ cs.count '.' ≤ 1 ∧
    cs.head? ≠ some '.' ∧ cs.getLast? ≠ some '.'

/-- Whether a text looks like a number: a minus sign maybe, digits, and one inner point maybe. -/
def isNumeral : List Char → Bool
  | '-' :: cs => isUnsignedNumeral cs
  | cs => isUnsignedNumeral cs

/-- Whether the value stands for a bare number. -/
def isNumeric : StyleValue → Bool
  | number _ => true
  | text s => isNumeral s.toList

/-- Reads a number or a string, after the whole value has been read. -/
def ofJson? : Json → Option StyleValue
  | .int n => some (number (Float.ofInt n))
  | .float x => some (number x)
  | .string s => some (text s)
  | _ => none

/-- Numbers and strings. -/
def codec : Codec StyleValue where
  read levels d := do
    match ofJson? (← d.toJson levels) with
    | some v => .ok v
    | none => .error (.noAlternative "StyleValue")
  write
    | number v => .float v
    | text s => .string s

end StyleValue

/-- CSS properties with their values. -/
abbrev StyleMap := OrderedMap StyleValue

namespace StyleMap

/-- The properties that have a text, with that text. -/
def given (es : List (String × Option String)) : List (String × StyleValue) :=
  es.filterMap fun e => e.2.map fun s => (e.1, .text s)

/-- How the value of a property stands in CSS. -/
def display? (css : StyleMap) (key : String) : Option String := (css.get? key).map (·.display)

def codec : Codec StyleMap := StyleValue.codec.map

end StyleMap

end DesignCode
