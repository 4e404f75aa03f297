import DesignCode.Json.Basic
import DesignCode.Decimal.Notation

/-!
# JSON as text

`render` writes a value without spaces, `pretty` with one member or item a line.  Doubles show the
fewest digits that read back, positionally and with a fraction between `10^-5` and `10^16` and with
an exponent elsewhere; what is not finite is written as null.
-/

namespace DesignCode.Json

open Decimal

/-! ### Scalars -/

/-- The text of a decimal: positional, with at least one digit behind the point, if its first digit
stands between `10^-5` and `10^15`, else with an exponent. -/
def decimalText (d : Dec) : List Char :=
  let top := d.exp + (digitCount d.digits : Int)
  if d.digits = 0 ∨ (-5 < top ∧ top ≤ 16) then
    if 0 ≤ d.exp then d.plain ++ ['.', '0'] else d.plain
  else d.scientific

def floatText (x : Float) : List Char :=
  if x.isFinite then signed x (decimalText ((Binary.ofFloat x).shortest .toEven))
  else ['n', 'u', 'l', 'l']

/-- The text of a whole number. -/
def intText (n : Int) : List Char :=
  if n < 0 then '-' :: digitChars n.natAbs else digitChars n.natAbs

/-- One of the sixteen hexadecimal digits. -/
def hexDigit (n : Nat) : Char := Nat.digitChar n

/-- A character inside a JSON string: quotes, backslashes and control characters are escaped. -/
def escapedChar (c : Char) : List Char :=
  if c = '"' then ['\\', '"']
  else if c = '\\' then ['\\', '\\']
  else if c = '\n' then ['\\', 'n']
  else if c = '\r' then ['\\', 'r']
  else if c = '\t' then ['\\', 't']
  else if c = '\x08' then ['\\', 'b']
  else if c = '\x0c' then ['\\', 'f']
  else if c.toNat < 0x20 then
    ['\\', 'u', '0', '0', hexDigit (c.toNat / 16), hexDigit (c.toNat % 16)]
  else [c]

def stringText (s : List Char) : List Char := '"' :: s.flatMap escapedChar ++ ['"']

/-- The text of a truth value. -/
def boolText (b : Bool) : List Char :=
  if b then ['t', 'r', 'u', 'e'] else ['f', 'a', 'l', 's', 'e']

/-! ### Without spaces -/

mutual

/-- The text of a value without spaces. -/
def render : Json → List Char
  | null => ['n', 'u', 'l', 'l']
  | bool b => boolText b
  | int n => intText n
  | float x => floatText x
  | string s => stringText s.toList
  | array [] => ['[', ']']
  | array (j :: rest) => '[' :: (render j ++ renderItems rest)
  | object [] => ['\x7b', '\x7d']
  | object ((k, j) :: rest) =>
    '\x7b' :: (stringText k.toList ++ ':' :: (render j ++ renderMembers rest))

/-- The items after the first one, with the closing bracket. -/
def renderItems : List Json → List Char
  | [] => [']']
  | j :: rest => ',' :: (render j ++ renderItems rest)

/-- The members after the first one, with the closing brace. -/
def renderMembers : List (String × Json) → List Char
  | [] => ['\x7d']
  | (k, j) :: rest => ',' :: (stringText k.toList ++ ':' :: (render j ++ renderMembers rest))

end

/-- The text of a value without spaces, as a string. -/
def text (j : Json) : String := String.ofList j.render

/-! ### With line breaks -/

/-- A line break before a line at depth `n`, two spaces a level. -/
def newline (n : Nat) : List Char := '\n' :: List.replicate (2 * n) ' '

mutual

/-- The text of a value at depth `n`, one item or member a line. -/
def pretty (n : Nat) : Json → List Char
  | array [] => ['[', ']']
  | array (j :: rest) => '[' :: (newline (n + 1) ++ pretty (n + 1) j ++ prettyItems n rest)
  | object [] => ['\x7b', '\x7d']
  | object ((k, j) :: rest) =>
    '\x7b' :: (newline (n + 1) ++ stringText k.toList ++ ':' :: ' ' ::
      (pretty (n + 1) j ++ prettyMembers n rest))
  | null => ['n', 'u', 'l', 'l']
  | bool b => boolText b
  | int i => intText i
  | float x => floatText x
  | string s => stringText s.toList

/-- The items after the first one of an array at depth `n`, with the closing bracket. -/
def prettyItems (n : Nat) : List Json → List Char
  | [] => newline n ++ [']']
  | j :: rest => ',' :: (newline (n + 1) ++ pretty (n + 1) j ++ prettyItems n rest)

/-- The members after the first one of an object at depth `n`, with the closing brace. -/
def prettyMembers (n : Nat) : List (String × Json) → List Char
  | [] => newline n ++ ['\x7d']
  | (k, j) :: rest =>
    ',' :: (newline (n + 1) ++ stringText k.toList ++ ':' :: ' ' ::
      (pretty (n + 1) j ++ prettyMembers n rest))

end

end DesignCode.Json
