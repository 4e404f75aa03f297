import DesignCode.Text.Cluster
import DesignCode.Text.Blank

/-!
# Texts quoted for a reader

`quoted` shows a text between double quotes in a message: characters that cannot be seen, or would
join the quote, are written as escapes.
-/

namespace DesignCode.Text

/-- The hexadecimal digits of a number, in lower case and without leading zeros. -/
def hexDigits (n : Nat) : List Char := Nat.toDigits 16 n

/-- Characters that leave nothing to see or join the character before them. -/
def isHidden (c : Char) : Bool :=
  let n := c.toNat
  n < 0x20 ∨ (0x7F ≤ n ∧ n < 0xA0) ∨ n = 0xAD ∨ (isBlank c ∧ n ≠ 0x20) ∨ inRanges n attaching ∨
    inRanges n
      [(0x600, 0x605), (0x61C, 0x61C), (0x6DD, 0x6DD), (0x70F, 0x70F), (0x180E, 0x180E),
       (0x200B, 0x200F), (0x202A, 0x202E), (0x2060, 0x206F), (0xE000, 0xF8FF), (0xFEFF, 0xFEFF),
       (0xFFF0, 0xFFFB), (0xFFFE, 0xFFFF), (0xE0000, 0x10FFFF)]

/-- A character of a quoted text. -/
def quotedChar (c : Char) : List Char :=
  if c = '"' then ['\\', '"']
  else if c = '\\' then ['\\', '\\']
  else if c = '\n' then ['\\', 'n']
  else if c = '\r' then ['\\', 'r']
  else if c = '\t' then ['\\', 't']
  else if c.toNat = 0 then ['\\', '0']
  else if isHidden c then '\\' :: 'u' :: '\x7b' :: hexDigits c.toNat ++ ['\x7d']
  else [c]

def quoted (cs : List Char) : List Char := '"' :: cs.flatMap quotedChar ++ ['"']

end DesignCode.Text
