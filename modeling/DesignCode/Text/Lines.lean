import DesignCode.Text.Blank

/-!
# Lines and lists of parts

A text is cut at its line feeds by `lines` and put together from parts by `joined`.  `indent` puts
spaces in front of every line that is not blank.
-/

namespace DesignCode.Text

/-- The parts with `sep` between each two. -/
def joined (sep : List Char) (parts : List (List Char)) : List Char := (parts.intersperse sep).flatten

/-- The parts between the characters that satisfy `p`: one more than there are such characters. -/
def splitAt (p : Char → Bool) : List Char → List (List Char)
  | [] => [[]]
  | c :: rest =>
    if p c then [] :: splitAt p rest
    else match splitAt p rest with
      | [] => [[c]]
      | part :: parts => (c :: part) :: parts

/-- The lines of a text.  A line feed ends a line, together with one carriage return before it;
after the last line feed there is a line only if characters follow. -/
def lines : List Char → List (List Char)
  | [] => []
  | '\n' :: rest => [] :: lines rest
  | '\r' :: '\n' :: rest => [] :: lines rest
  | c :: rest =>
    match lines rest with
    | [] => [[c]]
    | l :: ls => (c :: l) :: ls

/-- Puts `n` spaces before a line that is not blank. -/
def indentLine (n : Nat) (line : List Char) : List Char :=
  if line.all isBlank then line else List.replicate n ' ' ++ line

/-- Puts `n` spaces before each line that is not blank; line ends become line feeds. -/
def indent (n : Nat) (cs : List Char) : List Char :=
  joined ['\n'] ((lines cs).map (indentLine n))

end DesignCode.Text
