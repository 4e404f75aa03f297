import DesignCode.Text.Lines

/-!
# Writing lines of markup

A `Writer` holds the lines that have been written and the depth of the next one.  It is told to write
a line, to enter a block and to leave it again; a line stands two columns further to the right for
each block around it.
-/

namespace DesignCode

/-- The lines that have been written, and the depth of the next one. -/
structure Writer where
  lines : List (List Char) := []
  depth : Nat := 0

namespace Writer

/-- What a writer is told. -/
inductive Command where
  | write (cs : List Char)
  /-- Writes a line that the lines after it are inside of. -/
  | enter (cs : List Char)
  /-- Writes a line outside of the lines before it. -/
  | leave (cs : List Char)

def line (depth : Nat) (cs : List Char) : List Char := List.replicate (2 * depth) ' ' ++ cs

/-- With a further line at the present depth. -/
def add (w : Writer) (cs : List Char) : Writer := { w with lines := w.lines ++ [line w.depth cs] }

/-- Does what it is told.  The depth stops at zero. -/
def step (w : Writer) : Command → Writer
  | .write cs => w.add cs
  | .enter cs => { w.add cs with depth := w.depth + 1 }
  | .leave cs => { w with depth := w.depth - 1 }.add cs

def run (w : Writer) (commands : List Command) : Writer := commands.foldl step w

/-- The text of the lines. -/
def text (w : Writer) : List Char := Text.joined ['\n'] w.lines

end Writer

end DesignCode
