import DesignCode.Text.Lines

/-!
# Failures of commands

A `Failure` says what could not be done and lists its causes, each one caused by the next.
`Failure.text` is how a failure is reported.
-/

namespace DesignCode.Command

/-- What could not be done, and why. -/
structure Failure where
  context : String
  causes : List String := []
deriving DecidableEq

namespace Failure

/-- A text behind a lead; further lines begin under the first one. -/
def block (lead : List Char) (text : String) : String :=
  String.ofList (lead ++ Text.joined ('\n' :: List.replicate lead.length ' ')
    (Text.splitAt (· = '\n') text.toList) ++ ['\n'])

/-- The causes one below the other, numbered if there are several. -/
def causeLines : List String → String
  | [cause] => block [' ', ' ', ' ', ' '] cause
  | causes => String.join (causes.zipIdx.map fun c =>
    let number := c.2.repr.toList
    block (List.replicate (5 - number.length) ' ' ++ number ++ [':', ' ']) c.1)

def text (f : Failure) : String :=
  "Error: " ++ f.context ++ "\n" ++
    if f.causes.isEmpty then "" else "\nCaused by:\n" ++ causeLines f.causes

end Failure

end DesignCode.Command
