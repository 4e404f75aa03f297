import DesignCode.Command.Run

/-!
# The program

Runs a command line on the files of the machine, prints to the standard output and reports failures
on the standard error output.
-/

namespace DesignCode

open Command

/-- What went wrong with a file, with the number that the system gives to it. -/
def systemCause : IO.Error → String
  | .noFileOrDirectory _ code details
  | .alreadyExists _ code details
  | .inappropriateType _ code details
  | .invalidArgument _ code details
  | .interrupted _ code details
  | .noSuchThing _ code details
  | .permissionDenied _ code details
  | .resourceExhausted _ code details
  | .hardwareFault code details
  | .illegalOperation code details
  | .otherError code details
  | .resourceBusy code details
  | .resourceVanished code details
  | .unsatisfiedConstraints code details
  | .unsupportedOperation code details =>
    details ++ " (os error " ++ code.toNat.repr ++ ")"
  | e => toString e

/-- Does something with a file and keeps what went wrong. -/
def tryFile {α : Type} (act : IO α) : IO (Except String α) := do
  try return .ok (← act)
  catch e => return .error (systemCause e)

/-- Reads a file as a text. -/
def readText (path : String) : IO (Except String String) := do
  match ← tryFile (IO.FS.readBinFile path) with
  | .error cause => return .error cause
  | .ok bytes =>
    match String.fromUTF8? bytes with
    | some text => return .ok text
    | none => return .error "stream did not contain valid UTF-8"

/-- The machine that the program runs on. -/
def systemMachine : Machine IO where
  read := readText
  write path text := tryFile (IO.FS.writeFile path text)
  print line := IO.println line
  clock := do return (Float.ofNat (← IO.monoNanosNow)) / 1000000

end DesignCode

def main (args : List String) : IO UInt32 := do
  let ending ← DesignCode.Command.runLine DesignCode.systemMachine args
  IO.eprint ending.text
  return ending.code
