import DesignCode.Command.Topic

/-!
# Help on the command line

`Topic.helpText` says what a topic is for and lists its commands, what it works on and its options,
each beside its purpose.
-/

namespace DesignCode.Command

/-- How the help shows an option: its letter, its name and a name for its value. -/
def Switch.usage (s : Switch) : String :=
  let letter := match s.letter? with
    | some c => String.ofList ['-', c, ',', ' ']
    | none => "    "
  let value := match s.valueName? with
    | some name => " <" ++ name ++ ">"
    | none => ""
  letter ++ "--" ++ s.name ++ value

namespace Topic

/-- A list under a heading: names, and behind the longest one what is said of each. -/
def listing (heading : String) (rows : List (String × String)) : String :=
  let width := (rows.map fun r => r.1.length).foldl max 0
  "\n" ++ heading ++ ":\n" ++ String.join (rows.map fun r =>
    "  " ++ r.1 ++ String.ofList (List.replicate (width - r.1.length + 2) ' ') ++ r.2 ++ "\n")

def usage (t : Topic) : String :=
  let command := if t = program then [] else [t.name]
  let options := if t.switches.isEmpty then [] else ["[OPTIONS]"]
  "Usage: " ++ " ".intercalate ([program.name] ++ command ++ options ++ [t.operand.1])

def helpText (t : Topic) : String :=
  let below :=
    if t = program then listing "Commands" (commands.map fun c => (c.name, c.purpose))
    else listing "Arguments" [t.operand]
  let options :=
    if t.switches.isEmpty then ""
    else listing "Options" (t.switches.map fun s => (s.usage, s.purpose))
  t.purpose ++ "\n\n" ++ t.usage ++ "\n" ++ below ++ options

end Topic

end DesignCode.Command
