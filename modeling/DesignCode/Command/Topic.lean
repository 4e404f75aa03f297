import DesignCode.Code.Options

/-!
# What the program can be asked for

A `Topic` is the program itself or one of its commands.  `Topic.switches` lists the options that may
stand behind its name, in the order in which the help shows them.
-/

namespace DesignCode.Command

/-! ### Options -/

/-- An option of the command line. -/
inductive Switch where
  | verbose
  | help
  | version
  | target
  | componentName
  | memo
  | config
  | out
  | sessionLog
deriving DecidableEq

namespace Switch

/-- The name behind two hyphens. -/
def name : Switch → String
  | verbose => "verbose"
  | help => "help"
  | version => "version"
  | target => "target"
  | componentName => "component-name"
  | memo => "memo"
  | config => "config"
  | out => "out"
  | sessionLog => "session-log"

/-- The letter behind one hyphen. -/
def letter? : Switch → Option Char
  | verbose => some 'v'
  | help => some 'h'
  | version => some 'V'
  | out => some 'o'
  | _ => none

/-- How the help calls the value of an option that takes one. -/
def valueName? : Switch → Option String
  | target => some "TARGET"
  | componentName => some "NAME"
  | config | out | sessionLog => some "FILE"
  | verbose | help | version | memo => none

/-- Whether the option takes a value. -/
def takesValue (s : Switch) : Bool := s.valueName?.isSome

/-- Whether a value may be given to the option: a target has to be known, and a file needs a
name. -/
def accepts (s : Switch) (value : String) : Bool :=
  match s with
  | target => Target.names.all.any (·.name = value)
  | config | out | sessionLog => value ≠ ""
  | _ => true

/-- What the help says of the option. -/
def purpose : Switch → String
  | verbose => "Debug logging"
  | help => "Print help"
  | version => "Print version"
  | target => "Which emitter output to produce [possible values: "
      ++ ", ".intercalate (Target.names.all.map Target.name) ++ "]"
  | componentName => "Name of the generated component"
  | memo => "Also export a memoized alias"
  | config => "JSON options file"
  | out => "Write the output here instead of stdout"
  | sessionLog => "Save the session log of the run"

end Switch

/-! ### Topics -/

/-- The program or one of its commands. -/
inductive Topic where
  | program
  | generate
  | nodes
  | styles
  | locate
  | help
deriving DecidableEq

namespace Topic

/-- The commands of the program. -/
def commands : List Topic := [generate, nodes, styles, locate, help]

/-- The name that is written for a topic. -/
def name : Topic → String
  | program => "frameforge"
  | generate => "generate"
  | nodes => "ir"
  | styles => "styles"
  | locate => "locate"
  | help => "help"

def ofName? (name : String) : Option Topic := commands.find? (·.name = name)

/-- The options behind the name of a topic. -/
def switches : Topic → List Switch
  | program => [.verbose, .help, .version]
  | generate =>
    [.target, .verbose, .componentName, .memo, .config, .out, .sessionLog, .help]
  | nodes | styles | locate => [.verbose, .help]
  | help => []

def ofLong? (t : Topic) (name : String) : Option Switch := t.switches.find? (·.name = name)

def ofLetter? (t : Topic) (c : Char) : Option Switch := t.switches.find? (·.letter? = some c)

/-- What the help says of the topic. -/
def purpose : Topic → String
  | program => "Turn design documents into React code"
  | generate => "Generate code from a document JSON file"
  | nodes => "Print the intermediate representation as JSON"
  | styles => "Print the CSS map of every visible node"
  | locate => "Show the file id, node id and API path of a document URL"
  | help => "Print this message or the help of the given subcommand(s)"

/-- What the command works on: a name for it and what the help says of it. -/
def operand : Topic → String × String
  | program => ("<COMMAND>", "")
  | generate | nodes | styles => ("<INPUT>", "Document JSON file")
  | locate => ("<URL>", "")
  | help => ("[COMMAND]...", "Print help for the subcommand(s)")

end Topic

end DesignCode.Command
