import DesignCode.Command.Topic

/-!
# Arguments of the command line

`Command.ofArguments` reads what a command line asks for.  Options stand before or behind what a
command works on, `--` ends them, and each may come once; `-v` may come once before the name of the
command and once behind it.  Reading goes from left to right, and what comes first decides whether
the line asks for help or is misused.
-/

namespace DesignCode

/-- What a generation is asked for. -/
structure GenerateRequest where
  /-- The file with the document. -/
  input : String
  target : Option Target := none
  componentName : Option String := none
  memo : Bool := false
  /-- A file with options. -/
  config : Option String := none
  /-- The file that the code is written to. -/
  out : Option String := none
  /-- The file that the session log is written to. -/
  sessionLog : Option String := none

/-- What a command line asks for. -/
inductive Command where
  | generate (request : GenerateRequest)
  /-- Prints the nodes of the document in a file. -/
  | nodes (input : String)
  /-- Prints the styles of the layers of the document in a file. -/
  | styles (input : String)
  | locate (url : String)

namespace Command

/-- What ends the reading of a command line before there is a command. -/
inductive Stop where
  | help (topic : Topic)
  | version
  | misuse
deriving DecidableEq

/-! ### Single arguments -/

/-- An argument by its form. -/
inductive Word where
  | plain (text : String)
  | long (name : String) (value : Option String)
  | short (letters : List Char)
  | endOfOptions

/-- The form of an argument.  A single hyphen is a plain text. -/
def Word.ofText (s : String) : Word :=
  match s.toList with
  | ['-', '-'] => .endOfOptions
  | '-' :: '-' :: cs =>
    .long (String.ofList (cs.takeWhile (· ≠ '='))) <|
      match cs.dropWhile (· ≠ '=') with
      | [] => none
      | _ :: value => some (String.ofList value)
  | '-' :: c :: cs => .short (c :: cs)
  | _ => .plain s

/-! ### Options of a topic -/

/-- What the arguments behind the name of a topic have given so far. -/
structure Given where
  topic : Topic
  /-- The options with their values, an empty one if they take none. -/
  switches : List (Switch × String) := []
  operand : Option String := none

namespace Given

def has (g : Given) (s : Switch) : Bool := g.switches.any (·.1 = s)

def value? (g : Given) (s : Switch) : Option String := g.switches.lookup s

/-- Adds an option with its value.  Asking for help or for the version ends the reading. -/
def addSwitch (g : Given) (s : Switch) (value : String) : Except Stop Given :=
  match s with
  | .help => .error (.help g.topic)
  | .version => .error .version
  | s =>
    if g.has s ∨ ¬ s.accepts value then .error .misuse
    else .ok { g with switches := g.switches ++ [(s, value)] }

/-- Adds what the command works on; only a link may be empty. -/
def addOperand (g : Given) (text : String) : Except Stop Given :=
  if g.operand.isSome ∨ (text = "" ∧ g.topic ≠ .locate) then .error .misuse
  else .ok { g with operand := some text }

/-- Adds the options of the letters behind a hyphen.  The rest behind the letter of an option that
takes a value is its value; if nothing is left, the value has to follow. -/
def addLetters (g : Given) : List Char → Except Stop (Given × Option Switch)
  | [] => .ok (g, none)
  | c :: rest =>
    match g.topic.ofLetter? c with
    | none => .error .misuse
    | some s =>
      if s.takesValue then
        match rest with
        | [] => .ok (g, some s)
        | '=' :: value => (g.addSwitch s (String.ofList value)).map (·, none)
        | value => (g.addSwitch s (String.ofList value)).map (·, none)
      else do (← g.addSwitch s "").addLetters rest

/-- Adds the option of a name, with the value behind an equals sign if there is one; otherwise the
value has to follow. -/
def addLong (g : Given) (name : String) (value : Option String) :
    Except Stop (Given × Option Switch) :=
  match g.topic.ofLong? name with
  | none => .error .misuse
  | some s =>
    match s.takesValue, value with
    | true, some value => (g.addSwitch s value).map (·, none)
    | true, none => .ok (g, some s)
    | false, none => (g.addSwitch s "").map (·, none)
    | false, some _ => .error .misuse

/-- Adds the arguments behind the name of a command.  `awaited` is an option whose value comes
next. -/
def addAll (g : Given) (awaited : Option Switch) : List String → Except Stop Given
  | [] => if awaited.isSome then .error .misuse else .ok g
  | arg :: rest =>
    match awaited, Word.ofText arg with
    | some s, .plain value => do (← g.addSwitch s value).addAll none rest
    | some _, _ => .error .misuse
    | none, .plain text => do (← g.addOperand text).addAll none rest
    | none, .long name value => do
      let (g, awaited) ← g.addLong name value
      g.addAll awaited rest
    | none, .short letters => do
      let (g, awaited) ← g.addLetters letters
      g.addAll awaited rest
    | none, .endOfOptions => rest.foldlM addOperand g

/-- The command that was given, if it has all that it needs. -/
def command (g : Given) : Except Stop Command :=
  match g.topic, g.operand with
  | .generate, some input => .ok <| .generate
    { input := input
      target := (g.value? .target).bind fun name => Target.names.all.find? (·.name = name)
      componentName := g.value? .componentName
      memo := g.has .memo
      config := g.value? .config
      out := g.value? .out
      sessionLog := g.value? .sessionLog }
  | .nodes, some input => .ok (.nodes input)
  | .styles, some input => .ok (.styles input)
  | .locate, some url => .ok (.locate url)
  | _, _ => .error .misuse

end Given

/-! ### The whole line -/

/-- The topic that help is wanted on, by the names of commands. -/
def helpTopic : List String → Stop
  | [] => .help .program
  | [name] => ((Topic.ofName? name).map .help).getD .misuse
  | _ => .misuse

/-- Reads a command line, of which some options of the program have been read. -/
def ofArgumentsFrom (g : Given) : List String → Except Stop Command
  | [] => .error .misuse
  | arg :: rest =>
    match Word.ofText arg with
    | .plain name =>
      match Topic.ofName? name with
      | none => .error .misuse
      | some .help => .error (helpTopic rest)
      | some topic => do (← ({ topic : Given }).addAll none rest).command
    | .long name value => do ofArgumentsFrom (← g.addLong name value).1 rest
    | .short letters => do ofArgumentsFrom (← g.addLetters letters).1 rest
    | .endOfOptions => .error .misuse

def ofArguments (args : List String) : Except Stop Command :=
  ofArgumentsFrom { topic := .program } args

end Command

end DesignCode
