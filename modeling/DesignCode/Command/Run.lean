import DesignCode.Code.Generation
import DesignCode.Command.Arguments
import DesignCode.Command.Failure
import DesignCode.Command.Help
import DesignCode.Layer.Styles
import DesignCode.Link.Locator

/-!
# Running commands

`Command.run` does what a command asks for.  What it needs of the machine that it runs on is a
`Machine`: files, a place to print to and a clock.
-/

namespace DesignCode

open Json

/-- The visible layers of a tree, each before those below it. -/
def visibleLayers (t : Tree Layer) : List Layer :=
  t.fold fun l below => if l.isHidden then [] else l :: below.flatten

/-- The names and the styles of the visible layers of a tree. -/
def styleReport (t : Tree Layer) : Json :=
  .array ((visibleLayers t).map fun l =>
    .object [("id", .string l.id), ("name", .string l.name),
      ("styles", StyleMap.codec.write l.styles)])

/-- What is shown of a locator. -/
def Locator.report (l : Locator) : String :=
  "file id:  " ++ l.fileId ++ "\nnode id:  " ++ l.nodeId.getD "-" ++ "\napi path: " ++ l.apiPath

/-- The options that a request asks for, where a file has said some. -/
def GenerateRequest.override (r : GenerateRequest) (o : Options) : Options :=
  { o with
    target := r.target.getD o.target
    componentName := r.componentName.getD o.componentName
    memo := r.memo || o.memo }

namespace Command

/-- What commands need of the machine that they run on.  A file that cannot be read or written
gives the cause. -/
structure Machine (m : Type → Type) where
  read (path : String) : m (Except String String)
  write (path : String) (text : String) : m (Except String Unit)
  /-- Prints a line. -/
  print (line : String) : m Unit
  /-- The milliseconds since some fixed time. -/
  clock : m Float

section

variable {m : Type → Type} [Monad m] (machine : Machine m)

/-! ### Files -/

/-- Reads a file; `role` says what it is read for. -/
def readFile (role : String) (path : String) : ExceptT Failure m String := do
  match ← machine.read path with
  | .ok text => return text
  | .error cause => throw ⟨"failed to read " ++ role ++ " " ++ path, [cause]⟩

/-- Reads the document in a file. -/
def readDocument (path : String) : ExceptT Failure m Document := do
  match Document.parse (← readFile machine "document" path) with
  | .ok document => return document
  | .error fault =>
    throw ⟨path ++ " is not a valid document response",
      [Document.faultMessage fault, fault.message]⟩

/-- Reads the tree of layers of the document in a file. -/
def readLayers (path : String) : ExceptT Failure m (Tree Layer) := do
  match (← readDocument machine path).root? with
  | some layers => return layers
  | none => throw ⟨path ++ " holds no root node", []⟩

/-- Reads the options of a request. -/
def readOptions (r : GenerateRequest) : ExceptT Failure m Options := do
  match r.config with
  | none => return r.override {}
  | some path =>
    match Options.codec.parse (← readFile machine "config" path) with
    | .ok options => return r.override options
    | .error fault => throw ⟨"invalid options in " ++ path, [fault.message]⟩

/-- Writes the code of a request to its file, or prints it. -/
def writeCode (r : GenerateRequest) (code : String) : ExceptT Failure m Unit := do
  match r.out with
  | none => machine.print code
  | some path =>
    match ← machine.write path code with
    | .ok () => return
    | .error cause => throw ⟨"failed to write " ++ path, [cause]⟩

/-- Saves the log of a session, if the request asks for it. -/
def saveLog (r : GenerateRequest) (recorder : Recorder) : ExceptT Failure m Unit := do
  match r.sessionLog with
  | none => return
  | some path =>
    match ← machine.write path recorder.exportText.1 with
    | .ok () => return
    | .error cause =>
      throw ⟨"failed to save session log " ++ path,
        ["Session log I/O failed for " ++ path ++ ": " ++ cause, cause]⟩

/-! ### Commands -/

/-- What a session records of a run, or of a document without a root. -/
def sessionOf (elapsedMs : Float) : Option Generation → Recorder
  | some g => Recorder.empty.record (g.sessionLog elapsedMs)
  | none => Recorder.empty.push "document response holds no root node"

/-- Writes the code of a document, and the log of the session. -/
def runGenerate (r : GenerateRequest) : ExceptT Failure m Unit := do
  let document ← readDocument machine r.input
  let options ← readOptions machine r
  let start ← machine.clock
  let generation := Generation.ofDocument options document
  let code := (generation.map Generation.output).getD errorMarker
  writeCode machine r code
  let finish ← machine.clock
  saveLog machine r (sessionOf (finish - start) generation)

/-- Does what a command asks for. -/
def run : Command → ExceptT Failure m Unit
  | .generate r => runGenerate machine r
  | .nodes input => do
    let (root, _) := survey (← readLayers machine input) none
    machine.print (String.ofList ((ofOption Node.treeCodec.write root).pretty 0))
  | .styles input => do
    let layers ← readLayers machine input
    machine.print (String.ofList ((styleReport layers).pretty 0))
  | .locate url =>
    match Locator.parse url with
    | .ok l => machine.print l.report
    | .error fault => throw ⟨"cannot locate " ++ url, [fault.message]⟩

end

/-! ### Command lines -/

/-- How the run of a command line ended. -/
inductive Ending where
  | done
  | failed (failure : Failure)
  /-- The command line was not understood. -/
  | misused
deriving DecidableEq

/-- The code that the program exits with. -/
def Ending.code : Ending → UInt32
  | done => 0
  | failed _ => 1
  | misused => 2

/-- What is said of the ending where errors are shown. -/
def Ending.text : Ending → String
  | done => ""
  | failed f => f.text
  | misused => Topic.program.usage ++ "\n"

/-- The line that tells the version of the program. -/
def versionLine : String := Topic.program.name ++ " " ++ version

def runLine {m : Type → Type} [Monad m] (machine : Machine m) (args : List String) : m Ending := do
  match ofArguments args with
  | .error .misuse => return .misused
  | .error .version => machine.print versionLine; return .done
  | .error (.help topic) =>
    machine.print (String.ofList (topic.helpText.toList.dropLast)); return .done
  | .ok command =>
    match ← (run machine command).run with
    | .ok () => return .done
    | .error failure => return .failed failure

end Command

end DesignCode
