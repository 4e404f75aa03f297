import DesignCode.Code.Call
import DesignCode.Code.Element
import DesignCode.Layer.Document
import DesignCode.Node.OfLayer
import DesignCode.Session.Recorder
import DesignCode.Session.Sample
import DesignCode.Template.Standard

/-!
# Generating code

`expressionCode` and `componentCode` write the code of a tree of nodes; an `Emission` is such code with
the samples of writing it.  A `Generation` is what one run makes of a tree of layers: the nodes, what
was noticed, and the code that the options ask for with its samples.
-/

namespace DesignCode

/-! ### Code of nodes -/

/-- The text of the tree of calls inside the frame of an expression. -/
def expressionTree (o : Options) (t : Tree Node) : List Char :=
  Call.render 4 (Call.ofTree (Styled.ofTree o t))

/-- A function expression that draws the nodes by nested element calls. -/
def expressionCode (o : Options) (t : Tree Node) : String :=
  String.ofList (Template.expression.fill (.object
    [("name", .string o.identifier),
     ("tree", .string (String.ofList (expressionTree o t)))]))

/-- What a writer is told for the markup of a component. -/
def componentCommands (o : Options) (t : Tree Node) : List Writer.Command :=
  Element.commands true (Styled.ofTree o t)

/-- The text of the markup inside the frame of a component. -/
def componentBody (o : Options) (t : Tree Node) : List Char :=
  (({} : Writer).run (componentCommands o t)).text

/-- The rules of the text classes as string literals. -/
def componentRules (o : Options) (t : Tree Node) : List String :=
  (Styled.registry o t).ruleTexts.map fun s => String.ofList (Script.literal s.toList)

/-- The source of a component that draws the nodes by markup. -/
def componentCode (o : Options) (t : Tree Node) : String :=
  String.ofList (Template.component.fill (.object
    [("name", .string o.identifier),
     ("body", .string (String.ofList (componentBody o t))),
     ("memo", .bool o.memo),
     ("text_styles", .strings (componentRules o t))]))

/-- The sample of writing an expression in the given time.  The children of the root stand for the
columns of a page. -/
def expressionSample (elapsedMs : Float) (t : Tree Node) : Sample :=
  let columns := max t.children.length 1
  { operation := "generateReactCode", durationMs := elapsedMs : Sample }
    |>.withMetadata "columns" (.nat columns)
    |>.withMetadata "msPerColumn" (.float (elapsedMs / Float.ofNat columns))

/-- What stands for code if there is nothing to draw. -/
def errorMarker : String := "// Error: Could not parse design document"

/-- Code with the samples of writing it in a given time. -/
structure Emission where
  code : String
  samples : Float → List Sample

namespace Emission

def expression (o : Options) (t : Tree Node) : Emission where
  code := expressionCode o t
  samples elapsedMs := [expressionSample elapsedMs t]

/-- Writing a component is not sampled. -/
def component (o : Options) (t : Tree Node) : Emission where
  code := componentCode o t
  samples _ := []

def marker : Emission where
  code := errorMarker
  samples _ := []

end Emission

/-! ### Runs -/

/-- The version that session logs carry. -/
def version : String := "0.1.0"

/-- What one run makes of a tree of layers. -/
structure Generation where
  root : Option (Tree Node)
  survey : Survey
  expression : Option String
  component : Option String
  /-- The samples of writing the code in a given time. -/
  samples : Float → List Sample

namespace Generation

/-- Makes nodes of the layers, and code of the nodes as far as the options ask for it. -/
def ofLayers (o : Options) (layers : Tree Layer) : Generation :=
  let (root, survey) := DesignCode.survey layers none
  let emit (write : Options → Tree Node → Emission) : Emission := (root.map (write o)).getD .marker
  let expression := if o.target.wantsExpression then some (emit .expression) else none
  let component := if o.target.wantsComponent then some (emit .component) else none
  { root
    survey
    expression := expression.map Emission.code
    component := component.map Emission.code
    samples := fun elapsedMs =>
      (expression.toList ++ component.toList).flatMap (·.samples elapsedMs) }

/-- A run for the tree of a document, if it has one. -/
def ofDocument (o : Options) (d : Document) : Option Generation := d.root?.map (ofLayers o)

/-- The session log of a run that took the given time. -/
def sessionLog (elapsedMs : Float) (g : Generation) : SessionLog where
  nodeCount := g.survey.nodeCount
  durationMs := elapsedMs
  skippedCount := g.survey.skippedCount
  unsupportedCount := g.survey.unsupportedCount
  warnings := g.survey.messages
  version := version

/-- The code that was asked for, expression first, with an empty line between. -/
def output (g : Generation) : String :=
  "\n\n".intercalate (g.expression.toList ++ g.component.toList)

end Generation

/-- The expression for the tree of a document, whatever the target of the options. -/
def documentCode (o : Options) (d : Document) : String :=
  ((d.root?.bind fun layers => (survey layers none).1).map (expressionCode o)).getD errorMarker

/-- The expression for the document of a text. -/
def textCode (o : Options) (s : String) : Except Json.Fault String :=
  (Document.parse s).map (documentCode o)

/-- How messages of code generation speak of a text that is no document. -/
def codeFaultMessage (fault : Json.Fault) : String := "JSON error: " ++ fault.message

end DesignCode
