import DesignCode.Layer.Placeholder
import DesignCode.Layer.Styles
import DesignCode.Node.Diagnostic

/-!
# From layers to nodes

`Node.ofLayer` gathers the facts of one layer; `survey` walks a tree of layers, makes a node of each
visible one and counts what it meets.
-/

namespace DesignCode

/-! ### Records of one layer -/

namespace Layer

def visual (l : Layer) : Visual where
  background := l.background
  border := l.border
  radius := l.corners.map (·.radii)

/-- Shadows and blurs, if there are any; of several blurs the last one counts. -/
def effectsRecord (l : Layer) : Option Effects :=
  let s := l.shading
  if s.isEmpty then none
  else some
    { shadows := s.shadows
      blur := s.layerBlurs.getLast?
      backdropBlur := s.backgroundBlurs.getLast? }

/-- The text of a text layer that has characters.  Without a type style it still has a color. -/
def textContent (l : Layer) : Option TextContent :=
  if l.kind.isText then
    (l.characters.filter (· ≠ "")).map fun characters =>
      let t := l.typography.getD {}
      { characters
        fontFamily := t.fontFamily
        fontSize := t.fontSize
        fontWeight := t.fontWeight
        color := t.color <|> l.textColor
        lineHeight := t.lineHeight
        letterSpacing := t.letterSpacing
        paragraphSpacing := t.paragraphSpacing
        textAlign := t.textAlign
        textDecoration := t.textDecoration
        textTransform := t.textTransform }
  else none

/-! ### Positions -/

/-- Where a layer stands in its parent, and what is missing to say so.  A layer without a box has no
position; a parent without a box counts as standing at the origin. -/
def place (l : Layer) (parent : Option Layer) : Option Position × Option Diagnostic :=
  match l.box, parent with
  | none, _ => (none, some (.missingBox l.id l.name l.kind))
  | some _, none => (some .root, none)
  | some b, some p =>
    if p.isAutoLayout then (some .flexItem, none)
    else match p.box with
      | some pb => (some (.absolute (b.origin - pb.origin)), none)
      | none =>
        (some (.absolute (b.origin - Point.zero)),
          some (.missingParentBox l.id l.name p.id p.name))

end Layer

def Node.ofLayer (l : Layer) (parent : Option Layer) : Node where
  id := l.id
  name := l.name
  kind := l.kind
  width := l.size.map (·.1)
  height := l.size.map (·.2)
  opacity := l.ownOpacity
  position := (l.place parent).1
  flex := l.flexBox
  visual := some l.visual
  effects := l.effectsRecord
  text := l.textContent
  placeholder := l.placeholder

/-! ### Whole trees -/

/-- What is counted on a walk over a tree of layers. -/
structure Survey where
  diagnostics : List Diagnostic := []
  nodeCount : Nat := 0
  /-- Hidden layers that were met; what is below them is not looked at. -/
  skippedCount : Nat := 0
  unsupportedCount : Nat := 0
  maxDepth : Nat := 0

namespace Survey

/-- Counts a hidden layer. -/
def skip (s : Survey) : Survey := { s with skippedCount := s.skippedCount + 1 }

/-- What is noticed about a visible layer. -/
def findings (l : Layer) (parent : Option Layer) : List Diagnostic :=
  (if l.kind.isUnknown then [.unsupportedKind l.id l.name] else []) ++ (l.place parent).2.toList

/-- Counts a visible layer at a depth. -/
def note (s : Survey) (l : Layer) (parent : Option Layer) (depth : Nat) : Survey where
  diagnostics := s.diagnostics ++ findings l parent
  nodeCount := s.nodeCount + 1
  skippedCount := s.skippedCount
  unsupportedCount := s.unsupportedCount + if l.kind.isUnknown then 1 else 0
  maxDepth := max s.maxDepth depth

/-- The wording of what was noticed. -/
def messages (s : Survey) : List String := s.diagnostics.map Diagnostic.message

end Survey

mutual

/-- Makes nodes of the visible layers of a tree that stands at a depth in its parent, and adds to a
survey what is met. -/
def surveyFrom (parent : Option Layer) (depth : Nat) (s : Survey) :
    Tree Layer → Option (Tree Node) × Survey
  | .node l cs =>
    if l.isHidden then (none, s.skip)
    else
      let (nodes, s) := surveyAll l (depth + 1) (s.note l parent depth) cs
      (some (.node (Node.ofLayer l parent) nodes), s)

/-- `surveyFrom` for the children of a layer, one after the other. -/
def surveyAll (parent : Layer) (depth : Nat) (s : Survey) :
    List (Tree Layer) → List (Tree Node) × Survey
  | [] => ([], s)
  | t :: ts =>
    let (node, s) := surveyFrom (some parent) depth s t
    let (nodes, s) := surveyAll parent depth s ts
    (node.toList ++ nodes, s)

end

/-- The nodes of the visible layers of a tree, with a survey of the walk.  There is no node if the
root is hidden. -/
def survey (t : Tree Layer) (parent : Option Layer) : Option (Tree Node) × Survey :=
  surveyFrom parent 1 {} t

end DesignCode
