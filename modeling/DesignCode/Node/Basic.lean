import DesignCode.Layer.Kind
import DesignCode.Node.FlexBox
import DesignCode.Node.Position
import DesignCode.Node.Visual

/-!
# Nodes

A `Node` carries what code generation needs to know of a layer: rounded sizes, its place in the
parent, and records of its layout, look and text.  There is one node for each visible layer, in
trees of the same shape.
-/

namespace DesignCode

open Json

/-- Text and how it is set. -/
structure TextContent where
  characters : String := ""
  fontFamily : Option String := none
  fontSize : Option Float := none
  fontWeight : Option Float := none
  /-- The color of the text itself; without one it takes the color around it. -/
  color : Option String := none
  lineHeight : Option Float := none
  letterSpacing : Option Float := none
  paragraphSpacing : Option Float := none
  textAlign : Option String := none
  textDecoration : Option String := none
  textTransform : Option String := none

namespace TextContent

def record : Record TextContent where
  title := "struct TextInfo"
  blank := {}
  fields :=
    [.needed "characters" .string TextContent.characters fun v t => { t with characters := v },
     .optional "fontFamily" .string TextContent.fontFamily fun v t => { t with fontFamily := v },
     .optional "fontSize" .float TextContent.fontSize fun v t => { t with fontSize := v },
     .optional "fontWeight" .float TextContent.fontWeight fun v t => { t with fontWeight := v },
     .optional "color" .string TextContent.color fun v t => { t with color := v },
     .optional "lineHeight" .float TextContent.lineHeight fun v t => { t with lineHeight := v },
     .optional "letterSpacing" .float TextContent.letterSpacing fun v t =>
       { t with letterSpacing := v },
     .optional "paragraphSpacing" .float TextContent.paragraphSpacing fun v t =>
       { t with paragraphSpacing := v },
     .optional "textAlign" .string TextContent.textAlign fun v t => { t with textAlign := v },
     .optional "textDecoration" .string TextContent.textDecoration fun v t =>
       { t with textDecoration := v },
     .optional "textTransform" .string TextContent.textTransform fun v t =>
       { t with textTransform := v }]

def codec : Codec TextContent := record.codec

end TextContent

/-- What stands for an image that is not shown: its role and its label. -/
structure Placeholder where
  role : String
  label : String

namespace Placeholder

def record : Record Placeholder where
  title := "struct Placeholder"
  blank := ⟨"", ""⟩
  fields :=
    [.needed "role" .string Placeholder.role fun v p => { p with role := v },
     .needed "ariaLabel" .string Placeholder.label fun v p => { p with label := v }]

def codec : Codec Placeholder := record.codec

end Placeholder

/-- What code generation needs to know of a layer. -/
structure Node where
  id : String := ""
  name : String := ""
  kind : Kind := .unknown
  width : Option Float := none
  height : Option Float := none
  /-- The opacity of the node itself, if it is below 1. -/
  opacity : Option Float := none
  position : Option Position := none
  flex : Option FlexBox := none
  visual : Option Visual := none
  effects : Option Effects := none
  text : Option TextContent := none
  placeholder : Option Placeholder := none

namespace Node

/-- Whether the node is placed by an offset. -/
def isAbsolute (n : Node) : Bool := n.position.any Position.isAbsolute

def isText (n : Node) : Bool := n.text.isSome

/-- Whether a child of the root is placed by an offset. -/
def hasAbsoluteChild (t : Tree Node) : Bool := t.children.any (·.value.isAbsolute)

/-- Nodes, whose children are read and written with them. -/
def record : Record Node where
  title := "struct DesignNode"
  blank := {}
  fields :=
    [.needed "id" .string Node.id fun v n => { n with id := v },
     .needed "name" .string Node.name fun v n => { n with name := v },
     .needed "type" Kind.names.codec Node.kind fun v n => { n with kind := v },
     .optional "width" .float Node.width fun v n => { n with width := v },
     .optional "height" .float Node.height fun v n => { n with height := v },
     .optional "opacity" .float Node.opacity fun v n => { n with opacity := v },
     .optional "position" Position.codec Node.position fun v n => { n with position := v },
     .optional "layout" FlexBox.codec Node.flex fun v n => { n with flex := v },
     .optional "visual" Visual.codec Node.visual fun v n => { n with visual := v },
     .optional "effects" Effects.codec Node.effects fun v n => { n with effects := v },
     .optional "text" TextContent.codec Node.text fun v n => { n with text := v },
     .optional "placeholder" Placeholder.codec Node.placeholder fun v n =>
       { n with placeholder := v }]

def treeCodec : Codec (Tree Node) := record.treeCodec

end Node

end DesignCode
