import DesignCode.Quad
import DesignCode.Layer.Kind
import DesignCode.Layer.Paint
import DesignCode.Layer.Effect
import DesignCode.Layer.TypeStyle

/-!
# Layers

A `Layer` is one node of a design document as the document has it.  A document is a tree of layers.
Most fields may be missing, and a missing list is not the same as an empty one.
-/

namespace DesignCode

open Json

/-! ### How a layer arranges what is in it -/

/-- The direction in which a layer arranges its children, if it does. -/
inductive LayoutMode where
  | horizontal
  | vertical
  | free
deriving DecidableEq, Inhabited

namespace LayoutMode

/-- The name of a mode in documents. -/
def name : LayoutMode → String
  | horizontal => "HORIZONTAL"
  | vertical => "VERTICAL"
  | free => "NONE"

/-- Modes; any other name leaves the children where they are. -/
def names : Names LayoutMode := ⟨[horizontal, vertical, free], name, some free⟩

end LayoutMode

/-- Where children stand along the direction of the layout. -/
inductive PrimaryAlign where
  | min
  | max
  | spaceBetween
  | center
deriving DecidableEq, Inhabited

namespace PrimaryAlign

/-- The name of an alignment in documents. -/
def name : PrimaryAlign → String
  | min => "MIN"
  | max => "MAX"
  | spaceBetween => "SPACE_BETWEEN"
  | center => "CENTER"

/-- Alignments; any other name centers. -/
def names : Names PrimaryAlign := ⟨[min, max, spaceBetween, center], name, some center⟩

end PrimaryAlign

/-- Where children stand across the direction of the layout. -/
inductive CounterAlign where
  | min
  | max
  | baseline
  | center
deriving DecidableEq, Inhabited

namespace CounterAlign

/-- The name of an alignment in documents. -/
def name : CounterAlign → String
  | min => "MIN"
  | max => "MAX"
  | baseline => "BASELINE"
  | center => "CENTER"

/-- Alignments; any other name centers. -/
def names : Names CounterAlign := ⟨[min, max, baseline, center], name, some center⟩

end CounterAlign

/-! ### Layers -/

/-- A node of a design document, apart from its children. -/
structure Layer where
  id : String := ""
  name : String := ""
  kind : Kind := .unknown
  visible : Option Bool := none
  opacity : Option Float := none
  box : Option Rect := none
  clipsContent : Option Bool := none
  layoutMode : Option LayoutMode := none
  itemSpacing : Option Float := none
  paddingTop : Option Float := none
  paddingRight : Option Float := none
  paddingBottom : Option Float := none
  paddingLeft : Option Float := none
  primaryAlign : Option PrimaryAlign := none
  counterAlign : Option CounterAlign := none
  /-- Paints from the first to the last; if there is no list, the background color stands in. -/
  fills : Option (List Paint) := none
  backgroundColor : Option Color := none
  strokes : Option (List Paint) := none
  strokeWeight : Option Float := none
  cornerRadius : Option Float := none
  cornerRadii : Option (Quad Float) := none
  effects : Option (List Effect) := none
  characters : Option String := none
  style : Option TypeStyle := none

namespace Layer

/-- A layer is hidden only if it says so. -/
def isHidden (l : Layer) : Bool := l.visible = some false

/-- Whether the layer arranges its children. -/
def isAutoLayout (l : Layer) : Bool :=
  l.layoutMode = some .horizontal ∨ l.layoutMode = some .vertical

/-- The first fill that is visible. -/
def firstVisibleFill (l : Layer) : Option Paint := l.fills.bind (·.find? Paint.isVisible)

/-- Whether a fill shows an image, visible or not. -/
def hasImageFill (l : Layer) : Bool := (l.fills.getD []).any (·.kind = .image)

def hasCharacters (l : Layer) : Bool := l.characters.any (· ≠ "")

/-- Layers, whose children are read and written with them. -/
def record : Record Layer where
  title := "struct RawNode"
  blank := {}
  fields :=
    [.defaulted "id" .string Layer.id fun v l => { l with id := v },
     .defaulted "name" .string Layer.name fun v l => { l with name := v },
     .defaulted "type" Kind.names.codec Layer.kind fun v l => { l with kind := v },
     .optional "visible" .bool Layer.visible fun v l => { l with visible := v },
     .optional "opacity" .float Layer.opacity fun v l => { l with opacity := v },
     .optional "absoluteBoundingBox" Rect.codec Layer.box fun v l => { l with box := v },
     .optional "clipsContent" .bool Layer.clipsContent fun v l => { l with clipsContent := v },
     .optional "layoutMode" LayoutMode.names.codec Layer.layoutMode fun v l =>
       { l with layoutMode := v },
     .optional "itemSpacing" .float Layer.itemSpacing fun v l => { l with itemSpacing := v },
     .optional "paddingTop" .float Layer.paddingTop fun v l => { l with paddingTop := v },
     .optional "paddingRight" .float Layer.paddingRight fun v l => { l with paddingRight := v },
     .optional "paddingBottom" .float Layer.paddingBottom fun v l => { l with paddingBottom := v },
     .optional "paddingLeft" .float Layer.paddingLeft fun v l => { l with paddingLeft := v },
     .optional "primaryAxisAlignItems" PrimaryAlign.names.codec Layer.primaryAlign fun v l =>
       { l with primaryAlign := v },
     .optional "counterAxisAlignItems" CounterAlign.names.codec Layer.counterAlign fun v l =>
       { l with counterAlign := v },
     .optional "fills" Paint.codec.list Layer.fills fun v l => { l with fills := v },
     .optional "backgroundColor" Color.codec Layer.backgroundColor fun v l =>
       { l with backgroundColor := v },
     .optional "strokes" Paint.codec.list Layer.strokes fun v l => { l with strokes := v },
     .optional "strokeWeight" .float Layer.strokeWeight fun v l => { l with strokeWeight := v },
     .optional "cornerRadius" .float Layer.cornerRadius fun v l => { l with cornerRadius := v },
     .optional "rectangleCornerRadii" (Quad.codec .float) Layer.cornerRadii fun v l =>
       { l with cornerRadii := v },
     .optional "effects" Effect.codec.list Layer.effects fun v l => { l with effects := v },
     .optional "characters" .string Layer.characters fun v l => { l with characters := v },
     .optional "style" TypeStyle.codec Layer.style fun v l => { l with style := v }]

def treeCodec : Codec (Tree Layer) := record.treeCodec

end Layer

end DesignCode
