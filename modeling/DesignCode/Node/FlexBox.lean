import DesignCode.Quad

/-!
# Flex boxes

How a node arranges its children in a row or a column.
-/

namespace DesignCode

open Json

/-- The direction of a flex box. -/
inductive FlexDirection where
  | row
  | column
deriving DecidableEq, Inhabited

namespace FlexDirection

/-- The CSS name of a direction. -/
def css : FlexDirection → String
  | row => "row"
  | column => "column"

def names : Names FlexDirection := { all := [row, column], name := css }

end FlexDirection

/-- Where children stand along the direction. -/
inductive MainAlign where
  | start
  | center
  | stop
  | spaceBetween
deriving DecidableEq, Inhabited

namespace MainAlign

def css : MainAlign → String
  | start => "flex-start"
  | center => "center"
  | stop => "flex-end"
  | spaceBetween => "space-between"

def names : Names MainAlign := { all := [start, center, stop, spaceBetween], name := css }

end MainAlign

/-- Where children stand across the direction. -/
inductive CrossAlign where
  | start
  | center
  | stop
  | baseline
deriving DecidableEq, Inhabited

namespace CrossAlign

def css : CrossAlign → String
  | start => "flex-start"
  | center => "center"
  | stop => "flex-end"
  | baseline => "baseline"

def names : Names CrossAlign := { all := [start, center, stop, baseline], name := css }

end CrossAlign

/-- How children are arranged. -/
structure FlexBox where
  direction : FlexDirection
  gap : Option Float := none
  padding : Option (Quad Float) := none
  justify : Option MainAlign := none
  align : Option CrossAlign := none

namespace FlexBox

def record : Record FlexBox where
  title := "struct Layout"
  blank := { direction := .row }
  fields :=
    [.needed "direction" FlexDirection.names.codec FlexBox.direction fun v b =>
       { b with direction := v },
     .optional "gap" .float FlexBox.gap fun v b => { b with gap := v },
     .optional "padding" (Quad.codec .float) FlexBox.padding fun v b => { b with padding := v },
     .optional "justify" MainAlign.names.codec FlexBox.justify fun v b => { b with justify := v },
     .optional "align" CrossAlign.names.codec FlexBox.align fun v b => { b with align := v }]

def codec : Codec FlexBox := record.codec

end FlexBox

end DesignCode
