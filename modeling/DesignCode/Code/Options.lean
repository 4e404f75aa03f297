import DesignCode.Json.Record
import DesignCode.Text.Words

/-!
# What code is to be generated

`Options` say which code is wanted and under which name; a `Palette` has the colors of texts that
have none.
-/

namespace DesignCode

open Json

/-! ### Palettes -/

/-- The colors of a brand. -/
structure Palette where
  /-- Brand colors; the first one is for text. -/
  brand : List String := []
  neutral : String := "#000000"
  placeholder : String := "#999999"

namespace Palette

/-- The color of a text that has none and is in none: the first color with a name. -/
def textColor (p : Palette) : String :=
  ((p.brand ++ [p.neutral, p.placeholder]).find? (· ≠ "")).getD "#999999"

def record : Record Palette where
  title := "struct BrandPalette"
  blank := {}
  fields :=
    [.defaulted "brand" (.list .string) Palette.brand fun v p => { p with brand := v },
     .defaulted "neutral" .string Palette.neutral fun v p => { p with neutral := v },
     .defaulted "placeholder" .string Palette.placeholder fun v p => { p with placeholder := v }]

def codec : Codec Palette := record.codec

end Palette

/-! ### Targets -/

/-- Which code is wanted. -/
inductive Target where
  /-- An expression of nested element calls, for a preview. -/
  | expression
  /-- The source of a component. -/
  | component
  | both
deriving DecidableEq, Inhabited

namespace Target

def name : Target → String
  | expression => "expression"
  | component => "component"
  | both => "both"

def names : Names Target := { all := [expression, component, both], name := name }

def wantsExpression (t : Target) : Bool := t = expression ∨ t = both

def wantsComponent (t : Target) : Bool := t = component ∨ t = both

end Target

/-! ### Options -/

/-- The name of a component without one. -/
def defaultName : String := "FigmaComponent"

/-- What code is to be generated. -/
structure Options where
  componentName : String := defaultName
  /-- Whether to export a memoized alias too. -/
  memo : Bool := false
  /-- Whether texts that look the same share a class. -/
  textTokens : Bool := true
  /-- Whether shapes are shown as icons. -/
  icons : Bool := true
  target : Target := .expression
  palette : Palette := {}

namespace Options

def record : Record Options where
  title := "struct CodegenOptions"
  blank := {}
  fields :=
    [.defaulted "componentName" .string Options.componentName fun v o =>
       { o with componentName := v },
     .defaulted "memo" .bool Options.memo fun v o => { o with memo := v },
     .defaulted "textTokens" .bool Options.textTokens fun v o => { o with textTokens := v },
     .defaulted "icons" .bool Options.icons fun v o => { o with icons := v },
     .defaulted "target" Target.names.codec Options.target fun v o => { o with target := v },
     .defaulted "palette" Palette.codec Options.palette fun v o => { o with palette := v }]

def codec : Codec Options := record.codec

/-- Whether a character may stand in the name of a component. -/
def isNameChar (c : Char) : Bool := c.isAlphanum ∨ c = '_'

/-- The name of the component as an identifier: its words with capitals, without the characters that
cannot stand in one. -/
def identifier (o : Options) : String :=
  match (Text.pascal o.componentName.toList).filter isNameChar with
  | [] => defaultName
  | c :: rest =>
    if c.isDigit then "Figma" ++ String.ofList (c :: rest) else String.ofList (c :: rest)

end Options

end DesignCode
