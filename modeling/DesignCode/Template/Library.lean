import DesignCode.Template.Parser
import DesignCode.Template.Standard

/-!
# Libraries of templates

A `Template.Library` holds templates under names.  The frames of generated code are in every library
from the start and may be replaced.
-/

namespace DesignCode.Template

/-- Templates under names. -/
abbrev Library := OrderedMap (Template Fault)

namespace Library

/-- The frames of generated code. -/
def standard : Library :=
  .ofList [("expression", lift expression), ("component", lift component)]

/-- Adds a template that is given as text. -/
def register (lib : Library) (name text : String) : Except Fault Library :=
  (parse text).map (lib.insert name)

/-- Fills the template with a name. -/
def render (lib : Library) (name : String) (data : Json) : Except Fault String :=
  match lib.get? name with
  | some t => (Template.render data t).map String.ofList
  | none => .error (.unknownTemplate name)

end Library

/-- Fills a template that is given as text. -/
def renderText (text : String) (data : Json) : Except Fault String := do
  return String.ofList (← render data (← parse text))

end DesignCode.Template
