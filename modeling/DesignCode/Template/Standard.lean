import DesignCode.Template.Basic

/-!
# The frames of generated code

`Template.expression` puts a tree of element calls into a function expression, `Template.component`
puts markup into the source of a component.
-/

namespace DesignCode.Template

/-- A function expression that returns a component drawing `tree`. -/
def expression : Template Empty :=
  [.text "(function(createElement) \x7b\n  function ",
   .value ["name"],
   .text "() \x7b\n    return ",
   .value ["tree"],
   .text ";\n  \x7d\n  return ",
   .value ["name"],
   .text ";\n\x7d)"]

/-- The source of a component that draws `body`, with its memoized alias and its text styles. -/
def component : Template Empty :=
  [.text "import React from 'react';\n\nexport interface ",
   .value ["name"],
   .text "Props \x7b\n  className?: string;\n\x7d\n\nexport const ",
   .value ["name"],
   .text ": React.FC<",
   .value ["name"],
   .text "Props> = (\x7b className \x7d) => \x7b\n  return (\n",
   .indent [.path ["body"], .literal (.int 4)],
   .text "\n  );\n\x7d;\n",
   .when (.path ["memo"])
     [.text "export const ",
      .value ["name"],
      .text "Memo = React.memo(",
      .value ["name"],
      .text ");\n"] [],
   .when (.path ["text_styles"])
     [.text "export const ",
      .value ["name"],
      .text "TextStyles = [\n",
      .each (.path ["text_styles"]) [.text "  ", .value [], .text ",\n"] [],
      .text "].join('\\n');\n"] [],
   .text "export default ",
   .value ["name"],
   .text ";\n"]

end DesignCode.Template
