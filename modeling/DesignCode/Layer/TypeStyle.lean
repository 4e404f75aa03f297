import DesignCode.Json.Record

/-!
# Type styles

How the text of a layer is set.
-/

namespace DesignCode

open Json

/-- The case in which text is shown. -/
inductive TextCase where
  | upper
  | lower
  | title
  | asTyped
deriving DecidableEq, Inhabited

namespace TextCase

/-- The name of a case in documents. -/
def name : TextCase → String
  | upper => "UPPER"
  | lower => "LOWER"
  | title => "TITLE"
  | asTyped => "ORIGINAL"

/-- Cases; any other name leaves the text as it is. -/
def names : Names TextCase := ⟨[upper, lower, title, asTyped], name, some asTyped⟩

end TextCase

/-- How text is set. -/
structure TypeStyle where
  fontFamily : Option String := none
  fontSize : Option Float := none
  fontWeight : Option Float := none
  letterSpacing : Option Float := none
  lineHeightPx : Option Float := none
  paragraphSpacing : Option Float := none
  textAlign : Option String := none
  textDecoration : Option String := none
  textCase : Option TextCase := none

namespace TypeStyle

def record : Record TypeStyle where
  title := "struct TypeStyle"
  blank := {}
  fields :=
    [.optional "fontFamily" .string TypeStyle.fontFamily fun v s => { s with fontFamily := v },
     .optional "fontSize" .float TypeStyle.fontSize fun v s => { s with fontSize := v },
     .optional "fontWeight" .float TypeStyle.fontWeight fun v s => { s with fontWeight := v },
     .optional "letterSpacing" .float TypeStyle.letterSpacing fun v s =>
       { s with letterSpacing := v },
     .optional "lineHeightPx" .float TypeStyle.lineHeightPx fun v s => { s with lineHeightPx := v },
     .optional "paragraphSpacing" .float TypeStyle.paragraphSpacing fun v s =>
       { s with paragraphSpacing := v },
     .optional "textAlignHorizontal" .string TypeStyle.textAlign fun v s =>
       { s with textAlign := v },
     .optional "textDecoration" .string TypeStyle.textDecoration fun v s =>
       { s with textDecoration := v },
     .optional "textCase" TextCase.names.codec TypeStyle.textCase fun v s =>
       { s with textCase := v }]

def codec : Codec TypeStyle := record.codec

end TypeStyle

end DesignCode
