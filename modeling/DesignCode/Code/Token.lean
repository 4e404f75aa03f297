import DesignCode.Code.Style

/-!
# Classes that texts share

Texts with the same look share a class.  Looks are told apart by their signatures; a `TokenRegistry`
numbers the signatures in the order in which they come and keeps the rule that each class stands
for.
-/

namespace DesignCode

namespace TextContent

/-- What tells the look of a text in a color from other looks. -/
def signature (t : TextContent) (color : String) : String :=
  let number (v : Option Float) : String := (v.map Css.number).getD ""
  "|".intercalate
    [t.fontFamily.getD "", number t.fontWeight, number t.fontSize, number t.lineHeight,
     number t.letterSpacing, color, number t.paragraphSpacing]

/-- The declarations of the class of a text in a color, in the order of the property names. -/
def declarations (t : TextContent) (color : String) : StyleMap :=
  (OrderedMap.ofList (t.fontStyle color ++ StyleMap.given
    [("margin-bottom", (t.paragraphSpacing.filter (0 < ·)).map Css.px)])).sortKeys

end TextContent

/-- The signature of a text node. -/
def Node.signature? (p : Palette) (i : Inherited) (n : Node) : Option String :=
  n.text.map fun t => t.signature (i.textColor p t)

/-- Classes of signatures, and the declarations of classes that come from texts. -/
structure TokenRegistry where
  tokens : OrderedMap String := .empty
  rules : OrderedMap StyleMap := .empty

namespace TokenRegistry

def empty : TokenRegistry := {}

/-- The class that the next new signature gets. -/
def next (r : TokenRegistry) : String :=
  "ts-" ++ String.ofList (Decimal.digitChars (r.tokens.size + 1))

def get? (r : TokenRegistry) (signature : String) : Option String := r.tokens.get? signature

/-- Gives a class to a signature that has none. -/
def register (r : TokenRegistry) (signature : String) : String × TokenRegistry :=
  match r.get? signature with
  | some token => (token, r)
  | none => (r.next, { r with tokens := r.tokens.insert signature r.next })

/-- Gives a class with its declarations to the look of a text that has none. -/
def registerText (r : TokenRegistry) (t : TextContent) (color : String) : String × TokenRegistry :=
  match r.get? (t.signature color) with
  | some token => (token, r)
  | none =>
    (r.next,
      { tokens := r.tokens.insert (t.signature color) r.next
        rules := r.rules.insert r.next (t.declarations color) })

/-- Gives a class to a node, if it is a text. -/
def registerNode (p : Palette) (r : TokenRegistry) (n : Inherited × Node) : TokenRegistry :=
  match n.2.text with
  | some t => (r.registerText t (n.1.textColor p t)).2
  | none => r

/-- The classes of all texts of a tree, numbered in preorder. -/
def ofTree (p : Palette) (t : Tree Node) : TokenRegistry :=
  (t.inherit (fun i s => (i, s.value)) Inherited.below {}).preorder.foldl (registerNode p) empty

/-- Classes with their signatures, in the order in which they were given. -/
def entries (r : TokenRegistry) : List (String × String) :=
  r.tokens.entries.map fun e => (e.2, e.1)

/-- A declaration as it stands in a rule. -/
def declaration (e : String × StyleValue) : String := e.1 ++ ": " ++ e.2.display ++ ";"

def rule (e : String × StyleMap) : String :=
  "." ++ e.1 ++ " \x7b " ++ " ".intercalate (e.2.entries.map declaration) ++ " \x7d"

/-- The rules of the classes that come from texts. -/
def ruleTexts (r : TokenRegistry) : List String := r.rules.entries.map rule

def stylesheet (r : TokenRegistry) : String := "\n".intercalate r.ruleTexts

end TokenRegistry

end DesignCode
