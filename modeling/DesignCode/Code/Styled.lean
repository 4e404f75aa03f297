import DesignCode.Code.Token
import DesignCode.Code.Icon

/-!
# Nodes with their styles

A `Styled` node carries all that generated code says about a node: its style, its class and its icon.
Both kinds of code are made from the same tree of styled nodes.
-/

namespace DesignCode

/-- A node with its style, its class and its icon. -/
structure Styled where
  node : Node
  style : StyleMap
  token : Option String := none
  icon : Option Icon := none

namespace Styled

/-- The icon of a node that is shown as one. -/
def iconOf (o : Options) (n : Node) : Option Icon :=
  let source := IconSource.ofNode n
  if o.icons ∧ source.isIcon then some (.ofSource source) else none

/-- The classes that the options ask for. -/
def registry (o : Options) (t : Tree Node) : TokenRegistry :=
  if o.textTokens then .ofTree o.palette t else .empty

/-- The root of a tree with its style. -/
def ofNode (o : Options) (tokens : TokenRegistry) (i : Inherited) (t : Tree Node) : Styled where
  node := t.value
  style := Node.style o.palette i t
  token := (t.value.signature? o.palette i).bind tokens.get?
  icon := iconOf o t.value

/-- A tree of nodes with their styles. -/
def ofTree (o : Options) (t : Tree Node) : Tree Styled :=
  t.inherit (ofNode o (registry o t)) Inherited.below {}

end Styled

end DesignCode
