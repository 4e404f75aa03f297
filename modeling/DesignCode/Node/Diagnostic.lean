import DesignCode.Layer.Kind

/-!
# What is noticed while nodes are built

A `Diagnostic` says what a document lacks without keeping code from being generated.
-/

namespace DesignCode

/-- Something noticed about a layer. -/
inductive Diagnostic where
  | missingBox (id name : String) (kind : Kind)
  | missingParentBox (id name parentId parentName : String)
  | unsupportedKind (id name : String)
deriving DecidableEq

namespace Diagnostic

/-- The layer that the diagnostic is about. -/
def id : Diagnostic → String
  | missingBox id _ _ => id
  | missingParentBox id _ _ _ => id
  | unsupportedKind id _ => id

def message : Diagnostic → String
  | missingBox id name kind =>
    "node " ++ id ++ " (" ++ name ++ ", " ++ kind.name ++
      ") has no bounding box; position omitted"
  | missingParentBox id name parentId parentName =>
    "parent " ++ parentId ++ " (" ++ parentName ++ ") of absolute node " ++ id ++ " (" ++ name ++
      ") has no bounding box; using origin (0, 0)"
  | unsupportedKind id name => "node " ++ id ++ " (" ++ name ++ ") has an unsupported type"

end Diagnostic

end DesignCode
