import DesignCode.OrderedMap

/-!
# JSON values

A `Json` value is what a JSON text denotes.  Numbers are whole numbers or doubles; the members of an
object are listed as they are to be written.
-/

namespace DesignCode

/-- A JSON value. -/
inductive Json where
  | null
  | bool (b : Bool)
  | int (n : Int)
  | float (x : Float)
  | string (s : String)
  | array (items : List Json)
  | object (members : List (String × Json))

namespace Json

instance : Inhabited Json := ⟨null⟩

def nat (n : Nat) : Json := int n

/-- The value, or null if there is none. -/
def ofOption {α : Type} (f : α → Json) : Option α → Json
  | none => null
  | some a => f a

def strings (ss : List String) : Json := array (ss.map string)

def member? (key : String) : Json → Option Json
  | object ms => ms.lookup key
  | _ => none

mutual

/-- The same value with the members of all objects in the order of their keys. -/
def sortKeys : Json → Json
  | array items => array (sortItems items)
  | object members => object ((sortMembers members).foldr OrderedMap.place [])
  | j => j

/-- `sortKeys` for the items of an array. -/
def sortItems : List Json → List Json
  | [] => []
  | j :: rest => sortKeys j :: sortItems rest

/-- `sortKeys` for the values of the members of an object. -/
def sortMembers : List (String × Json) → List (String × Json)
  | [] => []
  | (k, j) :: rest => (k, sortKeys j) :: sortMembers rest

end

end Json

end DesignCode
