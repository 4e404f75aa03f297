import DesignCode.Layer.Color

/-!
# Positions

Where a node stands in its parent.  A position is written as an object with its name under `type`;
the name may stand anywhere among the members, so the other members are read as they come and are
looked at when the whole object has been read.
-/

namespace DesignCode

open Json

/-- Where a node stands. -/
inductive Position where
  /-- The node has no parent. -/
  | root
  /-- The parent arranges its children. -/
  | flexItem
  /-- At an offset from the corner of the parent. -/
  | absolute (offset : Point)

namespace Position

/-- The kinds of position. -/
inductive Tag where
  | root
  | flexItem
  | absolute
deriving DecidableEq, Inhabited

/-- The names of the kinds of position. -/
def Tag.name : Tag → String
  | root => "root"
  | flexItem => "flex-item"
  | absolute => "absolute"

/-- The kinds of position; there are no others. -/
def Tag.names : Names Tag := { all := [root, flexItem, absolute], name := name }

/-- Whether the node is placed by an offset. -/
def isAbsolute : Position → Bool
  | absolute _ => true
  | _ => false

/-- Reads the members of an object as a kind, if it was met, and other values. -/
def readTagged (levels : Nat) (tag : Option Tag) (others : List (String × Json)) :
    Members → Except Fault (Option Tag × List (String × Json))
  | .closed => .ok (tag, others)
  | .member key value rest => do
    let key ← key.value
    if key = "type" then
      if tag.isSome then .error (.duplicateField key)
      let tag ← Tag.names.readName value
      readTagged levels (some tag) others rest
    else
      let value ← value.toJson levels
      readTagged levels tag (others ++ [(key, value)]) rest
  | .noColon key fault => do
    let key ← key.value
    if key = "type" ∧ tag.isSome then .error (.duplicateField key)
    .error fault
  | .badKey _ => .error .keyNotString
  | .comma => .error .trailingComma
  | .stray => .error .noObjectEnd
  | .ended => .error .endsInObject
  | .endedAfterComma => .error .endsInValue

/-- A coordinate that has been read as any value. -/
def coordinate (j : Json) : Except Fault Float := Codec.float.ofJson j

/-- The offset that members give; each coordinate may come once. -/
def offsetOfMembers (x y : Option Float) : List (String × Json) → Except Fault Point
  | [] =>
    match x, y with
    | some x, some y => .ok ⟨x, y⟩
    | none, _ => .error (.missingField "x")
    | _, none => .error (.missingField "y")
  | (key, j) :: rest => do
    if key = "x" then
      if x.isSome then .error (.duplicateField key)
      offsetOfMembers (some (← coordinate j)) y rest
    else if key = "y" then
      if y.isSome then .error (.duplicateField key)
      offsetOfMembers x (some (← coordinate j)) rest
    else offsetOfMembers x y rest

/-- What is expected of an array of coordinates. -/
def offsetTitle : String := "struct variant PositionInfo::Absolute with 2 elements"

/-- The offset that the items of an array give. -/
def offsetOfItems : List Json → Except Fault Point
  | [] => .error (.wrongLength 0 offsetTitle)
  | [j] => do
    let _ ← coordinate j
    .error (.wrongLength 1 offsetTitle)
  | j :: j' :: rest => do
    let p : Point := ⟨← coordinate j, ← coordinate j'⟩
    if rest.isEmpty then .ok p
    else .error (.wrongLength (rest.length + 2) "2 elements in sequence")

/-- The position of a kind, with an offset that counts only for an absolute one. -/
def ofTag (offset : Except Fault Point) : Tag → Except Fault Position
  | .root => .ok root
  | .flexItem => .ok flexItem
  | .absolute => offset.map absolute

/-- Positions, written as objects, and read from arrays too. -/
def codec : Codec Position where
  read levels
    | .object members => enter levels fun n => do
      match ← readTagged n none [] members with
      | (some tag, others) => ofTag (offsetOfMembers none none others) tag
      | (none, _) => .error (.missingField "type")
    | .array items => enter levels fun n =>
      match items with
      | .cons item rest => do
        let tag ← Tag.names.readName item
        ofTag (offsetOfItems (← rest.toJson n)) tag
      | items => do
        let _ ← items.toJson n
        .error (.missingField "type")
    | d => d.mismatch "internally tagged enum PositionInfo"
  write
    | root => .object [("type", .string Tag.root.name)]
    | flexItem => .object [("type", .string Tag.flexItem.name)]
    | absolute p =>
      .object [("type", .string Tag.absolute.name), ("x", .float p.x), ("y", .float p.y)]

end Position

end DesignCode
