import DesignCode.Json.Fault

/-!
# What a text offers to a reader

A `Draft` is the outline of a JSON text up to the place where it stops being one.  Which fault counts
depends on what is asked for: a number too large for a double is a fault only if it is wanted, and a
list of the wrong length hides what follows.  So a draft keeps the faults where they stand, and
`Draft.skip`, `Draft.toJson` and the readers of records report the first one they meet.
-/

namespace DesignCode.Json

/-- A number or a string: what it denotes, and the fault that counts when nobody asks for it. -/
structure Literal (α : Type) where
  value : Except Fault α
  skipped : Option Fault

/-- A number as it is written: a whole one that fits into 64 bits, or a double. -/
inductive Number where
  | int (n : Int)
  | float (x : Float)

mutual

/-- The outline of a value. -/
inductive Draft where
  | null
  | bool (b : Bool)
  | number (n : Literal Number)
  | string (s : Literal String)
  | array (items : Items)
  | object (members : Members)
  /-- A misspelt `null`. -/
  | brokenNull (fault : Fault)
  /-- A misspelt `true` or `false`. -/
  | brokenBool (fault : Fault)
  /-- A character that begins no value. -/
  | stray
  /-- The text ends where a value is due. -/
  | ended

/-- The outline of an array behind its bracket. -/
inductive Items where
  | closed
  | cons (item : Draft) (rest : Items)
  /-- A comma right before the closing bracket. -/
  | comma
  /-- Neither a comma nor a bracket. -/
  | stray
  | ended

/-- The outline of an object behind its brace. -/
inductive Members where
  | closed
  | member (key : Literal String) (value : Draft) (rest : Members)
  /-- A key with no colon behind it. -/
  | noColon (key : Literal String) (fault : Fault)
  /-- Something else where a key is due. -/
  | badKey (found : Draft)
  /-- A comma right before the closing brace. -/
  | comma
  /-- Neither a comma nor a brace. -/
  | stray
  | ended
  /-- The text ends behind a comma. -/
  | endedAfterComma

end

instance : Inhabited Draft := ⟨.ended⟩

/-! ### Skipping -/

mutual

/-- The fault that counts if nobody asks for the value. -/
def Draft.skip : Draft → Except Fault Unit
  | .null | .bool _ => .ok ()
  | .number n => n.skipped.elim (.ok ()) .error
  | .string s => s.skipped.elim (.ok ()) .error
  | .array items => items.skip
  | .object members => members.skip
  | .brokenNull fault | .brokenBool fault => .error fault
  | .stray => .error .noValue
  | .ended => .error .endsInValue

/-- `Draft.skip` for the rest of an array. -/
def Items.skip : Items → Except Fault Unit
  | .closed => .ok ()
  | .cons item rest => do item.skip; rest.skip
  | .comma => .error .noValue
  | .stray => .error .noListEnd
  | .ended => .error .endsInList

/-- `Draft.skip` for the rest of an object. -/
def Members.skip : Members → Except Fault Unit
  | .closed => .ok ()
  | .member key value rest => do
    key.skipped.elim (.ok ()) .error
    value.skip
    rest.skip
  | .noColon key fault => do
    key.skipped.elim (.ok ()) .error
    .error fault
  | .badKey _ | .comma => .error .keyNotString
  | .stray => .error .noObjectEnd
  | .ended | .endedAfterComma => .error .endsInObject

end

/-! ### Any value -/

/-- The number as a JSON value. -/
def Number.toJson : Number → Json
  | int n => .int n
  | float x => .float x

mutual

/-- The value of a draft with at most `levels` levels of arrays and objects; the members of an
object are put in the order of their keys, the last one of a key counting. -/
def Draft.toJson (levels : Nat) : Draft → Except Fault Json
  | .null => .ok .null
  | .bool b => .ok (.bool b)
  | .number n => n.value.map Number.toJson
  | .string s => s.value.map .string
  | .array items =>
    match levels with
    | 0 => .error .tooDeep
    | n + 1 => (items.toJson n).map .array
  | .object members =>
    match levels with
    | 0 => .error .tooDeep
    | n + 1 => (members.toJson n).map fun ms => .object (OrderedMap.ofList ms).sortKeys.entries
  | .brokenNull fault | .brokenBool fault => .error fault
  | .stray => .error .noValue
  | .ended => .error .endsInValue

/-- `Draft.toJson` for the rest of an array. -/
def Items.toJson (levels : Nat) : Items → Except Fault (List Json)
  | .closed => .ok []
  | .cons item rest => do return (← item.toJson levels) :: (← rest.toJson levels)
  | .comma => .error .trailingComma
  | .stray => .error .noListEnd
  | .ended => .error .endsInList

/-- `Draft.toJson` for the rest of an object. -/
def Members.toJson (levels : Nat) : Members → Except Fault (List (String × Json))
  | .closed => .ok []
  | .member key value rest => do
    let key ← key.value
    return (key, ← value.toJson levels) :: (← rest.toJson levels)
  | .noColon key fault => do
    let _ ← key.value
    .error fault
  | .badKey _ => .error .keyNotString
  | .comma => .error .trailingComma
  | .stray => .error .noObjectEnd
  | .ended => .error .endsInObject
  | .endedAfterComma => .error .endsInValue

end

/-! ### Values as drafts -/

/-- A literal without fault. -/
def Literal.pure {α : Type} (a : α) : Literal α := ⟨.ok a, none⟩

mutual

/-- The draft of a text that denotes `j`. -/
def Draft.ofJson : Json → Draft
  | .null => .null
  | .bool b => .bool b
  | .int n => .number (.pure (.int n))
  | .float x => .number (.pure (.float x))
  | .string s => .string (.pure s)
  | .array items => .array (Items.ofJson items)
  | .object members => .object (Members.ofJson members)

/-- The draft of the rest of an array. -/
def Items.ofJson : List Json → Items
  | [] => .closed
  | j :: rest => .cons (Draft.ofJson j) (Items.ofJson rest)

/-- The draft of the rest of an object. -/
def Members.ofJson : List (String × Json) → Members
  | [] => .closed
  | (k, j) :: rest => .member (.pure k) (Draft.ofJson j) (Members.ofJson rest)

end

end DesignCode.Json
