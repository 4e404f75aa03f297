import DesignCode.Json.Codec
import DesignCode.Tree

/-!
# Records

A `Record` lists the fields of a structure in the order in which they are written.  An object is
read key by key: unknown keys are skipped, a known one may come once, and a required one has to
come.  An array is read field by field in the listed order.  `Record.treeCodec` reads and writes
trees of records, whose children come as one more field.
-/

namespace DesignCode.Json

/-- A field of a structure. -/
structure Field (σ : Type) where
  name : String
  required : Bool
  /-- Reads a value and says how it changes the structure. -/
  read : Reader (σ → σ)
  /-- The value to write, or none if the field is left out. -/
  write : σ → Option Json

namespace Field

variable {σ τ α : Type}

/-- A field that has to be there. -/
def needed (name : String) (c : Codec α) (get : σ → α) (set : α → σ → σ) : Field σ where
  name
  required := true
  read levels d := (c.read levels d).map set
  write x := some (c.write (get x))

/-- A field that keeps its default if it is left out, and is always written. -/
def defaulted (name : String) (c : Codec α) (get : σ → α) (set : α → σ → σ) : Field σ :=
  { needed name c get set with required := false }

/-- A field without a value, read from null and not written, or with one. -/
def optional (name : String) (c : Codec α) (get : σ → Option α) (set : Option α → σ → σ) :
    Field σ where
  name
  required := false
  read levels d := (c.option.read levels d).map set
  write x := (get x).map c.write

/-- A list that is not written if it is empty. -/
def listed (name : String) (c : Codec α) (get : σ → List α) (set : List α → σ → σ) : Field σ where
  name
  required := false
  read levels d := (c.list.read levels d).map set
  write x := if (get x).isEmpty then none else some (c.list.write (get x))

/-- A truth value that is written only if it is true. -/
def flagged (name : String) (get : σ → Bool) (set : Bool → σ → σ) : Field σ where
  name
  required := false
  read levels d := (Codec.bool.read levels d).map set
  write x := if get x then some (.bool true) else none

/-- The field of a part of a larger structure. -/
def within (f : Field σ) (get : τ → σ) (set : (σ → σ) → τ → τ) : Field τ where
  name := f.name
  required := f.required
  read levels d := (f.read levels d).map set
  write x := f.write (get x)

end Field

/-- A structure as it is read and written. -/
structure Record (σ : Type) where
  /-- How messages call the structure. -/
  title : String
  fields : List (Field σ)
  /-- The structure before any field is read. -/
  blank : σ

namespace Record

variable {σ : Type}

/-- How messages say what is expected in place of an array of the wrong length. -/
def lengthTitle (r : Record σ) : String :=
  r.title ++ " with " ++ String.ofList (Decimal.digitChars r.fields.length) ++
    (if r.fields.length = 1 then " element" else " elements")

def field? (r : Record σ) (name : String) : Option (Field σ) := r.fields.find? (·.name = name)

/-- Fails if the field was read before. -/
def once (r : Record σ) (seen : List String) (key : String) : Except Fault Unit :=
  if (r.field? key).isSome ∧ key ∈ seen then .error (.duplicateField key) else .ok ()

/-- Reads the members of an object behind those with the keys `seen`. -/
def readMembers (r : Record σ) (levels : Nat) (seen : List String) (x : σ) :
    Members → Except Fault σ
  | .closed =>
    match r.fields.find? fun f => f.required ∧ f.name ∉ seen with
    | some f => .error (.missingField f.name)
    | none => .ok x
  | .member key value rest => do
    let key ← key.value
    r.once seen key
    match r.field? key with
    | some f =>
      let set ← f.read levels value
      r.readMembers levels (key :: seen) (set x) rest
    | none =>
      value.skip
      r.readMembers levels seen x rest
  | .noColon key fault => do
    let key ← key.value
    r.once seen key
    .error fault
  | .badKey _ => .error .keyNotString
  | .comma => .error .trailingComma
  | .stray => .error .noObjectEnd
  | .ended => .error .endsInObject
  | .endedAfterComma => .error .endsInValue

/-- Reads the items of an array as the fields `fs`, of which `length` are read already. -/
def readItems (r : Record σ) (levels : Nat) (length : Nat) (x : σ) :
    List (Field σ) → Items → Except Fault σ
  | [], items => do
    items.finish
    return x
  | f :: fs, .closed =>
    if f.required then .error (.wrongLength length r.lengthTitle)
    else r.readItems levels (length + 1) x fs .closed
  | f :: fs, .cons item rest => do
    let set ← f.read levels item
    r.readItems levels (length + 1) (set x) fs rest
  | _ :: _, .comma => .error .trailingComma
  | _ :: _, .stray => .error .noListEnd
  | _ :: _, .ended => .error .endsInList

/-- Reads a structure from an object or an array. -/
def read (r : Record σ) : Reader σ := fun levels d =>
  match d with
  | .object members => enter levels fun n => r.readMembers n [] r.blank members
  | .array items => enter levels fun n => r.readItems n 0 r.blank r.fields items
  | d => d.mismatch r.title

/-- The members that are written for a structure. -/
def members (r : Record σ) (x : σ) : List (String × Json) :=
  r.fields.filterMap fun f => (f.write x).map (f.name, ·)

/-- A structure is written as an object. -/
def codec (r : Record σ) : Codec σ where
  read := r.read
  write x := .object (r.members x)

/-! ### Trees of records -/

/-- A reader that may use itself for what lies deeper; `fuel` bounds how often. -/
def fixAt {α : Type} (step : Reader α → Reader α) : Nat → Reader α
  | 0 => step fun _ _ => .error .tooDeep
  | fuel + 1 => step (fixAt step fuel)

/-- A reader that uses itself for what lies deeper. -/
def fix {α : Type} (step : Reader α → Reader α) : Reader α := fun levels d =>
  fixAt step levels levels d

/-- The record of a tree whose subtrees `self` reads. -/
def withChildren (r : Record σ) (self : Reader (Tree σ)) : Record (Tree σ) where
  title := r.title
  blank := .node r.blank []
  fields :=
    r.fields.map (·.within Tree.value fun f t => .node (f t.value) t.children) ++
      [{ name := "children"
         required := false
         read := fun levels d =>
           (Codec.list ⟨self, fun _ => .null⟩).read levels d |>.map fun cs t => .node t.value cs
         write := fun _ => none }]

/-- A tree is written as its root with the children as last member, if there are any. -/
def treeCodec (r : Record σ) : Codec (Tree σ) where
  read := fix fun self => (r.withChildren self).read
  write t := t.fold fun x cs =>
    .object (r.members x ++ if cs.isEmpty then [] else [("children", .array cs)])

end Record

end DesignCode.Json
