import DesignCode.Json.Reader

/-!
# Reading and writing values

A `Codec` reads values of a type from drafts and writes them as JSON values.  Reading is told how
many levels of arrays and objects may still be entered.  This file holds the codecs of plain values,
lists, maps and enumerations; records are in `DesignCode.Json.Record`.
-/

namespace DesignCode.Json

/-- Reads a value from a draft, entering at most the given number of levels. -/
abbrev Reader (α : Type) := Nat → Draft → Except Fault α

/-- How values of a type are read and written. -/
structure Codec (α : Type) where
  read : Reader α
  write : α → Json

/-- The levels that a reader enters if nothing else is said. -/
def standardLevels : Nat := 127

/-- The fault of a draft that is not what was asked for. -/
def Draft.mismatch {α : Type} (expected : String) : Draft → Except Fault α
  | .null => .error (.wrongType .null expected)
  | .bool b => .error (.wrongType (.bool b) expected)
  | .number n => do
    match ← n.value with
    | .int i => .error (.wrongType (.int i) expected)
    | .float x => .error (.wrongType (.float x) expected)
  | .string s => do .error (.wrongType (.string (← s.value)) expected)
  | .array _ => .error (.wrongType .sequence expected)
  | .object _ => .error (.wrongType .map expected)
  | .brokenNull fault | .brokenBool fault => .error fault
  | .stray => .error .noValue
  | .ended => .error .endsInValue

/-- Enters an array or an object. -/
def enter {α : Type} (levels : Nat) (inside : Nat → Except Fault α) : Except Fault α :=
  match levels with
  | 0 => .error .tooDeep
  | n + 1 => inside n

/-! ### Plain values -/

def readText : Draft → Except Fault String
  | .string s => s.value
  | d => d.mismatch "a string"

namespace Codec

def string : Codec String where
  read _ d := readText d
  write := .string

def bool : Codec Bool where
  read _
    | .bool b => .ok b
    | d => d.mismatch "a boolean"
  write := .bool

/-- Doubles; whole numbers are read as the nearest double. -/
def float : Codec Float where
  read _
    | .number n => do
      match ← n.value with
      | .int i => .ok (Float.ofInt i)
      | .float x => .ok x
    | d => d.mismatch "f64"
  write := .float

/-- Counts, which are whole and not negative. -/
def count : Codec Nat where
  read _
    | .number n => do
      match ← n.value with
      | .int i => if 0 ≤ i then .ok i.toNat else .error (.wrongValue (.int i) "usize")
      | .float x => .error (.wrongType (.float x) "usize")
    | d => d.mismatch "usize"
  write := .nat

def any : Codec Json where
  read levels d := d.toJson levels
  write j := j

/-- A value or null; an `n` always leads a null. -/
def option {α : Type} (c : Codec α) : Codec (Option α) where
  read levels
    | .null => .ok none
    | .brokenNull fault => .error fault
    | d => (c.read levels d).map some
  write := Json.ofOption c.write

end Codec

/-! ### Lists and maps -/

def Items.readAll {α : Type} (read : Draft → Except Fault α) : Items → Except Fault (List α)
  | .closed => .ok []
  | .cons item rest => do return (← read item) :: (← rest.readAll read)
  | .comma => .error .trailingComma
  | .stray => .error .noListEnd
  | .ended => .error .endsInList

/-- What is wrong with the end of an array of which no more items are wanted. -/
def Items.finish : Items → Except Fault Unit
  | .closed => .ok ()
  | .cons _ _ | .stray => .error .trailingCharacters
  | .comma => .error .trailingComma
  | .ended => .error .endsInList

/-- Reads all members into a map. -/
def Members.readAll {α : Type} (read : Draft → Except Fault α) (m : OrderedMap α) :
    Members → Except Fault (OrderedMap α)
  | .closed => .ok m
  | .member key value rest => do
    let key ← key.value
    let value ← read value
    rest.readAll read (m.insert key value)
  | .noColon key fault => do
    let _ ← key.value
    .error fault
  | .badKey _ => .error .keyNotString
  | .comma => .error .trailingComma
  | .stray => .error .noObjectEnd
  | .ended => .error .endsInObject
  | .endedAfterComma => .error .endsInValue

namespace Codec

def list {α : Type} (c : Codec α) : Codec (List α) where
  read levels
    | .array items => enter levels fun n => items.readAll (c.read n)
    | d => d.mismatch "a sequence"
  write xs := .array (xs.map c.write)

def map {α : Type} (c : Codec α) : Codec (OrderedMap α) where
  read levels
    | .object members => enter levels fun n => members.readAll (c.read n) .empty
    | d => d.mismatch "a map"
  write m := .object (m.entries.map fun e => (e.1, c.write e.2))

end Codec

/-! ### Enumerations -/

/-- The names of the values of an enumeration. -/
structure Names (α : Type) where
  all : List α
  name : α → String
  /-- What a name stands for that no value has. -/
  other : Option α := none

namespace Names

variable {α : Type}

def ofName (names : Names α) (s : String) : Except Fault α :=
  match names.all.find? (names.name · = s), names.other with
  | some a, _ => .ok a
  | none, some a => .ok a
  | none, none => .error (.unknownVariant s (names.all.map names.name))

def readName (names : Names α) : Draft → Except Fault α
  | .string s => do names.ofName (← s.value)
  | d => d.mismatch "variant identifier"

/-- Reads an object with a name as its only key and null as its value. -/
def readMember (names : Names α) : Members → Except Fault α
  | .member key value rest => do
    let a ← names.ofName (← key.value)
    match value with
    | .null => pure ()
    | d => d.mismatch "unit"
    match rest with
    | .closed => .ok a
    | .ended => .error .endsInObject
    | _ => .error .noValue
  | .noColon key fault => do
    let _ ← names.ofName (← key.value)
    .error fault
  | .badKey found => found.mismatch "variant identifier"
  | .closed | .comma | .stray => .error .noValue
  | .ended | .endedAfterComma => .error .endsInValue

/-- A value of an enumeration is written as its name. -/
def codec (names : Names α) : Codec α where
  read levels
    | .string s => do names.ofName (← s.value)
    | .object members => enter levels fun _ => names.readMember members
    | .ended => .error .endsInValue
    | _ => .error .noValue
  write a := .string (names.name a)

end Names

/-! ### Whole texts -/

namespace Codec

variable {α : Type}

/-- Reads a text that denotes one value and nothing else. -/
def parseWithin (c : Codec α) (levels : Nat) (cs : List Char) : Except Fault α := do
  let source := Source.ofText cs
  let a ← c.read levels source.draft
  if source.hasMore then .error .trailingCharacters else .ok a

/-- Reads a text with the standard number of levels. -/
def parse (c : Codec α) (s : String) : Except Fault α := c.parseWithin standardLevels s.toList

/-- Reads a text of any depth: there are no more levels than characters. -/
def parseDeep (c : Codec α) (s : String) : Except Fault α :=
  c.parseWithin s.toList.length s.toList

/-- Reads a value that is given as JSON. -/
def ofJson (c : Codec α) (j : Json) : Except Fault α := c.read standardLevels (Draft.ofJson j)

def text (c : Codec α) (a : α) : String := (c.write a).text

end Codec

end DesignCode.Json
