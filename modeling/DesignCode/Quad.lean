import DesignCode.Json.Record

/-!
# Four values in clockwise order

A `Quad` holds one value for each side of a box (top, right, bottom, left) or for each corner
(top left, top right, bottom right, bottom left).
-/

namespace DesignCode

/-- Four values in clockwise order. -/
structure Quad (α : Type) where
  first : α
  second : α
  third : α
  fourth : α
deriving Inhabited

namespace Quad

variable {α β : Type}

def toList (q : Quad α) : List α := [q.first, q.second, q.third, q.fourth]

/-- Applies a function to each value. -/
def map (f : α → β) (q : Quad α) : Quad β := ⟨f q.first, f q.second, f q.third, f q.fourth⟩

def replicate (a : α) : Quad α := ⟨a, a, a, a⟩

open Json in
/-- Takes the next item of an array, the item `index` of four. -/
def takeItem (read : Draft → Except Fault α) (index : Nat) : Items → Except Fault (α × Items)
  | .closed => .error (.wrongLength index "an array of length 4")
  | .cons item rest => do return (← read item, rest)
  | .comma => .error .trailingComma
  | .stray => .error .noListEnd
  | .ended => .error .endsInList

open Json in
/-- Four values are written as an array. -/
def codec (c : Codec α) : Codec (Quad α) where
  read levels
    | .array items => enter levels fun n => do
      let (a, items) ← takeItem (c.read n) 0 items
      let (b, items) ← takeItem (c.read n) 1 items
      let (c', items) ← takeItem (c.read n) 2 items
      let (d, items) ← takeItem (c.read n) 3 items
      items.finish
      return ⟨a, b, c', d⟩
    | d => d.mismatch "an array of length 4"
  write q := .array (q.toList.map c.write)

end Quad

end DesignCode
