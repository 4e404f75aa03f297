import DesignCode.Json.Printer
import DesignCode.Text.Lines

/-!
# Templates

A `Template` is a text with places for values.  `Template.render` fills them from a JSON value; the
texts of values are not read again.  A part may fail when it is reached: `ε` is the type of the
faults that it may fail with, so that a `Template Empty` never fails (`Template.fill`).
-/

namespace DesignCode

/-- What a place asks for. -/
inductive Operand where
  /-- The value under the keys, one after the other; without keys the value at hand. -/
  | path (keys : List String)
  | literal (j : Json)

/-- A part of a template. -/
inductive TemplatePart (ε : Type) where
  | text (s : String)
  | value (keys : List String)
  /-- The text of the first operand, its lines moved by the number that the second one gives. -/
  | indent (operands : List Operand)
  | when (condition : Operand) (body otherwise : List (TemplatePart ε))
  | each (items : Operand) (body otherwise : List (TemplatePart ε))
  | fail (fault : ε)

/-- A text with places for values. -/
abbrev Template (ε : Type) := List (TemplatePart ε)

namespace Template

/-! ### Values -/

/-- The part of a value under a key of an object or an index of an array. -/
def step (j : Json) (key : String) : Option Json :=
  match j with
  | .object ms => ms.lookup key
  | .array items => key.toNat?.bind (items[·]?)
  | _ => none

/-- The part of a value under keys. -/
def lookup (keys : List String) (j : Json) : Option Json := keys.foldlM step j

end Template

/-- What an operand stands for. -/
def Operand.value (data : Json) : Operand → Option Json
  | path keys => Template.lookup keys data
  | literal j => some j

namespace Template

/-- Whether a double has its leading digit in place: zeros and smaller values have not. -/
def isNormal (x : Float) : Bool :=
  let e := (x.toBits >>> 52) &&& 0x7FF
  e ≠ 0 ∧ e ≠ 0x7FF

/-- Whether a value counts as true: nothing, zero and what is empty do not. -/
def isTruthy : Json → Bool
  | .null => false
  | .bool b => b
  | .int n => n ≠ 0
  | .float x => isNormal x
  | .string s => s ≠ ""
  | .array items => ¬ items.isEmpty
  | .object members => ¬ members.isEmpty

mutual

def display : Json → List Char
  | .null => []
  | .bool b => Json.boolText b
  | .int n => Json.intText n
  | .float x => Json.floatText x
  | .string s => s.toList
  | .array items => '[' :: Text.joined [',', ' '] (displayAll items) ++ [']']
  | .object _ => ['[', 'o', 'b', 'j', 'e', 'c', 't', ']']

def displayAll : List Json → List (List Char)
  | [] => []
  | j :: rest => display j :: displayAll rest

end

/-- The values that a block is repeated for. -/
def elements : Json → List Json
  | .array items => items
  | .object members => members.map Prod.snd
  | _ => []

/-- The text of the first operand with its lines moved; four places if no number is given. -/
def indented (data : Json) (operands : List Operand) : List Char :=
  let content := match operands[0]?.bind (Operand.value data) with
    | some (.string s) => s.toList
    | _ => []
  let places := match operands[1]?.bind (Operand.value data) with
    | some (.int n) => if 0 ≤ n then n.toNat else 4
    | _ => 4
  Text.indent places content

/-! ### Filling -/

variable {ε : Type}

mutual

def renderPart (data : Json) : TemplatePart ε → Except ε (List Char)
  | .text s => .ok s.toList
  | .value keys => .ok (((lookup keys data).map display).getD [])
  | .indent operands => .ok (indented data operands)
  | .when condition body otherwise =>
    if ((condition.value data).map isTruthy).getD false then render data body
    else render data otherwise
  | .each items body otherwise =>
    match ((items.value data).map elements).getD [] with
    | [] => render data otherwise
    | js => (js.mapM fun j => render j body).map List.flatten
  | .fail fault => .error fault

def render (data : Json) : Template ε → Except ε (List Char)
  | [] => .ok []
  | part :: rest => do return (← renderPart data part) ++ (← render data rest)

end

/-- The text of a template without parts that fail. -/
def fill (data : Json) (t : Template Empty) : List Char :=
  match render data t with
  | .ok cs => cs
  | .error e => e.elim

mutual

/-- A part without faults as one that might have some. -/
def liftPart : TemplatePart Empty → TemplatePart ε
  | .text s => .text s
  | .value keys => .value keys
  | .indent operands => .indent operands
  | .when condition body otherwise => .when condition (lift body) (lift otherwise)
  | .each items body otherwise => .each items (lift body) (lift otherwise)
  | .fail e => e.elim

/-- A template without faults as one that might have some. -/
def lift : Template Empty → Template ε
  | [] => []
  | part :: rest => liftPart part :: lift rest

end

end Template

end DesignCode
