import DesignCode.Text.CaseTable

/-!
# Upper and lower case

`lower` and `upper` map a text by the full case mappings of Unicode.  A capital sigma becomes the
final form at the end of a word, that is after a cased character and not before one, where
characters without a say in the matter are passed over.
-/

namespace DesignCode.Text

/-- Whether a number lies in one of the closed ranges. -/
def inRanges (n : Nat) (ranges : List (Nat × Nat)) : Bool :=
  ranges.any fun r => r.1 ≤ n ∧ n ≤ r.2

/-- Whether the run maps the character with this number. -/
def Run.covers (r : Run) (n : Nat) : Bool := r.first ≤ n ∧ n ≤ r.last ∧ (n - r.first) % r.step = 0

/-- The character that the runs map `c` to, `c` itself if none does. -/
def mapped (runs : List Run) (c : Char) : Char :=
  match runs.find? (·.covers c.toNat) with
  | some r => Char.ofNat ((c.toNat : Int) + r.shift).toNat
  | none => c

/-- The lower form of a character that stands alone. -/
def lowerOf (c : Char) : List Char :=
  if c.toNat < 0x80 then [c.toLower]
  else if c = 'İ' then ['i', '\u0307']
  else [mapped lowerRuns c]

/-- The upper form of a character. -/
def upperOf (c : Char) : List Char :=
  if c.toNat < 0x80 then [c.toUpper]
  else match upperLong.lookup c.toNat with
    | some ns => ns.map Char.ofNat
    | none => [mapped upperRuns c]

/-- Whether the first character that counts is a cased one. -/
def meetsCased (cs : List Char) : Bool :=
  match cs.dropWhile fun c => inRanges c.toNat caseIgnorable with
  | [] => false
  | c :: _ => inRanges c.toNat cased

/-- The lower form of a text that follows `before`, which is given last character first. -/
def lowerAfter (before : List Char) : List Char → List Char
  | [] => []
  | c :: rest =>
    (if c = 'Σ' then (if meetsCased before ∧ ¬ meetsCased rest then ['ς'] else ['σ'])
      else lowerOf c) ++ lowerAfter (c :: before) rest

/-- The lower form of a text. -/
def lower (cs : List Char) : List Char := lowerAfter [] cs

/-- The upper form of a text. -/
def upper (cs : List Char) : List Char := cs.flatMap upperOf

end DesignCode.Text
