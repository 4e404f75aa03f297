import DesignCode.Link.MappingTable
import DesignCode.Link.ScriptTable
import DesignCode.Link.Percent
import DesignCode.Link.Punycode
import DesignCode.Text.Lines

/-!
# Domain names

`Domain.ofText` reads the name of a host: percent signs are decoded, letters are mapped to lower
case and to their plain forms, and each label between two points is checked.  Labels that hold more
than ASCII are kept as they read and not written in ASCII; characters with accents are not composed.
-/

namespace DesignCode.Link.Domain

open Text (inRanges)

/-! ### Mapping -/

/-- Whether a domain name may not hold the character of ASCII. -/
def isForbidden (c : Char) : Bool :=
  c.toNat ≤ 0x20 ∨ c.toNat = 0x7F ∨ c ∈ ['%', '#', '/', ':', '<', '>', '?', '@', '[', '\\', ']', '^', '|']

/-- The characters that a character stands for; none if no domain name may hold it. -/
def mapChar (c : Char) : Option (List Char) :=
  let n := c.toNat
  if n < 0x80 then some [c.toLower]
  else if inRanges n ignored then some []
  else match plainTexts.lookup n with
    | some s => some s.toList
    | none =>
      let d := Text.mapped plainRuns c
      if d ≠ c then some [d]
      else if inRanges n disallowed then none
      else some (Text.lowerOf c)

/-- The mapped characters of a name; none if one of them may not stand in it. -/
def mapName (cs : List Char) : Option (List Char) := do
  let mapped := (← cs.mapM mapChar).flatten
  if mapped.any isForbidden then none else some mapped

/-! ### Labels -/

/-- Whether the character is a mark. -/
def isMark (c : Char) : Bool := 0x80 ≤ c.toNat ∧ inRanges c.toNat marks

/-- Whether letters before and behind a place are joined across marks; `before` lists the letters
before it, last one first. -/
def joins (before after : List Char) : Bool :=
  (before.dropWhile isMark).head?.any (fun c => inRanges c.toNat joinsAfter) ∧
    (after.dropWhile isMark).head?.any fun c => inRanges c.toNat joinsBefore

/-- Whether each joiner stands where it has a meaning: behind a sign that joins letters, or, if it
keeps letters apart, between letters that would join. -/
def joinersFit (before : List Char) : List Char → Bool
  | [] => true
  | c :: rest =>
    let behindSign := before.head?.any fun d => inRanges d.toNat viramas
    (if c.toNat = 0x200D then behindSign
      else if c.toNat = 0x200C then behindSign ∨ joins before rest
      else true) ∧ joinersFit (c :: before) rest

/-- Whether a label may be written: it does not begin with a mark, and its joiners fit. -/
def isWritable (label : List Char) : Bool :=
  ¬ label.head?.any isMark ∧ joinersFit [] label

/-- Whether a character stands for itself. -/
def isStable (c : Char) : Bool := mapChar c = some [c]

/-- The characters that a label shows; none if the label may not stand in a name.  A label in
Punycode shows what it stands for, which has to be more than ASCII and mapped already. -/
def shown (label : List Char) : Option (List Char) :=
  match label with
  | 'x' :: 'n' :: '-' :: '-' :: code => do
    let cs ← Punycode.decode code
    if cs.all (·.toNat < 0x80) ∨ ¬ cs.all isStable ∨ ¬ isWritable cs then none else some cs
  | label => if isWritable label then some label else none

/-! ### Directions -/

/-- Whether the character is a letter written from right to left. -/
def isRightToLeft (c : Char) : Bool := 0x80 ≤ c.toNat ∧ inRanges c.toNat rightToLeft

/-- Whether the character belongs to a number written in Arabic. -/
def isArabicNumber (c : Char) : Bool := 0x80 ≤ c.toNat ∧ inRanges c.toNat arabicNumbers

/-- Whether the character is a digit of a number written from left to right. -/
def isEuropeanNumber (c : Char) : Bool := inRanges c.toNat europeanNumbers

/-- Whether the character is a letter written from left to right. -/
def isLeftToRight (c : Char) : Bool := ¬ inRanges c.toNat undirected

/-- The last character that is no mark. -/
def lastBase? (label : List Char) : Option Char := (label.reverse.dropWhile isMark).head?

/-- Whether a label keeps to one direction. -/
def keepsDirection (label : List Char) : Bool :=
  match label with
  | [] => true
  | c :: _ =>
    if isRightToLeft c then
      ¬ label.any isLeftToRight ∧
        (lastBase? label).any (fun d => isRightToLeft d ∨ isEuropeanNumber d ∨ isArabicNumber d) ∧
        ¬ (label.any isEuropeanNumber ∧ label.any isArabicNumber)
    else if isLeftToRight c then
      ¬ label.any (fun d => isRightToLeft d ∨ isArabicNumber d) ∧
        (lastBase? label).any fun d => isLeftToRight d ∨ isEuropeanNumber d
    else false

/-- Whether directions do not mix: if anything in a name is written from right to left, each label
keeps to one direction. -/
def directionsFit (labels : List (List Char)) : Bool :=
  ¬ labels.any (·.any fun c => isRightToLeft c ∨ isArabicNumber c) ∨ labels.all keepsDirection

/-! ### Names -/

/-- Reads the name of a host. -/
def ofText (cs : List Char) : Option (List Char) := do
  let name ← mapName (← decodeUtf8? (percentDecode (encodeUtf8 cs)))
  let labels ← (Text.splitAt (· = '.') name).mapM shown
  if directionsFit labels then some name else none

end DesignCode.Link.Domain
