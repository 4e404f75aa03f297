import DesignCode.Json.Draft

/-!
# From a text to its draft

`Source.ofText` reads the first value of a text and says whether anything but space follows it.
Each step takes characters off the text and gives the rest, or none where the text stops being JSON:
the reader goes on behind a value exactly if the value could be skipped.
-/

namespace DesignCode.Json

/-! ### Blanks and words -/

/-- The characters that may stand between two tokens. -/
def isSpace (c : Char) : Bool := c = ' ' ∨ c = '\n' ∨ c = '\t' ∨ c = '\r'

/-- Drops the space in front of a token. -/
def dropSpace (cs : List Char) : List Char := cs.dropWhile isSpace

/-- Takes the rest of a word off the text. -/
def takeWord : List Char → List Char → Except Fault (List Char)
  | [], cs => .ok cs
  | _ :: _, [] => .error .endsInValue
  | w :: ws, c :: cs => if w = c then takeWord ws cs else .error .noWord

/-! ### Numbers -/

/-- The fault of a number that stops before a digit. -/
def numberFault : List Char → Fault
  | [] => .endsInValue
  | _ :: _ => .invalidNumber

/-- The natural number that decimal digits write. -/
def natOfDigits (ds : List Char) : Nat := ds.foldl (fun n d => n * 10 + (d.toNat - 48)) 0

/-- The parts of a number. -/
structure Numeral where
  negative : Bool
  whole : List Char
  /-- The digits behind the point; none if there is no point. -/
  fraction : List Char
  /-- The exponent and its sign, if there is one. -/
  exponent : Option (Bool × List Char)

/-- Takes one or more digits off the text. -/
def takeDigits (cs : List Char) : Except Fault (List Char × List Char) :=
  match cs.takeWhile Char.isDigit with
  | [] => .error (numberFault cs)
  | ds => .ok (ds, cs.dropWhile Char.isDigit)

/-- Takes the whole part off the text: a zero that no digit follows, or digits. -/
def takeWhole : List Char → Except Fault (List Char × List Char)
  | '0' :: c :: rest =>
    if c.isDigit then .error .invalidNumber else .ok (['0'], c :: rest)
  | cs => takeDigits cs

/-- Takes a point with digits off the text, if a point comes. -/
def takeFraction : List Char → Except Fault (List Char × List Char)
  | '.' :: cs => takeDigits cs
  | cs => .ok ([], cs)

/-- Takes an exponent off the text, if one comes. -/
def takeExponent : List Char → Except Fault (Option (Bool × List Char) × List Char)
  | c :: cs =>
    if c = 'e' ∨ c = 'E' then
      let (negative, cs) := match cs with
        | '-' :: cs => (true, cs)
        | '+' :: cs => (false, cs)
        | cs => (false, cs)
      (takeDigits cs).map fun (ds, rest) => (some (negative, ds), rest)
    else .ok (none, c :: cs)
  | [] => .ok (none, [])

/-- Takes a number off the text. -/
def takeNumeral (cs : List Char) : Except Fault (Numeral × List Char) := do
  let (negative, cs) := match cs with
    | '-' :: cs => (true, cs)
    | cs => (false, cs)
  let (whole, cs) ← takeWhole cs
  let (fraction, cs) ← takeFraction cs
  let (exponent, cs) ← takeExponent cs
  return (⟨negative, whole, fraction, exponent⟩, cs)

/-- The power of ten that the digits are to be multiplied by. -/
def Numeral.scale (n : Numeral) : Int :=
  let e : Int := match n.exponent with
    | none => 0
    | some (true, ds) => -(natOfDigits ds : Int)
    | some (false, ds) => natOfDigits ds
  e - n.fraction.length

/-- The double nearest to `digits · 10 ^ scale`.  Scales so large or small that no digit counts are
cut off before the power is formed. -/
def doubleOf (digits : Nat) (scale : Int) : Float :=
  if digits = 0 then 0
  else
    let length := (Decimal.digitCount digits : Int)
    if 400 < scale + length then Float.ofScientific 1 false 400
    else if scale + length < -400 then 0
    else Float.ofScientific digits (decide (scale < 0)) scale.natAbs

/-- What the number denotes: a whole number of 64 bits if it has neither point nor exponent and
fits, else the nearest double.  `-0` is a double. -/
def Numeral.value (n : Numeral) : Except Fault Number :=
  let digits := natOfDigits (n.whole ++ n.fraction)
  let isWhole := n.fraction = [] ∧ n.exponent.isNone
  if isWhole ∧ ¬ n.negative ∧ digits < Nat.pow 2 64 then .ok (.int digits)
  else if isWhole ∧ n.negative ∧ 0 < digits ∧ digits ≤ Nat.pow 2 63 then .ok (.int (-digits))
  else
    let x := doubleOf digits n.scale
    if x.isFinite then .ok (.float (if n.negative then -x else x)) else .error .numberOutOfRange

/-- Reads a number.  All faults of a number that nobody asks for are the same. -/
def readNumber (cs : List Char) : Literal Number × Option (List Char) :=
  match takeNumeral cs with
  | .ok (n, rest) => (⟨n.value, none⟩, some rest)
  | .error fault => (⟨.error fault, some .invalidNumber⟩, none)

/-! ### Strings -/

/-- The value of a hexadecimal digit. -/
def hexValue (c : Char) : Option Nat :=
  if '0' ≤ c ∧ c ≤ '9' then some (c.toNat - 48)
  else if 'a' ≤ c ∧ c ≤ 'f' then some (c.toNat - 87)
  else if 'A' ≤ c ∧ c ≤ 'F' then some (c.toNat - 55)
  else none

/-- Takes four hexadecimal digits off the text. -/
def takeHex : List Char → Except Fault (Nat × List Char)
  | a :: b :: c :: d :: rest =>
    match hexValue a, hexValue b, hexValue c, hexValue d with
    | some a, some b, some c, some d => .ok (((a * 16 + b) * 16 + c) * 16 + d, rest)
    | _, _, _, _ => .error .invalidEscape
  | cs => if (String.ofList cs).utf8ByteSize < 4 then .error .endsInString else .error .invalidEscape

/-- The character that an escape of one letter stands for. -/
def shortEscape (c : Char) : Option Char :=
  if c = '"' ∨ c = '\\' ∨ c = '/' then some c
  else if c = 'b' then some '\x08'
  else if c = 'f' then some '\x0c'
  else if c = 'n' then some '\n'
  else if c = 'r' then some '\r'
  else if c = 't' then some '\t'
  else none

/-- Whether the number is the first half of a surrogate pair. -/
def isHighSurrogate (n : Nat) : Bool := 0xD800 ≤ n ∧ n < 0xDC00

/-- Whether the number is the second half of a surrogate pair. -/
def isLowSurrogate (n : Nat) : Bool := 0xDC00 ≤ n ∧ n < 0xE000

/-- What comes next in a string. -/
inductive Piece where
  | char (c : Char)
  | quote
  /-- An escape that is well written but stands for no character. -/
  | unpaired (fault : Fault)

/-- Reads the second half of a surrogate pair. -/
def takePair (high : Nat) (cs : List Char) : Except Fault (Piece × List Char) :=
  match cs with
  | [] => .ok (.unpaired .endsInString, [])
  | '\\' :: [] => .ok (.unpaired .endsInString, ['\\'])
  | '\\' :: 'u' :: rest =>
    match takeHex rest with
    | .error fault => .ok (.unpaired fault, cs)
    | .ok (low, rest) =>
      if isLowSurrogate low then
        .ok (.char (Char.ofNat (0x10000 + (high - 0xD800) * 0x400 + (low - 0xDC00))), rest)
      else .ok (.unpaired .loneSurrogate, cs)
  | _ => .ok (.unpaired .missingSurrogate, cs)

/-- Takes one piece of a string off the text. -/
def takePiece : List Char → Except Fault (Piece × List Char)
  | [] => .error .endsInString
  | '"' :: rest => .ok (.quote, rest)
  | '\\' :: [] => .error .endsInString
  | '\\' :: 'u' :: rest => do
    let (n, rest) ← takeHex rest
    if isHighSurrogate n then takePair n rest
    else if isLowSurrogate n then .ok (.unpaired .loneSurrogate, rest)
    else .ok (.char (Char.ofNat n), rest)
  | '\\' :: c :: rest =>
    match shortEscape c with
    | some d => .ok (.char d, rest)
    | none => .error .invalidEscape
  | c :: rest => if c.toNat < 0x20 then .error .controlCharacter else .ok (.char c, rest)

theorem length_of_takeHex {cs rest : List Char} {n : Nat} (h : takeHex cs = .ok (n, rest)) :
    rest.length < cs.length := by
  unfold takeHex at h
  grind

theorem length_of_takePair {high : Nat} {cs rest : List Char} {p : Piece}
    (h : takePair high cs = .ok (p, rest)) : rest.length ≤ cs.length := by
  unfold takePair at h
  grind [→ length_of_takeHex]

/-- A piece of a string has at least one character. -/
theorem length_of_takePiece {cs rest : List Char} {p : Piece} (h : takePiece cs = .ok (p, rest)) :
    rest.length < cs.length := by
  simp only [takePiece, bind, Except.bind] at h
  grind [→ length_of_takeHex, → length_of_takePair]

/-- Reads the rest of a string; `found` holds its first characters, last one first, or the fault met
there. -/
def readString (found : Except Fault (List Char)) (cs : List Char) :
    Literal String × Option (List Char) :=
  match _h : takePiece cs with
  | .error fault => (⟨found.bind fun _ => .error fault, some fault⟩, none)
  | .ok (.quote, rest) => (⟨found.map fun rs => String.ofList rs.reverse, none⟩, some rest)
  | .ok (.char c, rest) => readString (found.map (c :: ·)) rest
  | .ok (.unpaired fault, rest) => readString (found.bind fun _ => .error fault) rest
termination_by cs.length
decreasing_by all_goals exact length_of_takePiece _h

/-! ### Values -/

/-- Reads the rest of a word; `broken` is the draft if it is misspelt. -/
def readWord (word : List Char) (draft : Draft) (broken : Fault → Draft) (cs : List Char) :
    Draft × Option (List Char) :=
  match takeWord word cs with
  | .ok rest => (draft, some rest)
  | .error fault => (broken fault, none)

/-- Takes the colon behind a key off the text. -/
def takeColon (cs : List Char) : Except Fault (List Char) :=
  match dropSpace cs with
  | [] => .error .endsInObject
  | ':' :: rest => .ok rest
  | _ => .error .noColon

mutual

def readValue : Nat → List Char → Draft × Option (List Char)
  | 0, _ => (.ended, none)
  | fuel + 1, cs =>
    match dropSpace cs with
    | [] => (.ended, none)
    | 'n' :: rest => readWord ['u', 'l', 'l'] .null .brokenNull rest
    | 't' :: rest => readWord ['r', 'u', 'e'] (.bool true) .brokenBool rest
    | 'f' :: rest => readWord ['a', 'l', 's', 'e'] (.bool false) .brokenBool rest
    | '"' :: rest =>
      let (s, rest) := readString (.ok []) rest
      (.string s, rest)
    | '[' :: rest =>
      let (items, rest) := readFirstItem fuel rest
      (.array items, rest)
    | '\x7b' :: rest =>
      let (members, rest) := readFirstMember fuel rest
      (.object members, rest)
    | c :: rest =>
      if c = '-' ∨ c.isDigit then
        let (n, rest) := readNumber (c :: rest)
        (.number n, rest)
      else (.stray, none)

/-- Reads an array behind its bracket. -/
def readFirstItem : Nat → List Char → Items × Option (List Char)
  | 0, _ => (.ended, none)
  | fuel + 1, cs =>
    match dropSpace cs with
    | [] => (.ended, none)
    | ']' :: rest => (.closed, some rest)
    | rest => readItem fuel rest

/-- Reads an item and what follows it. -/
def readItem : Nat → List Char → Items × Option (List Char)
  | 0, _ => (.ended, none)
  | fuel + 1, cs =>
    match readValue fuel cs with
    | (item, none) => (.cons item .ended, none)
    | (item, some rest) =>
      let (items, rest) := readNextItem fuel rest
      (.cons item items, rest)

/-- Reads an array behind one of its items. -/
def readNextItem : Nat → List Char → Items × Option (List Char)
  | 0, _ => (.ended, none)
  | fuel + 1, cs =>
    match dropSpace cs with
    | [] => (.ended, none)
    | ']' :: rest => (.closed, some rest)
    | ',' :: rest =>
      match dropSpace rest with
      | ']' :: _ => (.comma, none)
      | rest => readItem fuel rest
    | _ => (.stray, none)

/-- Reads an object behind its brace. -/
def readFirstMember : Nat → List Char → Members × Option (List Char)
  | 0, _ => (.ended, none)
  | fuel + 1, cs =>
    match dropSpace cs with
    | [] => (.ended, none)
    | '\x7d' :: rest => (.closed, some rest)
    | rest => readMember fuel rest

/-- Reads a member and what follows it. -/
def readMember : Nat → List Char → Members × Option (List Char)
  | 0, _ => (.ended, none)
  | fuel + 1, cs =>
    match cs with
    | '"' :: rest =>
      match readString (.ok []) rest with
      | (key, none) => (.noColon key .endsInObject, none)
      | (key, some rest) =>
        match takeColon rest with
        | .error fault => (.noColon key fault, none)
        | .ok rest =>
          match readValue fuel rest with
          | (value, none) => (.member key value .ended, none)
          | (value, some rest) =>
            let (members, rest) := readNextMember fuel rest
            (.member key value members, rest)
    | _ => (.badKey (readValue fuel cs).1, none)

/-- Reads an object behind one of its members. -/
def readNextMember : Nat → List Char → Members × Option (List Char)
  | 0, _ => (.ended, none)
  | fuel + 1, cs =>
    match dropSpace cs with
    | [] => (.ended, none)
    | '\x7d' :: rest => (.closed, some rest)
    | ',' :: rest =>
      match dropSpace rest with
      | [] => (.endedAfterComma, none)
      | '\x7d' :: _ => (.comma, none)
      | rest => readMember fuel rest
    | _ => (.stray, none)

end

/-- A text: the draft of its first value, and whether more than space follows it. -/
structure Source where
  draft : Draft
  hasMore : Bool

/-- Reads the first value of a text. -/
def Source.ofText (cs : List Char) : Source :=
  match readValue (3 * cs.length + 3) cs with
  | (draft, none) => ⟨draft, false⟩
  | (draft, some rest) => ⟨draft, ¬ (dropSpace rest).isEmpty⟩

end DesignCode.Json
