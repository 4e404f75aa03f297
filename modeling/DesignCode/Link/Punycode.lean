/-!
# Punycode

A label of a domain name that holds more than ASCII is written in ASCII: its plain characters first,
and behind the last hyphen numbers that say which other characters stand where.  The numbers have
digits of base 36, whose thresholds follow the numbers before.  Only reading is needed here.
-/

namespace DesignCode.Link.Punycode

def digit? (c : Char) : Option Nat :=
  if 'a' ≤ c ∧ c ≤ 'z' then some (c.toNat - 97)
  else if 'A' ≤ c ∧ c ≤ 'Z' then some (c.toNat - 65)
  else if '0' ≤ c ∧ c ≤ '9' then some (c.toNat - 22)
  else none

/-- The value below which the digit at a place ends its number. -/
def threshold (place bias : Nat) : Nat :=
  if place ≤ bias then 1 else if bias + 26 ≤ place then 26 else place - bias

/-- Divides by 35 until the value is small, counting the steps; `fuel` bounds them. -/
def shrink : Nat → Nat → Nat → Nat × Nat
  | 0, delta, steps => (delta, steps)
  | fuel + 1, delta, steps =>
    if 455 < delta then shrink fuel (delta / 35) (steps + 36) else (delta, steps)

/-- The bias behind a number. -/
def adapt (delta length : Nat) (isFirst : Bool) : Nat :=
  let delta := if isFirst then delta / 700 else delta / 2
  let (delta, steps) := shrink delta (delta + delta / length) 0
  steps + 36 * delta / (delta + 38)

/-- What has been read so far. -/
structure State where
  output : List Char
  /-- The last character that was put in. -/
  code : Nat := 0x80
  /-- The place and the character that the digits read so far name, as one number. -/
  index : Nat := 0
  bias : Nat := 72
  /-- The index before the number that is being read. -/
  start : Nat := 0
  weight : Nat := 1
  place : Nat := 36

/-- Ends a number: puts the character that it names where it belongs. -/
def State.finish (s : State) : Option State :=
  let length := s.output.length + 1
  let code := s.code + s.index / length
  let at_ := s.index % length
  if code < 0xD800 ∨ (0xDFFF < code ∧ code < 0x110000) then
    some
      { output := s.output.take at_ ++ Char.ofNat code :: s.output.drop at_
        code := code
        index := at_ + 1
        bias := adapt (s.index - s.start) length (s.start = 0)
        start := at_ + 1 }
  else none

/-- Reads the digits behind the plain characters. -/
def readDigits (s : State) : List Char → Option (List Char)
  | [] => if s.weight = 1 ∧ s.place = 36 then some s.output else none
  | c :: rest =>
    match digit? c with
    | none => none
    | some d =>
      let s := { s with index := s.index + d * s.weight }
      let t := threshold s.place s.bias
      if d < t then
        match s.finish with
        | some s => readDigits s rest
        | none => none
      else readDigits { s with weight := s.weight * (36 - t), place := s.place + 36 } rest

/-- The characters that a text in ASCII stands for. -/
def decode (cs : List Char) : Option (List Char) :=
  let digits := (cs.reverse.takeWhile (· ≠ '-')).reverse
  let plain := cs.take (cs.length - digits.length - 1)
  if digits.length = cs.length then readDigits { output := [] } cs
  else if plain.isEmpty then none
  else readDigits { output := plain } digits

end DesignCode.Link.Punycode
