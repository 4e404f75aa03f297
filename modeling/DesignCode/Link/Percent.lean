import DesignCode.Json.Reader

/-!
# Bytes of texts

A text is a sequence of bytes in UTF-8.  `percentDecode` replaces a percent sign with two
hexadecimal digits by the byte that they write; `decodeUtf8` reads bytes as characters and marks
what cannot be read.  `formDecode` reads a name or a value of a query.
-/

namespace DesignCode.Link

/-! ### UTF-8 -/

def encodeUtf8 (cs : List Char) : List UInt8 := cs.flatMap String.utf8EncodeChar

/-- A character of which some bytes have been read. -/
structure Pending where
  /-- The bits that have been read. -/
  bits : Nat
  /-- The number of bytes to come. -/
  missing : Nat
  /-- The least value of the next byte. -/
  low : Nat
  /-- The largest value of the next byte. -/
  high : Nat

/-- What the first byte of a character begins; none if no character begins with it. -/
def Pending.ofLead (b : Nat) : Option Pending :=
  if b < 0xC2 then none
  else if b < 0xE0 then some ⟨b - 0xC0, 1, 0x80, 0xBF⟩
  else if b < 0xF0 then
    some ⟨b - 0xE0, 2, if b = 0xE0 then 0xA0 else 0x80, if b = 0xED then 0x9F else 0xBF⟩
  else if b < 0xF5 then
    some ⟨b - 0xF0, 3, if b = 0xF0 then 0x90 else 0x80, if b = 0xF4 then 0x8F else 0xBF⟩
  else none

/-- What a byte makes where a character begins: characters, and a character that is begun. -/
def startChar (b : Nat) : List (Option Char) × Option Pending :=
  if b < 0x80 then ([some (Char.ofNat b)], none)
  else match Pending.ofLead b with
    | some p => ([], some p)
    | none => ([none], none)

/-- What a byte makes behind the first bytes of a character.  A byte that does not go on with it
leaves a gap and begins anew. -/
def nextChar (p : Pending) (b : Nat) : List (Option Char) × Option Pending :=
  if p.low ≤ b ∧ b ≤ p.high then
    let bits := p.bits * 64 + (b - 0x80)
    if p.missing = 1 then ([some (Char.ofNat bits)], none)
    else ([], some ⟨bits, p.missing - 1, 0x80, 0xBF⟩)
  else
    let (made, pending) := startChar b
    (none :: made, pending)

/-- The characters of bytes behind a character that is begun, with none for each gap. -/
def decodeFrom (pending : Option Pending) : List UInt8 → List (Option Char)
  | [] => if pending.isSome then [none] else []
  | b :: rest =>
    let (made, pending) := match pending with
      | none => startChar b.toNat
      | some p => nextChar p b.toNat
    made ++ decodeFrom pending rest

/-- The characters of bytes, with none for each sequence that cannot be read. -/
def decodeUtf8 (bs : List UInt8) : List (Option Char) := decodeFrom none bs

/-- The characters of bytes, if all can be read. -/
def decodeUtf8? (bs : List UInt8) : Option (List Char) := (decodeUtf8 bs).mapM id

/-- The characters of bytes, with a sign in the place of what cannot be read. -/
def decodeUtf8Lossy (bs : List UInt8) : List Char := (decodeUtf8 bs).map (·.getD '\uFFFD')

/-! ### Percent signs -/

/-- The value of a hexadecimal digit that is given as a byte. -/
def hexByte? (b : UInt8) : Option Nat := Json.hexValue (Char.ofNat b.toNat)

/-- Replaces each percent sign with two hexadecimal digits by the byte that they write. -/
def percentDecode : List UInt8 → List UInt8
  | [] => []
  | 0x25 :: a :: b :: rest =>
    match hexByte? a, hexByte? b with
    | some x, some y => UInt8.ofNat (x * 16 + y) :: percentDecode rest
    | _, _ => 0x25 :: percentDecode (a :: b :: rest)
  | b :: rest => b :: percentDecode rest

/-- Reads a name or a value of a query: a plus sign is a space. -/
def formDecode (cs : List Char) : List Char :=
  decodeUtf8Lossy (percentDecode (encodeUtf8 (cs.map fun c => if c = '+' then ' ' else c)))

end DesignCode.Link
