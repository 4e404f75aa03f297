import DesignCode.Link.Domain

/-!
# Hosts

A host is a domain name or an address made of numbers.  `Host.ofText` reads the host of a scheme
that is known to name hosts; other schemes may have any name for a host (`Host.ofOpaque`).
-/

namespace DesignCode.Link

/-- What is wrong with a link. -/
inductive UrlFault where
  | noScheme
  | emptyHost
  | invalidPort
  | invalidDomain
  | invalidIpv4
  | invalidIpv6
  | invalidHostCharacter
deriving DecidableEq

def UrlFault.message : UrlFault → String
  | noScheme => "relative URL without a base"
  | emptyHost => "empty host"
  | invalidPort => "invalid port number"
  | invalidDomain => "invalid international domain name"
  | invalidIpv4 => "invalid IPv4 address"
  | invalidIpv6 => "invalid IPv6 address"
  | invalidHostCharacter => "invalid domain character"

/-- The host of a link. -/
inductive Host where
  | name (cs : List Char)
  | ipv4 (numbers : List Nat)
  /-- An address between brackets, as it is written. -/
  | ipv6 (cs : List Char)

namespace Host

/-! ### Addresses of four bytes -/

/-- A number of the given base; none if another character is among the digits. -/
def number? (base : Nat) (cs : List Char) : Option Nat :=
  cs.foldlM (fun n c => do
    let d ← Json.hexValue c
    if d < base then some (n * base + d) else none) 0

/-- A part of an address: `0x` leads a hexadecimal number, `0` an octal one. -/
def ipv4Part? : List Char → Option Nat
  | [] => none
  | '0' :: c :: rest => if c = 'x' ∨ c = 'X' then number? 16 rest else number? 8 (c :: rest)
  | cs => number? 10 cs

/-- The parts of a name; an empty part at the end does not count. -/
def ipv4Parts (cs : List Char) : List (List Char) :=
  let parts := Text.splitAt (· = '.') cs
  if parts.getLast? = some [] then parts.dropLast else parts

/-- Whether a name ends in a number, so that it has to be an address. -/
def endsInNumber (cs : List Char) : Bool :=
  match (ipv4Parts cs).getLast? with
  | none => false
  | some part => (part ≠ [] ∧ part.all Char.isDigit) ∨ (ipv4Part? part).isSome

/-- The numbers of an address: each but the last one is a byte, and the last one fills the rest. -/
def ipv4? (cs : List Char) : Option (List Nat) := do
  let parts := ipv4Parts cs
  if 4 < parts.length then none
  else
    let numbers ← parts.mapM ipv4Part?
    if numbers.dropLast.all (· < 256) ∧
        numbers.getLast?.any (· < Nat.pow 256 (5 - numbers.length)) then some numbers
    else none

/-! ### Addresses of sixteen bytes -/

/-- Whether a text is a byte in decimal digits without a leading zero. -/
def isByte (cs : List Char) : Bool :=
  cs ≠ [] ∧ cs.all Char.isDigit ∧ (cs.length = 1 ∨ cs.head? ≠ some '0') ∧
    (number? 10 cs).any (· < 256)

/-- Whether a text is four bytes with points between. -/
def isByteQuad (cs : List Char) : Bool :=
  let parts := Text.splitAt (· = '.') cs
  parts.length = 4 ∧ parts.all isByte

/-- Whether the rest of an address behind `pieces` pieces is right; `compressed` says that a gap
was left out. -/
def isIpv6Rest (pieces : Nat) (compressed : Bool) : Nat → List Char → Bool
  | 0, _ => false
  | _ + 1, [] => compressed ∨ pieces = 8
  | fuel + 1, c :: cs =>
    if 8 ≤ pieces then false
    else if c = ':' then ¬ compressed ∧ isIpv6Rest (pieces + 1) true fuel cs
    else
      let digits := ((c :: cs).take 4).takeWhile fun d => (Json.hexValue d).isSome
      match (c :: cs).drop digits.length with
      | [] => isIpv6Rest (pieces + 1) compressed fuel []
      | '.' :: _ =>
        digits ≠ [] ∧ pieces ≤ 6 ∧ isByteQuad (c :: cs) ∧ (compressed ∨ pieces = 6)
      | ':' :: rest => rest ≠ [] ∧ isIpv6Rest (pieces + 1) compressed fuel rest
      | _ => false

/-- Whether a text is an address of sixteen bytes. -/
def isIpv6 (cs : List Char) : Bool :=
  match cs with
  | ':' :: ':' :: rest => isIpv6Rest 1 true (rest.length + 2) rest
  | ':' :: _ => false
  | cs => 2 ≤ cs.length ∧ isIpv6Rest 0 false (cs.length + 2) cs

/-- Reads an address behind its opening bracket. -/
def ofBracketed (cs : List Char) : Except UrlFault Host :=
  if cs.getLast? = some ']' ∧ isIpv6 cs.dropLast then .ok (ipv6 cs.dropLast)
  else .error .invalidIpv6

/-! ### Hosts -/

/-- Reads the host of a scheme that names hosts. -/
def ofText (cs : List Char) : Except UrlFault Host :=
  match cs with
  | '[' :: rest => ofBracketed rest
  | cs =>
    match Domain.ofText cs with
    | none => .error .invalidDomain
    | some [] => .error .emptyHost
    | some domain =>
      if endsInNumber domain then
        match ipv4? domain with
        | some numbers => .ok (ipv4 numbers)
        | none => .error .invalidIpv4
      else .ok (name domain)

/-- Whether no host may hold the character. -/
def isForbidden (c : Char) : Bool :=
  c ∈ ['\x00', '\t', '\n', '\r', ' ', '#', '/', ':', '<', '>', '?', '@', '[', '\\', ']', '^', '|']

/-- Reads the host of any other scheme, which may be empty. -/
def ofOpaque (cs : List Char) : Except UrlFault Host :=
  match cs with
  | '[' :: rest => ofBracketed rest
  | cs => if cs.any isForbidden then .error .invalidHostCharacter else .ok (name cs)

end Host

end DesignCode.Link
