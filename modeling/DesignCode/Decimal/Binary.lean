/-!
# Floating point values as exact binary fractions

A finite double is `m · 2 ^ q` with a sign.  `Binary.ofBits` reads `m` and `q` off the bits of the
double, `Binary.ofFloat` off the double itself.  All digits are chosen from these naturals, so no
rounding happens between a value and its text.
-/

namespace DesignCode.Decimal

/-- The size of a finite double: `m · 2 ^ q`. -/
structure Binary where
  m : Nat
  q : Int
  /-- The gap to the next smaller double is half the gap to the next larger one. -/
  narrowBelow : Bool

/-- Reads the bits of a finite double; the sign bit is ignored. -/
def Binary.ofBits (b : UInt64) : Binary :=
  let e := ((b >>> 52) &&& 0x7FF).toNat
  let f := (b &&& 0xFFFFFFFFFFFFF).toNat
  if e = 0 then ⟨f, -1074, false⟩ else ⟨Nat.pow 2 52 + f, (e : Int) - 1075, f = 0 ∧ 1 < e⟩

/-- The size of a finite double. -/
def Binary.ofFloat (x : Float) : Binary := .ofBits x.toBits

/-- Whether the sign bit is set, which also tells `-0` from `0`. -/
def isNegative (x : Float) : Bool := x.toBits >>> 63 = 1

/-- What to do with a value halfway between two candidates. -/
inductive Tie where
  /-- The candidate with the even last digit. -/
  | toEven
  /-- The candidate farther from zero. -/
  | away
deriving DecidableEq

/-- The quotient `num / den` rounded to the nearest natural. -/
def roundDiv (num den : Nat) (tie : Tie) : Nat :=
  let q := num / den
  let r := num % den
  if 2 * r < den then q
  else if den < 2 * r then q + 1
  else match tie with
    | .away => q + 1
    | .toEven => if q % 2 = 0 then q else q + 1

/-- `m · 2 ^ q · 10 ^ places` rounded to the nearest natural. -/
def Binary.scaled (x : Binary) (places : Nat) (tie : Tie) : Nat :=
  roundDiv (x.m * Nat.pow 10 places * Nat.pow 2 x.q.toNat) (Nat.pow 2 (-x.q).toNat) tie

end DesignCode.Decimal
