import DesignCode.Decimal.Shortest

/-!
# Decimals as text

`plain` writes a decimal positionally, `scientific` with an exponent.  `shortest` writes a double
with the fewest digits that read back, `fixed` with a given number of places, rounding its exact
value; neither uses an exponent.
-/

namespace DesignCode.Decimal

/-- The decimal digits of `n`, most significant first. -/
def digitChars (n : Nat) : List Char := Nat.toDigits 10 n

/-- Digits with a point that leaves `places` of them behind it. -/
def pointed (ds : List Char) (places : Nat) : List Char :=
  if places = 0 then ds
  else
    let padded := List.replicate (places + 1 - ds.length) '0' ++ ds
    padded.take (padded.length - places) ++ '.' :: padded.drop (padded.length - places)

/-- The positional text of a decimal, without a point if it is whole. -/
def Dec.plain (d : Dec) : List Char :=
  if 0 ≤ d.exp then digitChars (d.digits * Nat.pow 10 d.exp.toNat)
  else pointed (digitChars d.digits) (-d.exp).toNat

/-- One digit, the others behind a point, and a signed exponent. -/
def Dec.scientific (d : Dec) : List Char :=
  let ds := digitChars d.digits
  let e := d.exp + (ds.length : Int) - 1
  let mantissa := match ds with
    | [] => []
    | [c] => [c]
    | c :: rest => c :: '.' :: rest
  mantissa ++ 'e' :: (if 0 ≤ e then '+' else '-') :: digitChars e.natAbs

/-- A sign in front of a text of a negative value. -/
def signed (x : Float) (text : List Char) : List Char :=
  if isNegative x then '-' :: text else text

/-- The name of a double that is not finite. -/
def specialName (x : Float) : List Char :=
  if x.isNaN then ['N', 'a', 'N'] else signed x ['i', 'n', 'f']

/-- A double with the fewest digits that read back; of two nearest ones the larger is taken. -/
def shortest (x : Float) : List Char :=
  if x.isFinite then signed x ((Binary.ofFloat x).shortest .away).plain else specialName x

/-- A double with `places` digits behind the point; a tie goes to the even digit. -/
def fixed (places : Nat) (x : Float) : List Char :=
  if x.isFinite then
    signed x (pointed (digitChars ((Binary.ofFloat x).scaled places .toEven)) places)
  else specialName x

end DesignCode.Decimal
