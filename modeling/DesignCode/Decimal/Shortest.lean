import DesignCode.Decimal.Binary

/-!
# The fewest digits that read back

`Binary.shortest` gives the decimal with the fewest digits that lies among the reals rounding to a
double (`Binary.readsBack`), and of several such decimals the nearest one.  The search tries grids
of one, two, … seventeen digits and on each of them the two neighbours of the value; the exact
value stands in if no grid has a hit.
-/

namespace DesignCode.Decimal

/-- A decimal `digits · 10 ^ exp`. -/
structure Dec where
  digits : Nat
  exp : Int
deriving DecidableEq

/-- Compares `a · 10 ^ i` with `n · 2 ^ j`. -/
def cmpScaled (a : Nat) (i : Int) (n : Nat) (j : Int) : Ordering :=
  compare (a * Nat.pow 10 i.toNat * Nat.pow 2 (-j).toNat)
    (n * Nat.pow 2 j.toNat * Nat.pow 10 (-i).toNat)

/-- Whether `d` lies among the reals that round to `x`, the two ends counting when `m` is even. -/
def Binary.readsBack (x : Binary) (d : Dec) : Bool :=
  let lo := if x.narrowBelow then 4 * x.m - 1 else 4 * x.m - 2
  let hi := 4 * x.m + 2
  let ends := x.m % 2 = 0
  let below := cmpScaled d.digits d.exp lo (x.q - 2)
  let above := cmpScaled d.digits d.exp hi (x.q - 2)
  (below = .gt ∨ (ends ∧ below = .eq)) ∧ (above = .lt ∨ (ends ∧ above = .eq))

/-- The number of decimal digits of `n`, none for zero. -/
def digitCount (n : Nat) : Nat := if n = 0 then 0 else (Nat.toDigits 10 n).length

/-- The least `k` with `m · 2 ^ q < 10 ^ k`. -/
def Binary.scale (x : Binary) : Int :=
  if 0 ≤ x.q then digitCount (x.m * Nat.pow 2 x.q.toNat)
  else
    let places := (-x.q).toNat
    (digitCount (x.m * Nat.pow 5 places) : Int) - places

/-- `⌊m · 2 ^ q / 10 ^ e⌋`. -/
def Binary.floorAt (x : Binary) (e : Int) : Nat :=
  x.m * Nat.pow 2 x.q.toNat * Nat.pow 10 (-e).toNat /
    (Nat.pow 2 (-x.q).toNat * Nat.pow 10 e.toNat)

/-- The neighbour of the value on the grid `10 ^ e` that reads back and is nearest to it. -/
def Binary.onGrid? (x : Binary) (tie : Tie) (e : Int) : Option Dec :=
  let down : Dec := ⟨x.floorAt e, e⟩
  let up : Dec := ⟨x.floorAt e + 1, e⟩
  match x.readsBack down, x.readsBack up with
  | false, false => none
  | true, false => some down
  | false, true => some up
  | true, true =>
    match cmpScaled (down.digits + up.digits) e (2 * x.m) x.q with
    | .gt => some down
    | .lt => some up
    | .eq => match tie with
      | .away => some up
      | .toEven => if down.digits % 2 = 0 then some down else some up

/-- The exact value as a decimal. -/
def Binary.exact (x : Binary) : Dec :=
  if 0 ≤ x.q then ⟨x.m * Nat.pow 2 x.q.toNat, 0⟩
  else ⟨x.m * Nat.pow 5 (-x.q).toNat, x.q⟩

/-- Moves the trailing zeros of the digits into the exponent, at most `fuel` of them. -/
def Dec.strip : Nat → Dec → Dec
  | 0, d => d
  | fuel + 1, d =>
    if d.digits ≠ 0 ∧ d.digits % 10 = 0 then strip fuel ⟨d.digits / 10, d.exp + 1⟩ else d

/-- The decimal of fewest digits that reads back to `x`. -/
def Binary.shortest (x : Binary) (tie : Tie) : Dec :=
  if x.m = 0 then ⟨0, 0⟩
  else
    let k := x.scale
    let hit := (List.range 17).findSome? fun n => x.onGrid? tie (k - ((n : Nat) + 1 : Nat))
    (hit.getD x.exact).strip 17

end DesignCode.Decimal
