import DesignCode.Decimal.Binary

/-!
# Rounding a double to a whole double

`nearestWhole x` is the whole number nearest to `x`; a half goes away from zero, the sign is kept
(so that `-0.3` becomes `-0`), and values that are not finite stay as they are.
-/

namespace DesignCode.Decimal

/-- The whole number nearest to `x`, a half going away from zero. -/
def nearestWhole (x : Float) : Float :=
  if x.isFinite then
    let b := Binary.ofFloat x
    if 0 ≤ b.q then x
    else
      let n := Float.ofNat (b.scaled 0 .away)
      if isNegative x then -n else n
  else x

end DesignCode.Decimal
