import DesignCode.Proofs.Decimal.Packing

/-!
# Values of doubles

A finite double is its size with a sign (`Binary.withSign`), and its `value` is the rational number that
it stands for.  Finite doubles are compared as their values are (`lt_iff_value_lt`).
-/

namespace DesignCode.Decimal

open Float.Model (Format UnpackedFloat)
open Float.Model.UnpackedFloat

/-! ### Sizes -/

namespace Binary

/-- The rational number that a size stands for. -/
def size (x : Binary) : ℚ := x.m * 2 ^ x.q

theorem size_nonneg (x : Binary) : 0 ≤ x.size := by
  unfold size
  positivity

theorem size_pos_iff {x : Binary} : 0 < x.size ↔ 0 < x.m := by
  have power : (0 : ℚ) < 2 ^ x.q := by positivity
  rw [size, mul_pos_iff_of_pos_right power, Nat.cast_pos]

theorem size_eq_zero_iff {x : Binary} : x.size = 0 ↔ x.m = 0 := by
  have power : (2 : ℚ) ^ x.q ≠ 0 := by positivity
  simp [size, power]

namespace IsCanonical

variable {x y : Binary}

theorem size_lt (h : x.IsCanonical) : x.size < 2 ^ (53 + x.q) := by
  have less : (x.m : ℚ) < 2 ^ 53 := by exact_mod_cast h.mantissa_lt
  rw [size, zpow_add₀ (by norm_num)]
  exact mul_lt_mul_of_pos_right less (by positivity)

theorem le_size (h : x.IsCanonical) (normal : -1074 < x.q) : 2 ^ (52 + x.q) ≤ x.size := by
  have digits : 2 ^ 52 ≤ x.m := h.normal.resolve_right normal.ne'
  have least : (2 ^ 52 : ℚ) ≤ x.m := by exact_mod_cast digits
  rw [size, zpow_add₀ (by norm_num)]
  exact mul_le_mul_of_nonneg_right least (by positivity)

/-- Of two sizes the one with the smaller exponent is the smaller one. -/
theorem size_lt_of_exponent_lt (hx : x.IsCanonical) (hy : y.IsCanonical) (less : x.q < y.q) :
    x.size < y.size := by
  have least := hx.le_exponent
  calc x.size < 2 ^ (53 + x.q) := hx.size_lt
    _ ≤ 2 ^ (52 + y.q) := zpow_le_zpow_right₀ (by norm_num) (by omega)
    _ ≤ y.size := hy.le_size (by omega)

/-- Sizes are compared by their exponents first. -/
theorem compare_eq_lt_iff (hx : x.IsCanonical) (hy : y.IsCanonical) :
    (compare x.q y.q).then (compare x.m y.m) = .lt ↔ x.size < y.size := by
  rw [Ordering.then_eq_lt, Int.compare_eq_lt, Int.compare_eq_eq, Nat.compare_eq_lt]
  rcases lt_trichotomy x.q y.q with less | same | greater
  · simp [less, hx.size_lt_of_exponent_lt hy less]
  · have power : (0 : ℚ) < 2 ^ y.q := by positivity
    rw [size, size, same, mul_lt_mul_iff_left₀ power, Nat.cast_lt]
    simp
  · have := hy.size_lt_of_exponent_lt hx greater
    simp [greater.not_gt, greater.ne', this.le]

/-- Sizes that stand for one number are the same. -/
theorem eq_of_size_eq (hx : x.IsCanonical) (hy : y.IsCanonical) (same : x.size = y.size) : x = y := by
  have exponent : x.q = y.q := by
    rcases lt_trichotomy x.q y.q with less | same | greater
    · have := hx.size_lt_of_exponent_lt hy less
      linarith
    · exact same
    · have := hy.size_lt_of_exponent_lt hx greater
      linarith
  have mantissa : x.m = y.m := by
    have power : (2 : ℚ) ^ y.q ≠ 0 := by positivity
    rw [size, size, exponent, mul_left_inj' power] at same
    exact_mod_cast same
  have narrow : x.narrowBelow = y.narrowBelow := by
    rw [Bool.eq_iff_iff, hx.narrow_iff, hy.narrow_iff, mantissa, exponent]
  cases x
  cases y
  simp_all

end IsCanonical

/-! ### Doubles of a size -/

/-- The double of a size with a sign. -/
def withSign (s : Sign) (x : Binary) : Float := .ofModel (.pack (x.unpacked s))

theorem unpacked_of_pos {x : Binary} (pos : 0 < x.m) (s : Sign) : x.unpacked s = .finite s x.m x.q pos :=
  dif_pos pos

theorem unpacked_of_zero {x : Binary} (zero : x.m = 0) (s : Sign) : x.unpacked s = .zero s :=
  dif_neg (by omega)

variable {x : Binary}

theorem unpack_withSign (h : x.m ≠ 0 → x.IsCanonical) (s : Sign) :
    (x.withSign s).toModel.unpack = x.unpacked s := by
  rcases Nat.eq_zero_or_pos x.m with zero | pos
  · rw [withSign, unpacked_of_zero zero]
    cases s <;> rfl
  · have canonical := h pos.ne'
    rw [withSign, unpacked_of_pos pos]
    exact unpack_pack canonical s

theorem isFinite_withSign (h : x.m ≠ 0 → x.IsCanonical) (s : Sign) : (x.withSign s).isFinite = true := by
  show (x.withSign s).toModel.unpack.isFinite = true
  rw [unpack_withSign h, unpacked]
  split_ifs <;> rfl

end Binary

theorem withSign_ofFloat {x : Float} (finite : x.isFinite = true) :
    (Binary.ofFloat x).withSign (signOf x) = x :=
  pack_unpacked finite

/-- The size and the sign of a double are those that it is made of. -/
theorem ofFloat_withSign {x : Binary} (h : x.IsCanonical) (s : Sign) :
    Binary.ofFloat (x.withSign s) = x ∧ signOf (x.withSign s) = s := by
  have some : x.m ≠ 0 → x.IsCanonical := fun _ => h
  have finite := Binary.isFinite_withSign some s
  have same := (unpack_eq finite).symm.trans (Binary.unpack_withSign some s)
  rw [Binary.unpacked_of_pos h.pos, Binary.unpacked] at same
  split_ifs at same with pos
  injection same with sign mantissa exponent
  refine ⟨(isCanonical_ofFloat finite pos).eq_of_size_eq h ?_, sign⟩
  rw [Binary.size, Binary.size, mantissa, exponent]

/-! ### Values -/

/-- The rational number that a finite double stands for. -/
def value (x : Float) : ℚ := if isNegative x then -(Binary.ofFloat x).size else (Binary.ofFloat x).size

/-- A size with a sign as a rational number. -/
def signedSize : Sign → Binary → ℚ
  | .positive, x => x.size
  | .negative, x => -x.size

theorem value_eq (x : Float) : value x = signedSize (signOf x) (Binary.ofFloat x) := by
  unfold value signOf
  split_ifs <;> rfl

theorem unpacked_lt_iff {x y : Binary} (hx : x.m ≠ 0 → x.IsCanonical) (hy : y.m ≠ 0 → y.IsCanonical)
    (s t : Sign) :
    (x.unpacked s).lt (y.unpacked t) = true ↔ signedSize s x < signedSize t y := by
  have zero {z : Binary} (none : z.m = 0) (u : Sign) : signedSize u z = 0 := by
    cases u <;> simp [signedSize, Binary.size_eq_zero_iff, none]
  rcases Nat.eq_zero_or_pos x.m with xZero | xPos <;> rcases Nat.eq_zero_or_pos y.m with yZero | yPos
  · rw [zero xZero, zero yZero, Binary.unpacked_of_zero xZero, Binary.unpacked_of_zero yZero]
    simp [UnpackedFloat.lt, UnpackedFloat.compare]
  · have size := Binary.size_pos_iff.2 yPos
    rw [zero xZero, Binary.unpacked_of_zero xZero, Binary.unpacked_of_pos yPos]
    cases t <;> simp [UnpackedFloat.lt, UnpackedFloat.compare, signedSize, size, size.le]
  · have size := Binary.size_pos_iff.2 xPos
    rw [zero yZero, Binary.unpacked_of_zero yZero, Binary.unpacked_of_pos xPos]
    cases s <;> simp [UnpackedFloat.lt, UnpackedFloat.compare, signedSize, size, size.le]
  · have xSize := Binary.size_pos_iff.2 xPos
    have ySize := Binary.size_pos_iff.2 yPos
    have order := (hx xPos.ne').compare_eq_lt_iff (hy yPos.ne')
    have turned : ((compare x.q y.q).then (compare x.m y.m)).swap = .lt ↔ y.size < x.size := by
      rw [Ordering.swap_then, Int.compare_swap, Nat.compare_swap]
      exact (hy yPos.ne').compare_eq_lt_iff (hx xPos.ne')
    rw [Binary.unpacked_of_pos xPos, Binary.unpacked_of_pos yPos]
    cases s <;> cases t
    · simp only [UnpackedFloat.lt, UnpackedFloat.compare, signedSize, neg_lt_neg_iff, ← turned]
      simp
    · simp [UnpackedFloat.lt, UnpackedFloat.compare, signedSize]
      linarith
    · simp [UnpackedFloat.lt, UnpackedFloat.compare, signedSize]
      linarith
    · simp [UnpackedFloat.lt, UnpackedFloat.compare, signedSize, order]

/-- Finite doubles are compared as their values are. -/
theorem lt_iff_value_lt {x y : Float} (hx : x.isFinite = true) (hy : y.isFinite = true) :
    x < y ↔ value x < value y := by
  rw [lt_iff, unpack_eq hx, unpack_eq hy, value_eq, value_eq]
  exact unpacked_lt_iff (fun ne => isCanonical_ofFloat hx (Nat.pos_of_ne_zero ne))
    (fun ne => isCanonical_ofFloat hy (Nat.pos_of_ne_zero ne)) _ _

end DesignCode.Decimal
