import DesignCode.Proofs.Decimal.Scientific
import DesignCode.Proofs.Decimal.Value

/-!
# The nearest double

Every number in the range of doubles has a nearest one (`Binary.exists_isNearestTo`), and products and
quotients of doubles are the doubles nearest to their exact values (`withSign_mul`, `withSign_div`).
What a quotient is rounded to is told by how far it is from the quotient (`isNearest_roundDiv`,
`isNearestUp_roundDiv`).
-/

namespace DesignCode.Decimal

open Float.Model (Format UnpackedFloat)
open Float.Model.UnpackedFloat

namespace Binary

/-! ### Sizes of doubles -/

/-- The size of a zero. -/
def zero : Binary := ⟨0, -1074, false⟩

theorem size_zero : zero.size = 0 := size_eq_zero_iff.2 rfl

/-- A size that a finite double has. -/
def IsSize (x : Binary) : Prop := x = zero ∨ x.IsCanonical

theorem IsSize.canonical {x : Binary} (h : x.IsSize) (ne : x.m ≠ 0) : x.IsCanonical := by
  rcases h with rfl | canonical
  · exact absurd rfl ne
  · exact canonical

end Binary

theorem isSize_ofFloat {x : Float} (finite : x.isFinite = true) : (Binary.ofFloat x).IsSize := by
  rcases Nat.eq_zero_or_pos (Binary.ofFloat x).m with zero | pos
  · left
    unfold Binary.ofFloat Binary.ofBits at zero ⊢
    dsimp only at zero ⊢
    split_ifs at zero ⊢ with subnormal
    · rw [show (x.toBits &&& 0xFFFFFFFFFFFFF).toNat = 0 from zero]
      rfl
    · simp at zero
  · exact .inr (isCanonical_ofFloat finite pos)

theorem ofFloat_zero (s : Sign) : Binary.ofFloat (Binary.zero.withSign s) = .zero ∧
    signOf (Binary.zero.withSign s) = s := by
  cases s <;> exact ⟨rfl, rfl⟩

theorem ofFloat_withSign_of_isSize {x : Binary} (h : x.IsSize) (s : Sign) :
    Binary.ofFloat (x.withSign s) = x ∧ signOf (x.withSign s) = s := by
  rcases h with rfl | canonical
  · exact ofFloat_zero s
  · exact ofFloat_withSign canonical s

namespace Binary

variable {x : Binary} {v : ℚ}

/-! ### How near -/

/-- A double is at most half a unit of its last place away from what rounds to it. -/
theorem Rounds.near (h : x.Rounds v) : |x.size - v| ≤ 2 ^ x.q / 2 := by
  have lower := (le_lower x).trans h.lower_le
  have upper := h.le_upper
  rw [Binary.upper] at upper
  rw [abs_le, size]
  constructor <;> linarith

/-- What rounds to a double is at least half of it. -/
theorem IsCanonical.size_le (h : x.IsCanonical) (rounds : x.Rounds v) : x.size ≤ 2 * v := by
  have one : (1 : ℚ) ≤ x.m := by exact_mod_cast h.pos
  have unit : (2 : ℚ) ^ x.q ≤ x.size := by
    rw [size]
    exact le_mul_of_one_le_left (by positivity) one
  have near := (abs_le.1 rounds.near).2
  linarith

theorem IsCanonical.exponent_lt (h : x.IsCanonical) {k : ℤ} (least : -1074 < k)
    (less : x.size < 2 ^ (52 + k)) : x.q < k := by
  by_contra above
  have digits : 2 ^ (52 + x.q) ≤ x.size := h.le_size (by omega)
  have exponent := lt_of_zpow_lt (digits.trans_lt less)
  omega

/-- A multiple of a power of two is one of every smaller power. -/
theorem exists_multiple {p q : ℤ} (le : q ≤ p) (a : ℤ) : ∃ b : ℤ, (a * 2 ^ p : ℚ) = b * 2 ^ q := by
  obtain ⟨k, rfl⟩ : ∃ k : ℕ, p = q + k := ⟨(p - q).toNat, by omega⟩
  refine ⟨a * 2 ^ k, ?_⟩
  rw [zpow_add₀ (by norm_num), zpow_natCast]
  push_cast
  ring

/-- A double is a multiple of the unit of its last place, so that it differs from other multiples by at
least that unit. -/
theorem add_unit_le {a p : ℤ} (le : x.q ≤ p) (less : x.size < a * 2 ^ p) :
    x.size + 2 ^ x.q ≤ a * 2 ^ p := by
  obtain ⟨b, multiple⟩ := exists_multiple le a
  have unit : (0 : ℚ) < 2 ^ x.q := by positivity
  rw [multiple, size] at less ⊢
  have mantissa : (x.m : ℤ) < b := by exact_mod_cast lt_of_mul_lt_mul_right less unit.le
  have next : (x.m + 1 : ℚ) ≤ b := by exact_mod_cast mantissa
  linarith [mul_le_mul_of_nonneg_right next unit.le]

theorem le_sub_unit {a p : ℤ} (le : x.q ≤ p) (less : a * 2 ^ p < x.size) :
    a * 2 ^ p ≤ x.size - 2 ^ x.q := by
  obtain ⟨b, multiple⟩ := exists_multiple le a
  have unit : (0 : ℚ) < 2 ^ x.q := by positivity
  rw [multiple, size] at less ⊢
  have mantissa : b < (x.m : ℤ) := by exact_mod_cast lt_of_mul_lt_mul_right less unit.le
  have next : (b + 1 : ℚ) ≤ x.m := by exact_mod_cast mantissa
  linarith [mul_le_mul_of_nonneg_right next unit.le]

end Binary

/-! ### Naturals -/

/-- The nearest natural, a half going up. -/
structure IsNearestUp (m : ℕ) (w : ℚ) : Prop where
  lower : m - 1 / 2 ≤ w
  upper : w < m + 1 / 2

/-- A quotient is a natural and a fraction, and rounding asks whether the fraction is above a half. -/
theorem roundDiv_cases (num : ℕ) {den : ℕ} (pos : 0 < den) (tie : Tie) :
    ∃ (q : ℕ) (f : ℚ), (num / den : ℚ) = q + f ∧ 0 ≤ f ∧ f < 1 ∧
      (f < 1 / 2 ∧ roundDiv num den tie = q ∨ 1 / 2 < f ∧ roundDiv num den tie = q + 1 ∨
        f = 1 / 2 ∧ roundDiv num den tie = match tie with
          | .away => q + 1
          | .toEven => if q % 2 = 0 then q else q + 1) := by
  have pos' : (0 : ℚ) < den := by exact_mod_cast pos
  have whole : (num : ℚ) = den * (num / den : ℕ) + (num % den : ℕ) := by
    exact_mod_cast (Nat.div_add_mod num den).symm
  have less : ((num % den : ℕ) : ℚ) < den := by exact_mod_cast Nat.mod_lt num pos
  refine ⟨num / den, (num % den : ℕ) / den, ?_, by positivity, (div_lt_one pos').2 less, ?_⟩
  · field_simp
    linarith
  · rcases lt_trichotomy (2 * (num % den)) den with below | same | above
    · refine .inl ⟨?_, if_pos below⟩
      have : (2 * (num % den : ℕ) : ℚ) < den := by exact_mod_cast below
      rw [div_lt_iff₀ pos']
      linarith
    · refine .inr (.inr ⟨?_, (if_neg (by omega)).trans (if_neg (by omega))⟩)
      have : (2 * (num % den : ℕ) : ℚ) = den := by exact_mod_cast same
      rw [div_eq_iff pos'.ne']
      linarith
    · refine .inr (.inl ⟨?_, (if_neg (by omega)).trans (if_pos above)⟩)
      have : (den : ℚ) < 2 * (num % den : ℕ) := by exact_mod_cast above
      rw [lt_div_iff₀ pos']
      linarith

/-- Rounding with ties to even gives the nearest natural. -/
theorem isNearest_roundDiv (num : ℕ) {den : ℕ} (pos : 0 < den) :
    IsNearest (roundDiv num den .toEven) (num / den) := by
  obtain ⟨q, f, value, nonneg, less, below | above | half⟩ := roundDiv_cases num pos .toEven
  all_goals have next : ((q + 1 : ℕ) : ℚ) = q + 1 := Nat.cast_succ q
  · rw [value, below.2]
    exact ⟨.inl (by linarith), .inl (by linarith)⟩
  · rw [value, above.2]
    exact ⟨.inl (by linarith), .inl (by linarith)⟩
  · rw [value, half.2, half.1]
    dsimp only
    split_ifs with even
    · exact ⟨.inl (by linarith), .inr ⟨even, rfl⟩⟩
    · exact ⟨.inr ⟨by omega, by linarith⟩, .inl (by linarith)⟩

/-- Rounding with ties away from zero gives the nearest natural, a half going up. -/
theorem isNearestUp_roundDiv (num : ℕ) {den : ℕ} (pos : 0 < den) :
    IsNearestUp (roundDiv num den .away) (num / den) := by
  obtain ⟨q, f, value, nonneg, less, below | above | half⟩ := roundDiv_cases num pos .away
  all_goals have next : ((q + 1 : ℕ) : ℚ) = q + 1 := Nat.cast_succ q
  · rw [value, below.2]
    constructor <;> linarith
  · rw [value, above.2]
    constructor <;> linarith
  · rw [value, half.2, half.1]
    constructor <;> dsimp only <;> linarith

theorem IsNearestUp.eq {m n : ℕ} {w : ℚ} (hm : IsNearestUp m w) (hn : IsNearestUp n w) : m = n := by
  have le {a b : ℕ} (ha : IsNearestUp a w) (hb : IsNearestUp b w) : a < b + 1 := by
    have : (a : ℚ) < b + 1 := by linarith [ha.lower, hb.upper]
    exact_mod_cast this
  have := le hm hn
  have := le hn hm
  omega

theorem exists_isNearest {w : ℚ} (nonneg : 0 ≤ w) : ∃ m : ℕ, IsNearest m w := by
  have den : (0 : ℚ) < w.den := by exact_mod_cast w.den_pos
  have num : ((w.num.toNat : ℕ) : ℚ) / w.den = w := by
    have : ((w.num.toNat : ℤ) : ℚ) = w.num := by
      rw [Int.toNat_of_nonneg (Rat.num_nonneg.2 nonneg)]
    rw [← Int.cast_natCast, this]
    exact Rat.num_div_den w
  exact ⟨_, num ▸ isNearest_roundDiv w.num.toNat w.den_pos⟩

/-- A double times a power of ten is rounded to a natural. -/
theorem Binary.scaled_value (x : Binary) (places : ℕ) :
    ((x.m * 10 ^ places * 2 ^ x.q.toNat : ℕ) : ℚ) / (2 ^ (-x.q).toNat : ℕ) = x.size * 10 ^ places := by
  have power := zpow_mul_toNat (by norm_num : (2 : ℚ) ≠ 0) x.q
  rw [size, div_eq_iff (by positivity)]
  push_cast
  rw [← power]
  ring

theorem Binary.isNearest_scaled (x : Binary) (places : ℕ) :
    IsNearest (x.scaled places .toEven) (x.size * 10 ^ places) := by
  rw [← scaled_value]
  exact isNearest_roundDiv _ (Nat.two_pow_pos _)

theorem Binary.isNearestUp_scaled (x : Binary) (places : ℕ) :
    IsNearestUp (x.scaled places .away) (x.size * 10 ^ places) := by
  rw [← scaled_value]
  exact isNearestUp_roundDiv _ (Nat.two_pow_pos _)

/-! ### The nearest double -/

namespace Binary

/-- A size that no other size of a double is nearer to the number than. -/
def IsNearestTo (x : Binary) (v : ℚ) : Prop := v = 0 ∧ x = zero ∨ x.IsCanonical ∧ x.Rounds v

theorem IsNearestTo.isSize {x : Binary} {v : ℚ} (h : x.IsNearestTo v) : x.IsSize :=
  h.imp And.right And.left

/-- The size of a mantissa and an exponent. -/
def ofParts (m : ℕ) (q : ℤ) : Binary := ⟨m, q, m = 2 ^ 52 ∧ -1074 < q⟩

/-- The double of the nearest mantissa is the nearest double, unless the mantissa has a digit too many. -/
theorem rounds_ofParts {m : ℕ} {q : ℤ} {v : ℚ} (nearest : IsNearest m (v / 2 ^ q))
    (digits : q = -1074 ∨ 2 ^ (52 + q) ≤ v) : (ofParts m q).Rounds v := by
  have unit : (0 : ℚ) < 2 ^ q := by positivity
  obtain ⟨lower, upper⟩ := nearest
  rw [lt_div_iff₀ unit, div_eq_iff unit.ne'] at lower
  rw [div_lt_iff₀ unit, div_eq_iff unit.ne'] at upper
  constructor
  · by_cases narrow : m = 2 ^ 52 ∧ -1074 < q
    · left
      have least : 2 ^ (52 + q) ≤ v := digits.resolve_left narrow.2.ne'
      have flag : (ofParts m q).narrowBelow = true := decide_eq_true narrow
      rw [IsCanonical.two_zpow_eq] at least
      rw [Binary.lower, flag, if_pos rfl]
      show ((m : ℚ) - 1 / 4) * 2 ^ q < v
      rw [narrow.1]
      push_cast
      linarith
    · have flag : (ofParts m q).narrowBelow = false := decide_eq_false narrow
      rw [Binary.lower, flag, if_neg (by decide)]
      exact lower
  · exact upper

/-- The last numbers before a power of two round to it. -/
theorem rounds_twoPow {q : ℤ} (least : -1074 ≤ q) {v : ℚ} (lower : (2 ^ 53 - 1 / 2) * 2 ^ q ≤ v)
    (upper : v < 2 ^ (53 + q)) : (ofParts (2 ^ 52) (q + 1)).Rounds v := by
  have unit : (0 : ℚ) < 2 ^ q := by positivity
  have flag : (ofParts (2 ^ 52) (q + 1)).narrowBelow = true := decide_eq_true ⟨rfl, by omega⟩
  have next : (2 : ℚ) ^ (q + 1) = 2 * 2 ^ q := by
    rw [zpow_add_one₀ (by norm_num), mul_comm]
  constructor
  · have ends : (ofParts (2 ^ 52) (q + 1)).lower = (2 ^ 53 - 1 / 2) * 2 ^ q := by
      rw [Binary.lower, flag, if_pos rfl]
      show (((2 ^ 52 : ℕ) : ℚ) - 1 / 4) * 2 ^ (q + 1) = _
      rw [next]
      push_cast
      ring
    rw [ends]
    exact lower.lt_or_eq.imp_right fun same => ⟨(by norm_num : 2 ^ 52 % 2 = 0), same.symm⟩
  · left
    rw [show 53 + q = 52 + (q + 1) by ring, IsCanonical.two_zpow_eq] at upper
    show v < (((2 ^ 52 : ℕ) : ℚ) + 1 / 2) * 2 ^ (q + 1)
    rw [next] at upper ⊢
    push_cast
    linarith

theorem isCanonical_ofParts {m : ℕ} {q : ℤ} (pos : 0 < m) (less : m < 2 ^ 53) (least : -1074 ≤ q)
    (most : q ≤ 971) (normal : 2 ^ 52 ≤ m ∨ q = -1074) : (ofParts m q).IsCanonical where
  pos := pos
  mantissa_lt := less
  le_exponent := least
  exponent_le := most
  normal := normal
  narrow_iff := decide_eq_true_iff

/-- A number in the range of doubles has 53 digits left of the last place of some exponent, or fewer if the
exponent is the least. -/
theorem exists_exponent {v : ℚ} (least : 2 ^ (-1074 : ℤ) ≤ v) (most : v < 2 ^ (1023 : ℤ)) :
    ∃ q : ℤ, -1074 ≤ q ∧ q < 971 ∧ (q = -1074 ∨ 2 ^ (52 + q) ≤ v) ∧ v < 2 ^ (53 + q) := by
  have pos : 0 < v := lt_of_lt_of_le (by positivity) least
  have atLeast : (2 : ℚ) ^ Int.log 2 v ≤ v := by
    exact_mod_cast Int.zpow_log_le_self (b := 2) (by norm_num) pos
  have lessThan : v < (2 : ℚ) ^ (Int.log 2 v + 1) := by
    exact_mod_cast Int.lt_zpow_succ_log_self (b := 2) (by norm_num) v
  have above := lt_of_zpow_lt (atLeast.trans_lt most)
  have below := lt_of_zpow_lt (least.trans_lt lessThan)
  refine ⟨max (Int.log 2 v - 52) (-1074), le_max_right _ _, by omega, ?_, ?_⟩
  · rcases le_or_gt (Int.log 2 v - 52) (-1074) with tiny | large
    · exact .inl (max_eq_right tiny)
    · exact .inr ((zpow_le_zpow_right₀ (by norm_num) (by omega)).trans atLeast)
  · exact lessThan.trans_le (zpow_le_zpow_right₀ (by norm_num) (by omega))

/-- The nearest mantissa for such an exponent is one of a double, or has a digit too many. -/
theorem mantissa_bounds {m : ℕ} {q : ℤ} {v : ℚ} (nearest : IsNearest m (v / 2 ^ q))
    (least : 2 ^ (-1074 : ℤ) ≤ v) (digits : q = -1074 ∨ 2 ^ (52 + q) ≤ v) (fits : v < 2 ^ (53 + q)) :
    0 < m ∧ m ≤ 2 ^ 53 ∧ (2 ^ 52 ≤ m ∨ q = -1074) := by
  have unit : (0 : ℚ) < 2 ^ q := by positivity
  have normal : 2 ^ 52 ≤ m ∨ q = -1074 := by
    refine digits.symm.imp_left fun enough => nearest.ge_of_ge ?_
    rw [le_div_iff₀ unit]
    rw [IsCanonical.two_zpow_eq] at enough
    exact_mod_cast enough
  refine ⟨?_, nearest.le_of_le ?_, normal⟩
  · rcases normal with normal | lowest
    · omega
    · rw [← lowest] at least
      refine nearest.ge_of_ge (n := 1) ?_
      rwa [le_div_iff₀ unit, Nat.cast_one, one_mul]
  · rw [zpow_add₀ (by norm_num)] at fits
    rw [div_le_iff₀ unit]
    exact_mod_cast fits.le

/-- Every number in the range of doubles has a nearest double. -/
theorem exists_isNearestTo {v : ℚ} (least : v = 0 ∨ 2 ^ (-1074 : ℤ) ≤ v) (most : v < 2 ^ (1023 : ℤ)) :
    ∃ x : Binary, x.IsNearestTo v := by
  rcases least with rfl | least
  · exact ⟨zero, .inl ⟨rfl, rfl⟩⟩
  obtain ⟨q, lowest, highest, digits, fits⟩ := exists_exponent least most
  have pos : 0 < v := lt_of_lt_of_le (by positivity) least
  obtain ⟨m, nearest⟩ := exists_isNearest (div_nonneg pos.le (by positivity : (0 : ℚ) ≤ 2 ^ q))
  obtain ⟨some, le, normal⟩ := mantissa_bounds nearest least digits fits
  rcases le.lt_or_eq with less | rfl
  · exact ⟨_, .inr ⟨isCanonical_ofParts some less lowest (by omega) normal,
      rounds_ofParts nearest digits⟩⟩
  · -- the mantissa is rounded up to a power of two
    have canonical : (ofParts (2 ^ 52) (q + 1)).IsCanonical :=
      isCanonical_ofParts (by norm_num) (by norm_num) (by omega) (by omega) (.inl le_rfl)
    have lower := nearest.lower_le
    rw [le_div_iff₀ (by positivity)] at lower
    exact ⟨_, .inr ⟨canonical, rounds_twoPow lowest (by exact_mod_cast lower) fits⟩⟩

theorem IsCanonical.size_pos {x : Binary} (h : x.IsCanonical) : 0 < x.size := size_pos_iff.2 h.pos

/-- Only the zero is nearest to zero. -/
theorem IsNearestTo.eq_zero {x : Binary} (h : x.IsNearestTo 0) : x = zero := by
  rcases h with ⟨-, same⟩ | ⟨canonical, rounds⟩
  · exact same
  · have := canonical.size_le rounds
    have := canonical.size_pos
    linarith

theorem IsNearestTo.rounds {x : Binary} {v : ℚ} (h : x.IsNearestTo v) (ne : v ≠ 0) :
    x.IsCanonical ∧ x.Rounds v :=
  h.resolve_left fun none => ne none.1

theorem IsSize.isNearestTo_size {x : Binary} (h : x.IsSize) : x.IsNearestTo x.size := by
  rcases h with rfl | canonical
  · exact .inl ⟨size_zero, rfl⟩
  · exact .inr ⟨canonical, x.rounds_value⟩

end Binary

/-! ### Arithmetic -/

open Binary

section

variable {x y z : Binary} (s t : Sign)

theorem withSign_of_pos {x : Binary} (pos : 0 < x.m) (s : Sign) :
    x.withSign s = .ofModel (.pack (.finite s x.m x.q pos)) := by
  rw [withSign, unpacked_of_pos pos]

theorem unpack_zero_withSign : (zero.withSign s).toModel.unpack = .zero s := by
  rw [unpack_withSign fun ne => absurd rfl ne, unpacked_of_zero rfl]

theorem unpack_canonical_withSign (h : x.IsCanonical) :
    (x.withSign s).toModel.unpack = .finite s x.m x.q h.pos := by
  rw [unpack_withSign fun _ => h, unpacked_of_pos h.pos]

/-- A product is the double nearest to the product of the values, with the product of the signs. -/
theorem withSign_mul (hx : x.IsSize) (hy : y.IsSize) (digits : 2 ^ 52 ≤ x.m ∨ 2 ^ 52 ≤ y.m)
    (hz : z.IsNearestTo (x.size * y.size)) : x.withSign s * y.withSign t = z.withSign (s * t) := by
  show Float.ofModel (.pack (UnpackedFloat.mul .binary64 _ _)) = _
  rcases hx with rfl | hx
  · rw [size_zero, zero_mul] at hz
    rw [hz.eq_zero, unpack_zero_withSign]
    rcases hy with rfl | hy
    · rw [unpack_zero_withSign]
      rfl
    · rw [unpack_canonical_withSign t hy]
      rfl
  rcases hy with rfl | hy
  · rw [size_zero, mul_zero] at hz
    rw [hz.eq_zero, unpack_zero_withSign, unpack_canonical_withSign s hx]
    rfl
  · obtain ⟨canonical, rounds⟩ := hz.rounds (mul_pos hx.size_pos hy.size_pos).ne'
    have enough : 2 ^ 52 ≤ x.m * y.m :=
      digits.elim (fun le => le.trans (Nat.le_mul_of_pos_right _ hy.pos))
        fun le => le.trans (Nat.le_mul_of_pos_left _ hx.pos)
    rw [unpack_canonical_withSign s hx, unpack_canonical_withSign t hy,
      mul_of_rounds s t canonical enough rounds, withSign_of_pos canonical.pos]

/-- A quotient is the double nearest to the quotient of the values. -/
theorem withSign_div (hx : x.IsSize) (hy : y.IsCanonical) (hz : z.IsNearestTo (x.size / y.size)) :
    x.withSign s / y.withSign t = z.withSign (s / t) := by
  show Float.ofModel (.pack (UnpackedFloat.div .binary64 _ _)) = _
  rw [unpack_canonical_withSign t hy]
  rcases hx with rfl | hx
  · rw [size_zero, zero_div] at hz
    rw [hz.eq_zero, unpack_zero_withSign]
    rfl
  · obtain ⟨canonical, rounds⟩ := hz.rounds (div_pos hx.size_pos hy.size_pos).ne'
    rw [unpack_canonical_withSign s hx, div_of_rounds s t canonical rounds,
      withSign_of_pos canonical.pos]

theorem neg_withSign (h : x.IsSize) : -x.withSign s = x.withSign (-s) := by
  show Float.ofModel (.pack (UnpackedFloat.neg _)) = _
  rcases h with rfl | canonical
  · rw [unpack_zero_withSign]
    rfl
  · rw [unpack_canonical_withSign s canonical, withSign_of_pos canonical.pos]
    rfl

end

/-! ### Whole numbers -/

/-- The size of a natural of at most 53 digits. -/
def Binary.whole (n : ℕ) : Binary := if n = 0 then zero else ofNatural n

theorem Binary.size_whole (n : ℕ) : (whole n).size = n := by
  unfold whole
  split_ifs with none
  · rw [none, size_zero, Nat.cast_zero]
  · exact value_ofNatural n

theorem Binary.isSize_whole {n : ℕ} (less : n < 2 ^ 53) : (whole n).IsSize := by
  unfold whole
  split_ifs with none
  · exact .inl rfl
  · exact .inr (isCanonical_ofNatural (Nat.pos_of_ne_zero none) less)

theorem ofNat_eq_whole {n : ℕ} (less : n < 2 ^ 53) : Float.ofNat n = (whole n).withSign .positive := by
  unfold whole
  split_ifs with none
  · rw [none]
    rfl
  · have pos := Nat.pos_of_ne_zero none
    have rounds : (ofNatural n).Rounds (n * 10 ^ (0 : ℤ)) := by
      rw [zpow_zero, mul_one]
      conv_rhs => rw [← value_ofNatural n]
      exact (ofNatural n).rounds_value
    exact ofScientific_of_rounds (isCanonical_ofNatural pos less) pos rounds

theorem value_withSign {x : Binary} (h : x.IsSize) (s : Sign) : value (x.withSign s) = signedSize s x := by
  obtain ⟨size, sign⟩ := ofFloat_withSign_of_isSize h s
  rw [value_eq, size, sign]

/-! ### One -/

theorem isSize_one : (whole 1).IsSize := isSize_whole (by norm_num)

theorem one_eq_whole : (1 : Float) = (whole 1).withSign .positive := ofNat_eq_whole (by norm_num)

theorem value_one : value 1 = 1 := by
  rw [one_eq_whole, value_withSign isSize_one, signedSize, size_whole, Nat.cast_one]

theorem one_mul_withSign {x : Binary} (h : x.IsSize) (s : Sign) : 1 * x.withSign s = x.withSign s := by
  have nearest : x.IsNearestTo ((whole 1).size * x.size) := by
    rw [size_whole, Nat.cast_one, one_mul]
    exact h.isNearestTo_size
  rw [one_eq_whole, withSign_mul .positive s isSize_one h (.inl (by decide)) nearest]
  cases s <;> rfl

end DesignCode.Decimal
