import DesignCode.Proofs.Json.Number
import DesignCode.Proofs.Decimal.Nearest

/-!
# Decimals on coarse grids

Decimals of one value are the same without the zeros at their ends (`Dec.strip_eq_of_value_eq`).  A
decimal on a grid that is wider than the gaps beside a double is the only one on the grid that rounds to
the double, so that it is the shortest one (`Binary.shortest_of_rounds`).
-/

namespace DesignCode.Decimal

/-! ### Zeros at the end -/

namespace Dec

/-- Enough steps take off all zeros at the end. -/
theorem strip_mod_ne {fuel : ℕ} {d : Dec} (some : d.digits ≠ 0) (less : d.digits < 10 ^ fuel) :
    (d.strip fuel).digits % 10 ≠ 0 := by
  induction fuel generalizing d with
  | zero => omega
  | succ fuel ih =>
    rw [strip]
    split_ifs with zero
    · exact ih (by dsimp only; omega) (by dsimp only; omega)
    · omega

/-- Decimals without zeros at their ends are told apart by their values. -/
theorem eq_of_value_eq {d e : Dec} (same : d.value = e.value) (hd : d.digits % 10 ≠ 0)
    (he : e.digits % 10 ≠ 0) : d = e := by
  have exponent_le {a b : Dec} (same : a.value = b.value) (ha : a.digits % 10 ≠ 0) : b.exp ≤ a.exp := by
    by_contra less
    obtain ⟨k, exp⟩ : ∃ k : ℕ, b.exp = a.exp + (k + 1 : ℕ) := ⟨(b.exp - a.exp - 1).toNat, by omega⟩
    have ten : (10 : ℚ) ^ a.exp ≠ 0 := by positivity
    rw [value, value, exp, zpow_add₀ (by norm_num), zpow_natCast, mul_comm ((10 : ℚ) ^ a.exp),
      ← mul_assoc, mul_left_inj' ten] at same
    have digits : a.digits = b.digits * 10 ^ k * 10 := by
      rw [mul_assoc, ← pow_succ]
      exact_mod_cast same
    omega
  have exp : d.exp = e.exp := le_antisymm (exponent_le same.symm he) (exponent_le same hd)
  have ten : (10 : ℚ) ^ e.exp ≠ 0 := by positivity
  rw [value, value, exp, mul_left_inj' ten, Nat.cast_inj] at same
  cases d
  cases e
  simp_all

/-- Decimals of one value are the same without the zeros at their ends. -/
theorem strip_eq_of_value_eq {d e : Dec} (same : d.value = e.value) (some : d.digits ≠ 0) {fuel fuel' : ℕ}
    (hd : d.digits < 10 ^ fuel) (he : e.digits < 10 ^ fuel') : d.strip fuel = e.strip fuel' := by
  have ten (i : ℤ) : (10 : ℚ) ^ i ≠ 0 := by positivity
  have some' : e.digits ≠ 0 := by
    intro none
    rw [value, value, none, Nat.cast_zero, zero_mul, mul_eq_zero, Nat.cast_eq_zero] at same
    exact same.elim some (ten _)
  refine eq_of_value_eq ?_ (strip_mod_ne some hd) (strip_mod_ne some' he)
  rw [value_strip, value_strip, same]

end Dec

/-! ### Grids -/

namespace Binary

variable {x : Binary}

/-- The digits left of the point. -/
theorem scale_bounds (pos : 0 < x.m) : 10 ^ (x.scale - 1) ≤ x.size ∧ x.size < 10 ^ x.scale := by
  have bounds {n : ℕ} (some : 0 < n) (places : ℕ) (value : x.size * 10 ^ places = n) :
      10 ^ ((digitCount n : ℤ) - places - 1) ≤ x.size ∧ x.size < 10 ^ ((digitCount n : ℤ) - places) := by
    obtain ⟨least, most, digits⟩ := Json.digitCount_bounds some
    have least : (10 ^ (digitCount n - 1) : ℚ) ≤ n := by exact_mod_cast least
    have most : (n : ℚ) < 10 ^ digitCount n := by exact_mod_cast most
    have power : (0 : ℚ) < 10 ^ places := by positivity
    have count : ((digitCount n - 1 : ℕ) : ℤ) = digitCount n - 1 := by omega
    rw [← zpow_natCast, count, ← value] at least
    rw [← zpow_natCast, ← value] at most
    constructor
    · rw [show (digitCount n : ℤ) - places - 1 = (digitCount n - 1) - places by ring,
        zpow_sub₀ (by norm_num), zpow_natCast, div_le_iff₀ power]
      exact least
    · rw [zpow_sub₀ (by norm_num), zpow_natCast 10 places, lt_div_iff₀ power]
      exact most
  rw [scale]
  split_ifs with whole
  · obtain ⟨k, exponent⟩ : ∃ k : ℕ, x.q = k := ⟨x.q.toNat, by omega⟩
    have all := bounds (Nat.mul_pos pos (Nat.two_pow_pos x.q.toNat)) 0 (by
      rw [size, exponent]
      push_cast
      simp)
    simpa using all
  · obtain ⟨k, exponent⟩ : ∃ k : ℕ, x.q = -k := ⟨x.q.natAbs, by omega⟩
    refine bounds (Nat.mul_pos pos (Nat.pow_pos (by norm_num))) (-x.q).toNat ?_
    rw [size, exponent, neg_neg, Int.toNat_natCast, zpow_neg, zpow_natCast]
    push_cast
    rw [show (10 : ℚ) = 2 * 5 by norm_num, mul_pow]
    field_simp

/-- A double lies between its two neighbours on a grid. -/
theorem floorAt_bounds (x : Binary) (e : ℤ) :
    x.floorAt e * 10 ^ e ≤ x.size ∧ x.size < (x.floorAt e + 1) * 10 ^ e := by
  have den : 0 < 2 ^ (-x.q).toNat * 10 ^ e.toNat := by positivity
  have two := zpow_mul_toNat (by norm_num : (2 : ℚ) ≠ 0) x.q
  have ten := zpow_mul_toNat (by norm_num : (10 : ℚ) ≠ 0) (-e)
  rw [neg_neg] at ten
  have power : (0 : ℚ) < 10 ^ e := by positivity
  -- the quotient whose whole part is taken
  have quotient : ((x.m * 2 ^ x.q.toNat * 10 ^ (-e).toNat : ℕ) : ℚ) /
      (2 ^ (-x.q).toNat * 10 ^ e.toNat : ℕ) =
      x.size / 10 ^ e := by
    rw [size, div_eq_div_iff (by positivity) power.ne']
    push_cast
    rw [← two, ← ten, zpow_neg]
    field_simp
  have lower := Nat.cast_div_le (α := ℚ) (m := x.m * 2 ^ x.q.toNat * 10 ^ (-e).toNat)
    (n := 2 ^ (-x.q).toNat * 10 ^ e.toNat)
  have upper := Nat.lt_div_mul_add (a := x.m * 2 ^ x.q.toNat * 10 ^ (-e).toNat) den
  rw [quotient, le_div_iff₀ power] at lower
  refine ⟨lower, ?_⟩
  rw [← div_lt_iff₀ power, ← quotient, div_lt_iff₀ (by exact_mod_cast den)]
  have next : x.m * 2 ^ x.q.toNat * 10 ^ (-e).toNat <
      (x.floorAt e + 1) * (2 ^ (-x.q).toNat * 10 ^ e.toNat) := by
    rw [add_mul, one_mul]
    exact upper
  exact_mod_cast next

/-- A decimal that rounds to a double is one of the two neighbours of the double on a wide grid. -/
theorem digits_eq_floorAt {d : Dec} (rounds : x.Rounds d.value) (wide : 2 ^ x.q < (10 : ℚ) ^ d.exp) :
    d.digits = x.floorAt d.exp ∨ d.digits = x.floorAt d.exp + 1 := by
  obtain ⟨lower, upper⟩ := x.floorAt_bounds d.exp
  obtain ⟨below, above⟩ := abs_le.1 rounds.near
  have power : (0 : ℚ) < 10 ^ d.exp := by positivity
  rw [Dec.value] at below above
  have least : (x.floorAt d.exp : ℚ) < d.digits + 1 := by
    refine lt_of_mul_lt_mul_right ?_ power.le
    linarith
  have most : (d.digits : ℚ) < x.floorAt d.exp + 1 + 1 := by
    refine lt_of_mul_lt_mul_right ?_ power.le
    linarith
  have : x.floorAt d.exp < d.digits + 1 := by exact_mod_cast least
  have : d.digits < x.floorAt d.exp + 1 + 1 := by exact_mod_cast most
  omega

theorem isSome_onGrid?_of_readsBack {e : ℤ} (tie : Tie)
    (h : x.readsBack ⟨x.floorAt e, e⟩ = true ∨ x.readsBack ⟨x.floorAt e + 1, e⟩ = true) :
    (x.onGrid? tie e).isSome = true := by
  unfold onGrid?
  grind

theorem isSome_onGrid? (pos : 0 < x.m) {d : Dec} (rounds : x.Rounds d.value)
    (wide : 2 ^ x.q < (10 : ℚ) ^ d.exp) (tie : Tie) : (x.onGrid? tie d.exp).isSome = true := by
  have reads := (readsBack_iff pos d).2 rounds
  apply isSome_onGrid?_of_readsBack
  rcases digits_eq_floorAt rounds wide with same | same
  · left
    rwa [← same]
  · right
    rwa [← same]

theorem exp_of_onGrid? {tie : Tie} {e : ℤ} {d : Dec} (h : x.onGrid? tie e = some d) : d.exp = e := by
  unfold onGrid? at h
  grind

/-- Two decimals on a wide grid do not round to one double. -/
theorem value_eq_of_rounds {d e : Dec} (hd : x.Rounds d.value) (he : x.Rounds e.value)
    (le : d.exp ≤ e.exp) (wide : 2 ^ x.q < (10 : ℚ) ^ d.exp) :
    e.value = d.value ∧ e.digits ≤ d.digits := by
  obtain ⟨k, exp⟩ : ∃ k : ℕ, e.exp = d.exp + k := ⟨(e.exp - d.exp).toNat, by omega⟩
  obtain ⟨below, above⟩ := abs_le.1 hd.near
  obtain ⟨below', above'⟩ := abs_le.1 he.near
  have power : (0 : ℚ) < 10 ^ d.exp := by positivity
  have onGrid : e.value = (e.digits * 10 ^ k : ℕ) * 10 ^ d.exp := by
    rw [Dec.value, exp, zpow_add₀ (by norm_num), zpow_natCast]
    push_cast
    ring
  rw [onGrid] at below' above' ⊢
  rw [Dec.value] at below above ⊢
  have less : (d.digits : ℚ) < (e.digits * 10 ^ k : ℕ) + 1 := by
    refine lt_of_mul_lt_mul_right ?_ power.le
    linarith
  have greater : ((e.digits * 10 ^ k : ℕ) : ℚ) < d.digits + 1 := by
    refine lt_of_mul_lt_mul_right ?_ power.le
    linarith
  have less : d.digits < e.digits * 10 ^ k + 1 := by exact_mod_cast less
  have greater : e.digits * 10 ^ k < d.digits + 1 := by exact_mod_cast greater
  have digits : d.digits = e.digits * 10 ^ k := by omega
  exact ⟨by rw [digits], digits ▸ Nat.le_mul_of_pos_right _ (by positivity)⟩

/-- The first hit of a search is not behind another one. -/
theorem exists_first {β : Type} {f : ℕ → Option β} {i n : ℕ} (inside : i < n) (hit : (f i).isSome = true) :
    ∃ j ≤ i, ∃ b, f j = some b ∧ (List.range n).findSome? f = some b := by
  induction n generalizing i f with
  | zero => omega
  | succ n ih =>
    rw [List.range_succ_eq_map, List.findSome?_cons]
    cases first : f 0 with
    | some b => exact ⟨0, Nat.zero_le i, b, first, rfl⟩
    | none =>
      obtain ⟨i, rfl⟩ : ∃ k, i = k + 1 := by
        refine ⟨i - 1, ?_⟩
        rcases Nat.eq_zero_or_pos i with rfl | pos
        · rw [first] at hit
          cases hit
        · omega
      obtain ⟨j, le, b, found, all⟩ := ih (f := f ∘ Nat.succ) (i := i) (by omega) hit
      refine ⟨j + 1, by omega, b, found, ?_⟩
      rw [List.findSome?_map]
      exact all

/-- The shortest decimal of a double is the one decimal on a wide grid that rounds to it. -/
theorem shortest_of_rounds (pos : 0 < x.m) {d : Dec} (rounds : x.Rounds d.value)
    (wide : 2 ^ x.q < (10 : ℚ) ^ d.exp) (first : d.exp < x.scale) (last : x.scale ≤ d.exp + 17)
    (some : d.digits ≠ 0) (less : d.digits < 10 ^ 17) (tie : Tie) : x.shortest tie = d.strip 17 := by
  obtain ⟨i, grid⟩ : ∃ i : ℕ, d.exp = x.scale - ((i + 1 : ℕ) : ℤ) := ⟨(x.scale - d.exp - 1).toNat, by omega⟩
  have hit := isSome_onGrid? pos rounds wide tie
  rw [grid] at hit
  obtain ⟨j, le, e, found, search⟩ :=
    exists_first (f := fun n => x.onGrid? tie (x.scale - ((n + 1 : ℕ) : ℤ)))
    (n := 17) (by omega) hit
  have exp := exp_of_onGrid? found
  have reads := (readsBack_iff pos e).1 (onGrid?_readsBack found)
  obtain ⟨same, fewer⟩ := value_eq_of_rounds rounds reads (by omega) wide
  rw [shortest, if_neg pos.ne']
  dsimp only
  rw [search, Option.getD_some]
  exact (Dec.strip_eq_of_value_eq same.symm some less (by omega)).symm

end Binary

end DesignCode.Decimal
