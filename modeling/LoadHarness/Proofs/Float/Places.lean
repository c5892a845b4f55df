import Mathlib
import LoadHarness.Proofs.Float.Arithmetic

/-!
# Rounding to decimal places

`Fixed.toPlaces x places` rounds the exact value of a double to `places` decimals, half to even,
and reads the result back as the nearest double.  For a positive double this is
`Binary.nearest false u (10^places)`, where `u` is `x · 10^places` rounded to a whole number
(`toPlaces_eq_nearest`, `scaledUnits_roundsTo`).

Two facts make the result usable.  Its units lie between the roundings of any bounds on
`x · 10^places`, so the result lies between the doubles nearest to those bounds.  And where the
doubles of that magnitude lie closer together than a unit of the last decimal, the result reads
back as the same units, so rounding it again changes nothing (`toPlaces_of_isNearest`).
`toPlaces_between` states both at once.
-/

namespace LoadHarness

namespace Dyadic

/-- A ratio in the rounding interval of a positive double is within half a unit of its last
place. -/
theorem within_error {m : Nat} {q : Int} {r : ℚ} (positive : 0 < m)
    (within : Within ⟨false, m, q⟩ r) : |(m : ℚ) * 2 ^ q - r| ≤ 2 ^ q / 2 := by
  obtain ⟨low, high, -⟩ := within_bounds positive within
  have reach := lowerReach_le m q
  have unitPos : (0 : ℚ) < 2 ^ q := by positivity
  have lowAbs : (m - lowerReach m q) * 2 ^ q ≤ r := (le_div_iff₀ unitPos).1 low
  have highAbs : r ≤ (m + 1 / 2) * 2 ^ q := (div_le_iff₀ unitPos).1 high
  have reachAbs : lowerReach m q * 2 ^ q ≤ 1 / 2 * 2 ^ q := by gcongr
  rw [abs_le]
  constructor <;> linarith

/-- A canonical double at most `2^k`, for `k` above the subnormal range, has an exponent at most
`k - 52`. -/
theorem exponent_le_of_value_le {m : Nat} {q k : Int} (canonical : Canonical ⟨false, m, q⟩)
    (bound : (m : ℚ) * 2 ^ q ≤ 2 ^ k) (low : -1022 ≤ k) : q ≤ k - 52 := by
  rcases canonical.normal with leading | least
  · have reaches : (2 : ℚ) ^ (52 + q) ≤ 2 ^ k :=
      calc (2 : ℚ) ^ (52 + q) = 2 ^ 52 * 2 ^ q := by
            rw [zpow_add₀ two_ne_zero]
            norm_num
        _ ≤ m * 2 ^ q := by
            gcongr
            exact_mod_cast leading
        _ ≤ 2 ^ k := bound
    have := (zpow_le_zpow_iff_right₀ (by norm_num : (1 : ℚ) < 2)).1 reaches
    omega
  · simp only at least
    omega

end Dyadic

theorem two_pow_52_mul_zpow (k : Int) : ((2 ^ 52 : Nat) : ℚ) * 2 ^ (k - 52) = 2 ^ k := by
  rw [Nat.cast_pow, Nat.cast_ofNat, ← zpow_natCast, ← zpow_add₀ two_ne_zero]
  congr 1
  push_cast
  ring

namespace IsNearest

/-- The double nearest to a ratio at most `2^k` is at most `2^k`, so its last place is at most
`2^(k - 52)` and it lies within `2^(k - 53)` of the ratio. -/
theorem close {x : Float} {m : Nat} {q : Int} {r : ℚ} {k : Int} (nearest : IsNearest x r)
    (shape : FloatShape.of x = .finite ⟨false, m, q⟩) (bound : r ≤ 2 ^ k) (low : -1022 ≤ k)
    (high : k ≤ 1023) :
    (m : ℚ) * 2 ^ q ≤ 2 ^ k ∧ |(m : ℚ) * 2 ^ q - r| ≤ 2 ^ (k - 53) := by
  obtain ⟨d, shape', -, positive, within⟩ := nearest
  rw [shape, FloatShape.finite.injEq] at shape'
  subst shape'
  have canonical := (FloatShape.of_eq_finite shape).1
  -- `2^k` is itself a double, which bounds every double rounded from below it
  have power : Dyadic.Canonical ⟨false, 2 ^ 52, k - 52⟩ :=
    ⟨by norm_num, by simp only; omega, by simp only; omega, .inl le_rfl⟩
  have powerWithin := Dyadic.within_self (m := 2 ^ 52) (q := k - 52) (by positivity)
  rw [two_pow_52_mul_zpow] at powerWithin
  have atMost : (m : ℚ) * 2 ^ q ≤ 2 ^ k := by
    have := Dyadic.value_le_of_within canonical power positive (by positivity) within powerWithin bound
    rwa [two_pow_52_mul_zpow] at this
  have exponent := Dyadic.exponent_le_of_value_le canonical atMost low
  refine ⟨atMost, (Dyadic.within_error positive within).trans ?_⟩
  rw [div_eq_mul_inv, ← zpow_sub_one₀ two_ne_zero]
  exact zpow_le_zpow_right₀ one_le_two (by omega)

end IsNearest

namespace Fixed

/-- The units `scaledUnits` counts are the exact value times `10^places`, rounded half to even. -/
theorem scaledUnits_roundsTo (m : Nat) (q : Int) (places : Nat) :
    RoundsTo ((m : ℚ) * 2 ^ q * 10 ^ places) (scaledUnits ⟨false, m, q⟩ places) := by
  unfold scaledUnits
  simp only [Nat.pow_eq]
  have exact : ((m * 2 ^ (max q 0).toNat * 10 ^ places : Nat) : ℚ) /
      ((2 ^ (max (-q) 0).toNat : Nat) : ℚ) = m * 2 ^ q * 10 ^ places := by
    push_cast
    rcases le_or_gt 0 q with nonneg | negative
    · -- a whole number: nothing below the point
      rw [max_eq_left nonneg, max_eq_right (by omega), ← zpow_natCast, Int.toNat_of_nonneg nonneg]
      simp
    · -- a fraction over a power of two
      rw [max_eq_right negative.le, max_eq_left (by omega), ← zpow_natCast (2 : ℚ) (-q).toNat,
        Int.toNat_of_nonneg (by omega), zpow_neg]
      simp only [Int.toNat_zero, pow_zero, mul_one]
      field_simp
  rw [← exact]
  exact roundHalfEven_roundsTo _ _ (Nat.two_pow_pos _)

/-- A positive double rounded to `places` decimals is the double nearest to its units over
`10^places`. -/
theorem toPlaces_eq_nearest {x : Float} {m : Nat} {q : Int}
    (shape : FloatShape.of x = .finite ⟨false, m, q⟩) (places : Nat) :
    toPlaces x places = Binary.nearest false (scaledUnits ⟨false, m, q⟩ places) (10 ^ places) := by
  simp [toPlaces, shape, Nat.pow_eq]

theorem cast_ten_pow (places : Nat) : ((10 ^ places : Nat) : ℚ) = 10 ^ places := by push_cast; rfl

/-- The double nearest to `u / 10^places` is a fixed point of rounding to `places` decimals,
where the doubles at that magnitude are finer than a unit of the last decimal: its exact value
reads back as the same `u` units. -/
theorem toPlaces_of_isNearest {x : Float} {u places : Nat} {k : Int}
    (nearest : IsNearest x (u / 10 ^ places)) (bound : (u : ℚ) / 10 ^ places ≤ 2 ^ k)
    (low : -1022 ≤ k) (high : k ≤ 1023) (fine : (10 : ℚ) ^ places * 2 ^ (k - 52) < 1) :
    toPlaces x places = x := by
  obtain ⟨⟨negative, m, q⟩, shape, sign, positive, within⟩ := nearest
  simp only at sign positive
  subst sign
  obtain ⟨-, close⟩ := IsNearest.close ⟨_, shape, rfl, positive, within⟩ shape bound low high
  have tenPos : (0 : ℚ) < 10 ^ places := by positivity
  -- `x · 10^places` is within a quarter unit of `u`
  have rounds : RoundsTo ((m : ℚ) * 2 ^ q * 10 ^ places) u := by
    apply RoundsTo.of_near
    have scaled : (m : ℚ) * 2 ^ q * 10 ^ places - u = 10 ^ places * (m * 2 ^ q - u / 10 ^ places) := by
      field_simp
    have half : (2 : ℚ) ^ (k - 53) = 2 ^ (k - 52) / 2 := by
      rw [div_eq_mul_inv, ← zpow_sub_one₀ two_ne_zero]
      ring_nf
    rw [scaled, abs_mul, abs_of_pos tenPos]
    calc (10 : ℚ) ^ places * |(m : ℚ) * 2 ^ q - u / 10 ^ places| ≤ 10 ^ places * 2 ^ (k - 53) := by
          gcongr
      _ = 10 ^ places * 2 ^ (k - 52) / 2 := by rw [half]; ring
      _ < 1 / 2 := by linarith
  have units := (scaledUnits_roundsTo m q places).unique rounds
  rw [toPlaces_eq_nearest shape, units]
  apply Binary.nearest_eq_of_within shape positive (by positivity)
  rwa [cast_ten_pow]

/-- Rounding a positive double to `places` decimals lands between the doubles nearest to any two
bounds on its units, and is a fixed point of rounding again, where the doubles below
`2^k` are finer than a unit of the last decimal; it is the double nearest to its units. -/
theorem toPlaces_between {x : Float} {m : Nat} {q : Int}
    (shape : FloatShape.of x = .finite ⟨false, m, q⟩) {places a b : Nat} {k : Int}
    (lower : (a : ℚ) - 1 / 2 < m * 2 ^ q * 10 ^ places)
    (upper : (m : ℚ) * 2 ^ q * 10 ^ places < b + 1 / 2) (positiveA : 0 < a)
    (least : (2 : ℚ) ^ (-1074 : Int) ≤ a / 10 ^ places) (bound : (b : ℚ) / 10 ^ places ≤ 2 ^ k)
    (low : -1022 ≤ k) (high : k ≤ 1022) (fine : (10 : ℚ) ^ places * 2 ^ (k - 52) < 1) :
    Binary.nearest false a (10 ^ places) ≤ toPlaces x places ∧
      toPlaces x places ≤ Binary.nearest false b (10 ^ places) ∧
      toPlaces (toPlaces x places) places = toPlaces x places ∧
      ∃ units : Nat, IsNearest (toPlaces x places) (units / 10 ^ places) := by
  have rounds := scaledUnits_roundsTo m q places
  -- the units lie between the bounds
  have aboveA : a ≤ scaledUnits ⟨false, m, q⟩ places := by
    have : (a : ℚ) < scaledUnits ⟨false, m, q⟩ places + 1 := by linarith [rounds.below]
    exact Nat.lt_succ_iff.1 (by exact_mod_cast this)
  have belowB : scaledUnits ⟨false, m, q⟩ places ≤ b := by
    have : (scaledUnits ⟨false, m, q⟩ places : ℚ) < b + 1 := by linarith [rounds.above]
    exact Nat.lt_succ_iff.1 (by exact_mod_cast this)
  have tenPos : (0 : ℚ) < 10 ^ places := by positivity
  have ratio : ∀ {n n' : Nat}, n ≤ n' → (n : ℚ) / 10 ^ places ≤ n' / 10 ^ places := fun le => by
    gcongr
  have topRange : (b : ℚ) / 10 ^ places < 2 ^ 1023 :=
    calc (b : ℚ) / 10 ^ places ≤ 2 ^ k := bound
      _ < 2 ^ (1023 : Int) := zpow_lt_zpow_right₀ one_lt_two (by omega)
      _ = 2 ^ 1023 := zpow_natCast 2 1023
  -- the three doubles: nearest to the lower bound, to the units, to the upper bound
  have nearest : ∀ {n : Nat}, a ≤ n → n ≤ b →
      IsNearest (Binary.nearest false n (10 ^ places)) (n / 10 ^ places) := fun above below => by
    have result := @isNearest_nearest _ (10 ^ places) (lt_of_lt_of_le positiveA above) (by positivity)
      (by rw [cast_ten_pow]; exact least.trans (ratio above))
      (by rw [cast_ten_pow]; exact lt_of_le_of_lt (ratio below) topRange)
    rwa [cast_ten_pow] at result
  have units := nearest aboveA belowB
  rw [toPlaces_eq_nearest shape]
  exact ⟨(nearest le_rfl (aboveA.trans belowB)).le_of_le units (ratio aboveA),
    units.le_of_le (nearest (aboveA.trans belowB) le_rfl) (ratio belowB),
    toPlaces_of_isNearest units ((ratio belowB).trans bound) low (by omega) fine, _, units⟩

end Fixed

end LoadHarness
