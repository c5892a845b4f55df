import Mathlib
import LoadHarness.Proofs.Float.Shortest
import LoadHarness.Number.Fixed

/-!
# Rounding a positive ratio to the nearest double

Every double the harness computes from exact arithmetic (a sum, a product, a ratio read off
decimal places) is the nearest double to an exact positive ratio, a tie going to the even
mantissa.  This module states that once, as `Dyadic.Within` (the rounding interval of
`Proofs/Float/Nearest`), and draws from it what later proofs use.

* `RoundsTo x n`: the whole number `n` is `x` rounded half to even.  `Fixed.roundHalfEven`
  rounds so (`roundHalfEven_roundsTo`), the result is unique (`RoundsTo.unique`) and it grows
  with `x` (`RoundsTo.mono`).
* `Dyadic.roundedAt n s`: the double `n · 2^s`, a carry to `2^53` moving up one binade.  When `n`
  rounds `r / 2^s` at the binade of `r`, `r` lies in its rounding interval
  (`within_roundedAt`), so every positive ratio in range lies in the interval of some double
  (`exists_within`).
* Rounding intervals are ordered as their doubles are (`Dyadic.value_le_of_within`): rounding
  to nearest never reverses an order.
-/

namespace LoadHarness

/-- `n` is `x` rounded to a whole number, a half going to the even neighbour. -/
structure RoundsTo (x : ℚ) (n : Nat) : Prop where
  above : (n : ℚ) - 1 / 2 ≤ x
  below : x ≤ n + 1 / 2
  tie : x = n - 1 / 2 ∨ x = n + 1 / 2 → n % 2 = 0

namespace RoundsTo

variable {x y : ℚ} {n n' : Nat}

theorem of_natCast (n : Nat) : RoundsTo n n :=
  ⟨by linarith, by linarith, fun tie => by rcases tie with tie | tie <;> linarith⟩

/-- Rounding never reverses an order: a smaller number rounds to a smaller or equal whole
number. -/
theorem mono (rounds : RoundsTo x n) (rounds' : RoundsTo y n') (le : x ≤ y) : n ≤ n' := by
  by_contra greater
  have step : (n' : ℚ) + 1 ≤ n := by exact_mod_cast (Nat.lt_of_not_le greater)
  have lower := rounds.above
  have upper := rounds'.below
  -- the two half units meet only where both `x` and `y` sit on the same tie
  have meet : x = n - 1 / 2 ∧ y = n' + 1 / 2 ∧ (n : ℚ) = n' + 1 := by
    refine ⟨by linarith, by linarith, by linarith⟩
  have evenN := rounds.tie (.inl meet.1)
  have evenN' := rounds'.tie (.inr meet.2.1)
  have next : n = n' + 1 := by exact_mod_cast meet.2.2
  omega

theorem unique (rounds : RoundsTo x n) (rounds' : RoundsTo x n') : n = n' :=
  Nat.le_antisymm (rounds.mono rounds' le_rfl) (rounds'.mono rounds le_rfl)

/-- A whole number within less than half a unit of `x` is its rounding. -/
theorem of_near (near : |x - n| < 1 / 2) : RoundsTo x n := by
  rw [abs_lt] at near
  exact ⟨by linarith, by linarith, fun tie => by rcases tie with tie | tie <;> linarith⟩

end RoundsTo

theorem div_le_half_iff (c b : Nat) (positive : 0 < b) : (c : ℚ) / b ≤ 1 / 2 ↔ 2 * c ≤ b := by
  have iff : ((2 * c : Nat) : ℚ) ≤ b ↔ 2 * c ≤ b := Nat.cast_le
  rw [div_le_iff₀ (by exact_mod_cast positive), ← iff]
  push_cast
  constructor <;> intro h <;> linarith

theorem div_lt_half_iff (c b : Nat) (positive : 0 < b) : (c : ℚ) / b < 1 / 2 ↔ 2 * c < b := by
  have iff : ((2 * c : Nat) : ℚ) < b ↔ 2 * c < b := Nat.cast_lt
  rw [div_lt_iff₀ (by exact_mod_cast positive), ← iff]
  push_cast
  constructor <;> intro h <;> linarith

/-- Half-to-even rounding of `a / b`, as `Fixed.roundHalfEven` computes it from the quotient
and remainder. -/
theorem Fixed.roundHalfEven_roundsTo (a b : Nat) (positive : 0 < b) :
    RoundsTo ((a : ℚ) / b) (Fixed.roundHalfEven a b) := by
  have split : (a : ℚ) / b = (a / b : Nat) + ((a % b : Nat) : ℚ) / b :=
    (quotient_add_remainder a b positive).symm
  -- the fraction left over is below one, and its place against one half is read on the remainder
  have fractionLt : ((a % b : Nat) : ℚ) / b < 1 := by
    rw [div_lt_one (by exact_mod_cast positive)]
    exact_mod_cast Nat.mod_lt a positive
  have fractionNonneg : (0 : ℚ) ≤ ((a % b : Nat) : ℚ) / b := by positivity
  have atMost := div_le_half_iff (a % b) b positive
  have below := div_lt_half_iff (a % b) b positive
  unfold Fixed.roundHalfEven
  simp only
  rw [split]
  by_cases up : (2 * (a % b) > b || (2 * (a % b) == b && a / b % 2 == 1)) = true
  · -- at least half a unit is left over: the quotient moves up
    rw [if_pos up]
    simp only [Bool.or_eq_true, decide_eq_true_eq, Bool.and_eq_true, beq_iff_eq] at up
    have atLeast : (1 : ℚ) / 2 ≤ ((a % b : Nat) : ℚ) / b :=
      not_lt.1 fun less => by have := below.1 less; omega
    refine ⟨by push_cast; linarith, by push_cast; linarith, fun tie => ?_⟩
    push_cast at tie
    rcases tie with tie | tie
    · have := atMost.1 (by linarith)
      omega
    · linarith
  · -- less than half a unit, or a half on an even quotient: the quotient stays
    rw [if_neg up]
    simp only [Bool.or_eq_true, decide_eq_true_eq, Bool.and_eq_true, beq_iff_eq, not_or,
      not_and] at up
    have half : ((a % b : Nat) : ℚ) / b ≤ 1 / 2 := atMost.2 (by omega)
    refine ⟨by linarith, by linarith, fun tie => ?_⟩
    rcases tie with tie | tie
    · linarith
    · have : ¬ 2 * (a % b) < b := fun less => by linarith [below.2 less]
      have := up.2 (by omega)
      omega

/-- Every rational number that is not negative has a rounding. -/
theorem RoundsTo.exists_of_nonneg {x : ℚ} (nonneg : 0 ≤ x) : ∃ n, RoundsTo x n := by
  have numNonneg : 0 ≤ x.num := Rat.num_nonneg.mpr nonneg
  have same : ((x.num.toNat : Nat) : ℚ) / (x.den : Nat) = x := by
    rw [show ((x.num.toNat : Nat) : ℚ) = (x.num : ℚ) by exact_mod_cast Int.toNat_of_nonneg numNonneg]
    exact Rat.num_div_den x
  refine ⟨Fixed.roundHalfEven x.num.toNat x.den, ?_⟩
  have rounds := Fixed.roundHalfEven_roundsTo x.num.toNat x.den x.den_pos
  rwa [same] at rounds

namespace Dyadic

/-- The converse of `within_bounds`: a ratio within half a unit above and the lower reach below
a positive double, the ends reached only for an even mantissa, lies in its rounding
interval. -/
theorem within_of_bounds {m : Nat} {q : Int} {r : ℚ} (positive : 0 < m)
    (lower : (m : ℚ) - lowerReach m q ≤ r / 2 ^ q) (upper : r / 2 ^ q ≤ m + 1 / 2)
    (ends : r / 2 ^ q = m - lowerReach m q ∨ r / 2 ^ q = m + 1 / 2 → m % 2 = 0) :
    Within ⟨false, m, q⟩ r := by
  have scalePos : (0 : ℚ) < 2 ^ q := by positivity
  unfold Within
  dsimp only
  rw [interval_low positive, interval_high]
  by_cases even : m % 2 = 0
  · have inclusive : (Digits.interval ⟨false, m, q⟩).2.2 = true := by simp [Digits.interval, even]
    rw [if_pos inclusive]
    exact ⟨(le_div_iff₀ scalePos).1 lower, (div_le_iff₀ scalePos).1 upper⟩
  · have exclusive : (Digits.interval ⟨false, m, q⟩).2.2 = false := by
      simpa [Digits.interval] using even
    rw [if_neg (by simp [exclusive])]
    have lowerStrict : (m : ℚ) - lowerReach m q < r / 2 ^ q :=
      lt_of_le_of_ne lower fun same => even (ends (.inl same.symm))
    have upperStrict : r / 2 ^ q < m + 1 / 2 :=
      lt_of_le_of_ne upper fun same => even (ends (.inr same))
    exact ⟨(lt_div_iff₀ scalePos).1 lowerStrict, (div_lt_iff₀ scalePos).1 upperStrict⟩

/-- The double `n · 2^s` for a mantissa rounded at exponent `s`: a mantissa that carried to
`2^53` is `2^52` one binade up. -/
def roundedAt (n : Nat) (s : Int) : Dyadic :=
  if n = 2 ^ 53 then ⟨false, 2 ^ 52, s + 1⟩ else ⟨false, n, s⟩

section Rounded

variable {r : ℚ} {s : Int} {n : Nat}

/-- What rounding at the binade of `r` gives: `r / 2^s` is below `2^53`, and reaches `2^52`
unless `s` is the least exponent. -/
structure AtBinade (r : ℚ) (s : Int) : Prop where
  least_le : -1074 ≤ s
  below : r / 2 ^ s < 2 ^ 53
  reaches : 2 ^ 52 ≤ r / 2 ^ s ∨ s = -1074

theorem roundedAt_le (binade : AtBinade r s) (rounds : RoundsTo (r / 2 ^ s) n) : n ≤ 2 ^ 53 := by
  have upper : (n : ℚ) - 1 / 2 ≤ r / 2 ^ s := rounds.above
  have : (n : ℚ) < 2 ^ 53 + 1 := by linarith [binade.below]
  exact Nat.lt_succ_iff.1 (by exact_mod_cast this)

theorem roundedAt_normal (binade : AtBinade r s) (rounds : RoundsTo (r / 2 ^ s) n)
    (above : -1074 < s) : 2 ^ 52 ≤ n := by
  have reaches := binade.reaches.resolve_right (by omega)
  have : (2 : ℚ) ^ 52 < n + 1 := by linarith [rounds.below]
  have : 2 ^ 52 < n + 1 := by exact_mod_cast this
  omega

/-- Rounded at the binade of `r`, the mantissa gives a double whose rounding interval holds
`r`; a carry to `2^53` lands on `2^52` one binade up, whose interval reaches a quarter unit
down. -/
theorem within_roundedAt (binade : AtBinade r s) (rounds : RoundsTo (r / 2 ^ s) n)
    (positive : 0 < n) : Within (roundedAt n s) r := by
  have atMost := roundedAt_le binade rounds
  unfold roundedAt
  split
  · rename_i carried
    -- only the top half unit of the binade rounds to `2^53`
    rw [carried] at rounds
    have high : (2 : ℚ) ^ 53 - 1 / 2 ≤ r / 2 ^ s := by exact_mod_cast rounds.above
    have halved : r / 2 ^ (s + 1) = r / 2 ^ s / 2 := by
      rw [zpow_add₀ two_ne_zero, zpow_one]
      field_simp
    have reach : lowerReach (2 ^ 52) (s + 1) = 1 / 4 := by
      simp [lowerReach, show -1074 < s + 1 by linarith [binade.least_le]]
    apply within_of_bounds (by positivity)
    · rw [reach, halved]
      push_cast
      linarith
    · rw [halved]
      push_cast
      linarith [binade.below]
    · intro _
      decide
  · rename_i notCarried
    have lower := rounds.above
    apply within_of_bounds positive
    · unfold lowerReach
      split
      · -- at a power of two above the least binade, `r` reaches the binade itself
        rename_i closer
        have reaches := binade.reaches.resolve_right (by omega)
        rw [closer.1]
        push_cast
        linarith
      · linarith
    · exact rounds.below
    · rintro (low | high)
      · unfold lowerReach at low
        split at low
        · rename_i closer
          rw [closer.1]
          decide
        · exact rounds.tie (.inl low)
      · exact rounds.tie (.inr high)

/-- A carry moves the rounded double up one binade at most. -/
theorem roundedAt_exponent_le_succ (n : Nat) (s : Int) : (roundedAt n s).exponent ≤ s + 1 := by
  unfold roundedAt
  split <;> simp only <;> omega

/-- The rounded double is a canonical one while its exponent, a carry included, stays in range. -/
theorem canonical_roundedAt (binade : AtBinade r s) (rounds : RoundsTo (r / 2 ^ s) n)
    (inRange : (roundedAt n s).exponent ≤ 971) : (roundedAt n s).Canonical := by
  have atMost := roundedAt_le binade rounds
  have least := binade.least_le
  by_cases carried : n = 2 ^ 53
  · rw [roundedAt, if_pos carried] at inRange ⊢
    exact ⟨by norm_num, by simp only; omega, inRange, .inl le_rfl⟩
  · rw [roundedAt, if_neg carried] at inRange ⊢
    refine ⟨by simp only; omega, least, inRange, ?_⟩
    by_cases bottom : s = -1074
    · exact .inr bottom
    · exact .inl (roundedAt_normal binade rounds (by omega))

theorem roundedAt_positive (positive : 0 < n) :
    0 < (roundedAt n s).mantissa ∧ (roundedAt n s).negative = false := by
  unfold roundedAt
  split
  · exact ⟨by positivity, rfl⟩
  · exact ⟨positive, rfl⟩

end Rounded

/-! ### Rounding keeps order -/

section Order

variable {m m' : Nat} {q q' : Int}

/-- A positive canonical dyadic is at least the least positive double. -/
theorem least_le_value (canonical : Canonical ⟨false, m, q⟩) (positive : 0 < m) :
    (2 : ℚ) ^ (-1074 : Int) ≤ m * 2 ^ q :=
  calc (2 : ℚ) ^ (-1074 : Int) ≤ 1 * 2 ^ q := by
        rw [one_mul]
        exact zpow_le_zpow_right₀ one_le_two canonical.least_le
    _ ≤ m * 2 ^ q := by
        gcongr
        exact_mod_cast positive

/-- Of two canonical doubles, the one of smaller exponent is the smaller. -/
theorem value_lt_of_exponent_lt (canonical : Canonical ⟨false, m, q⟩)
    (canonical' : Canonical ⟨false, m', q'⟩) (lt : q < q') : (m : ℚ) * 2 ^ q < m' * 2 ^ q' := by
  have leading : 2 ^ 52 ≤ m' := canonical'.normal.resolve_right (by simp only; linarith [canonical.least_le])
  have mantissaLt : (m : ℚ) < 2 ^ 53 := by exact_mod_cast canonical.mantissa_lt
  have leadingQ : (2 : ℚ) ^ 52 ≤ m' := by exact_mod_cast leading
  calc (m : ℚ) * 2 ^ q < 2 ^ 53 * 2 ^ q := by gcongr
    _ = 2 ^ 52 * 2 ^ (q + 1) := by
        rw [zpow_add₀ two_ne_zero, zpow_one]
        ring
    _ ≤ 2 ^ 52 * 2 ^ q' := by gcongr <;> [norm_num; omega]
    _ ≤ m' * 2 ^ q' := by gcongr


/-- Canonical dyadics of one value are the same: the order of values fixes the exponent, and
then the mantissa. -/
theorem eq_of_value_eq (canonical : Canonical ⟨false, m, q⟩) (canonical' : Canonical ⟨false, m', q'⟩)
    (same : (m : ℚ) * 2 ^ q = m' * 2 ^ q') : m = m' ∧ q = q' := by
  rcases lt_trichotomy q q' with lower | rfl | higher
  · exact absurd same (value_lt_of_exponent_lt canonical canonical' lower).ne
  · refine ⟨?_, rfl⟩
    exact_mod_cast mul_right_cancel₀ (zpow_ne_zero q two_ne_zero) same
  · exact absurd same (ne_of_gt (value_lt_of_exponent_lt canonical' canonical higher))

/-- Between a canonical double and a smaller one lies no ratio of both rounding intervals, but
for a shared end, and only where one of the two mantissas is odd. -/
theorem high_le_low (canonical : Canonical ⟨false, m, q⟩) (canonical' : Canonical ⟨false, m', q'⟩)
    (below : (m' : ℚ) * 2 ^ q' < m * 2 ^ q) :
    (m' + 1 / 2) * 2 ^ q' ≤ (m - lowerReach m q) * 2 ^ q ∧
      ((m' + 1 / 2) * 2 ^ q' = (m - lowerReach m q) * 2 ^ q → m % 2 = 1 ∨ m' % 2 = 1) := by
  have reach := lowerReach_le m q
  have mantissaLt : (m' : ℚ) + 1 ≤ 2 ^ 53 := by exact_mod_cast canonical'.mantissa_lt
  rcases lt_trichotomy q q' with smaller | same | larger
  · exact absurd below (not_lt.2 (value_lt_of_exponent_lt canonical canonical' smaller).le)
  · -- one binade: the mantissas differ by at least one
    subst same
    have unitPos : (0 : ℚ) < 2 ^ q := by positivity
    have mantissas : m' + 1 ≤ m := by
      have : (m' : ℚ) < m := lt_of_mul_lt_mul_right below unitPos.le
      exact_mod_cast this
    have mantissasQ : (m' : ℚ) + 1 ≤ m := by exact_mod_cast mantissas
    refine ⟨by gcongr; linarith, fun meet => ?_⟩
    have meetUnits : (m' : ℚ) + 1 / 2 = m - lowerReach m q := mul_right_cancel₀ unitPos.ne' meet
    have next : m = m' + 1 := by
      have : (m : ℚ) = m' + 1 := by linarith
      exact_mod_cast this
    omega
  · -- a smaller binade below: its top half unit meets the lower reach of the binade above
    have leading : 2 ^ 52 ≤ m := canonical.normal.resolve_right (by linarith [canonical'.least_le])
    have unitPos : (0 : ℚ) < 2 ^ q' := by positivity
    have scale : (2 : ℚ) ^ q = 2 ^ q' * 2 ^ (q - q') := by
      rw [← zpow_add₀ two_ne_zero]
      ring_nf
    have twice : (2 : ℚ) ≤ 2 ^ (q - q') := by
      calc (2 : ℚ) = 2 ^ (1 : Int) := by norm_num
        _ ≤ 2 ^ (q - q') := zpow_le_zpow_right₀ one_le_two (by omega)
    rw [scale]
    by_cases power : m = 2 ^ 52
    · have closer : lowerReach m q = 1 / 4 := by
        simp [lowerReach, power, show -1074 < q by linarith [canonical'.least_le]]
      rw [closer, power]
      push_cast
      have reachUp : (m' : ℚ) + 1 / 2 ≤ (2 ^ 52 - 1 / 4) * 2 ^ (q - q') := by nlinarith
      refine ⟨?_, fun meet => ?_⟩
      · calc ((m' : ℚ) + 1 / 2) * 2 ^ q' ≤ (2 ^ 52 - 1 / 4) * 2 ^ (q - q') * 2 ^ q' := by gcongr
          _ = (2 ^ 52 - 1 / 4) * (2 ^ q' * 2 ^ (q - q')) := by ring
      · -- meeting there takes the greatest mantissa of the binade below, which is odd
        by_contra bothEven
        have evenBelow : m' % 2 = 0 := by omega
        have notTop : m' + 2 ≤ 2 ^ 53 := by
          have := canonical'.mantissa_lt
          simp only at this
          omega
        have notTopQ : (m' : ℚ) + 2 ≤ 2 ^ 53 := by exact_mod_cast notTop
        have strict : ((m' : ℚ) + 1 / 2) * 2 ^ q' < (2 ^ 52 - 1 / 4) * (2 ^ q' * 2 ^ (q - q')) := by
          nlinarith
        exact absurd meet (ne_of_lt strict)
    · have further : lowerReach m q = 1 / 2 := by
        rw [lowerReach, if_neg fun closer => power closer.1]
      have aboveLeading : (2 : ℚ) ^ 52 + 1 ≤ m := by exact_mod_cast (by omega : 2 ^ 52 + 1 ≤ m)
      rw [further]
      have strict : ((m' : ℚ) + 1 / 2) * 2 ^ q' < (m - 1 / 2) * (2 ^ q' * 2 ^ (q - q')) :=
        calc ((m' : ℚ) + 1 / 2) * 2 ^ q' < (2 ^ 53 + 1) * 2 ^ q' :=
              mul_lt_mul_of_pos_right (by linarith) unitPos
          _ = (2 ^ 52 + 1 / 2) * (2 ^ q' * 2) := by ring
          _ ≤ (m - 1 / 2) * (2 ^ q' * 2 ^ (q - q')) :=
              mul_le_mul (by linarith) (by gcongr) (by positivity) (by linarith)
      exact ⟨strict.le, fun meet => absurd meet (ne_of_lt strict)⟩

/-- Rounding to nearest keeps order: of two ratios, the smaller lies in the rounding interval of
a double no greater than the one whose interval holds the larger. -/
theorem value_le_of_within {r r' : ℚ} (canonical : Canonical ⟨false, m, q⟩)
    (canonical' : Canonical ⟨false, m', q'⟩) (positive : 0 < m) (positive' : 0 < m')
    (within : Within ⟨false, m, q⟩ r) (within' : Within ⟨false, m', q'⟩ r') (le : r ≤ r') :
    (m : ℚ) * 2 ^ q ≤ m' * 2 ^ q' := by
  by_contra greater
  obtain ⟨low, -, lowTie⟩ := within_bounds positive within
  obtain ⟨-, high', highTie'⟩ := within_bounds positive' within'
  obtain ⟨gap, meet⟩ := high_le_low canonical canonical' (lt_of_not_ge greater)
  have unitPos : (0 : ℚ) < 2 ^ q := by positivity
  have unitPos' : (0 : ℚ) < 2 ^ q' := by positivity
  have lowAbs : (m - lowerReach m q) * 2 ^ q ≤ r := (le_div_iff₀ unitPos).1 low
  have highAbs : r' ≤ (m' + 1 / 2) * 2 ^ q' := (div_le_iff₀ unitPos').1 high'
  -- the two ratios sit on the shared end, which both intervals hold only for even mantissas
  have atLow : r / 2 ^ q = m - lowerReach m q := by
    rw [div_eq_iff unitPos.ne']
    linarith
  have atHigh : r' / 2 ^ q' = m' + 1 / 2 := by
    rw [div_eq_iff unitPos'.ne']
    linarith
  have evenAbove := lowTie (.inl atLow)
  have evenBelow := highTie' (.inr atHigh)
  rcases meet (by linarith) with odd | odd <;> omega

end Order

end Dyadic

end LoadHarness
