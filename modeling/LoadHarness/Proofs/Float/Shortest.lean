import Mathlib
import LoadHarness.Proofs.Float.Nearest

/-!
# Shortest digits lie in the rounding interval

`Digits.shortest` proposes, for `k = 1, …, 17` digits, the grid points of `10^(L - k + 1)`
around a positive double, `L` the exponent of its leading decimal digit, and keeps the first
that the exact interval test accepts.  The main result, `Digits.shortest_within`, is that its
answer always lies in the double's rounding interval (`Dyadic.Within`), so that a correctly
rounding reader gives the double back.

The steps: `compareScaled` compares `x · 2^a` with `y · 10^b` exactly (`compareScaled_eq`),
so `inInterval` is membership in the interval (`inInterval_iff`); `floorOnGrid` is the floor
on the grid (`floorOnGrid_spec`) and `normalize` keeps the value (`normalize_value`); every
candidate proposed lies inside (`candidate_within`); the first guess of `leadingExponent` is
at most two too high at every binade of doubles (`guess_checked`, a table checked by the
kernel), so `L` never overshoots (`leadingExponent_le`); and then the grid at seventeen
digits is finer than the interval is wide, so the seventeen-digit candidate exists
(`candidate_seventeen_isSome`).
-/

namespace LoadHarness

/-- A power to a nonnegative integer exponent, taken as a natural one. -/
theorem pow_toNat (c : ℚ) {n : Int} (nonneg : 0 ≤ n) : c ^ n.toNat = c ^ n := by
  rw [← zpow_natCast, Int.toNat_of_nonneg nonneg]

namespace Digits

/-- `compareScaled` orders `x · 2^a` against `y · 10^b` exactly. -/
theorem compareScaled_eq (x : Nat) (a : Int) (y : Nat) (b : Int) :
    compareScaled x a y b = compare ((x : ℚ) * 2 ^ a) ((y : ℚ) * 10 ^ b) := by
  unfold compareScaled
  simp only [Nat.pow_eq]
  have mono : StrictMono (Nat.cast : ℕ → ℚ) := Nat.strictMono_cast
  rw [← cmp_eq_compare, ← cmp_eq_compare, ← mono.cmp_map_eq]
  have tenPow : (10 : ℚ) ^ b = 2 ^ b * 5 ^ b := by
    rw [show (10 : ℚ) = 2 * 5 by norm_num, mul_zpow]
  have scale : (0 : ℚ) < 2 ^ (-min a b) := by positivity
  by_cases negative : b < 0
  · have scale5 : (0 : ℚ) < 5 ^ (-b) := by positivity
    rw [if_pos negative, if_neg (by omega), ← cmp_mul_pos_left (mul_pos scale scale5) ((x : ℚ) * 2 ^ a)]
    push_cast
    rw [pow_toNat 2 (by omega : 0 ≤ a - min a b), pow_toNat 5 (by omega : 0 ≤ -b),
      pow_toNat 2 (by omega : 0 ≤ b - min a b)]
    congr 1
    · rw [zpow_sub₀ two_ne_zero, zpow_neg, zpow_neg]
      field_simp
    · rw [tenPow, zpow_sub₀ two_ne_zero, zpow_neg, zpow_neg]
      field_simp
  · rw [if_neg negative, if_pos (by omega), ← cmp_mul_pos_left scale ((x : ℚ) * 2 ^ a)]
    push_cast
    rw [pow_toNat 2 (by omega : 0 ≤ a - min a b), pow_toNat 5 (by omega : 0 ≤ b),
      pow_toNat 2 (by omega : 0 ≤ b - min a b)]
    congr 1
    · rw [zpow_sub₀ two_ne_zero, zpow_neg]
      field_simp
    · rw [tenPow, zpow_sub₀ two_ne_zero, zpow_neg]
      field_simp

/-- The exact value of a decimal. -/
def value (d : Digits) : ℚ := d.significand * 10 ^ d.exponent

/-- `inInterval` tests membership in the rounding interval exactly. -/
theorem inInterval_iff (v : Dyadic) (c : Nat) (e : Int) :
    inInterval v c e = true ↔ v.Within (c * 10 ^ e) := by
  unfold inInterval Dyadic.Within
  generalize interval v = ends
  obtain ⟨low, high, inclusive⟩ := ends
  simp only [compareScaled_eq]
  cases inclusive
  · simp [compare_lt_iff_lt, compare_gt_iff_gt]
  · simp only [if_true, bne_iff_ne, ne_eq, Bool.and_eq_true]
    rw [compare_gt_iff_gt, compare_lt_iff_lt, not_lt, not_lt]

theorem ten_zpow (e : Int) : (10 : ℚ) ^ e = 2 ^ e * 5 ^ e := by
  rw [show (10 : ℚ) = 2 * 5 by norm_num, mul_zpow]

/-- `floorOnGrid` is the floor of `m · 2^q` on the grid of multiples of `10^e`, and tells
whether `m · 2^q` lies on the grid. -/
theorem floorOnGrid_spec (m : Nat) (q e : Int) :
    ((floorOnGrid m q e).1 : ℚ) * 10 ^ e ≤ m * 2 ^ q ∧
      (m : ℚ) * 2 ^ q < ((floorOnGrid m q e).1 + 1) * 10 ^ e ∧
      ((floorOnGrid m q e).2 = true ↔ ((floorOnGrid m q e).1 : ℚ) * 10 ^ e = m * 2 ^ q) := by
  unfold floorOnGrid
  simp only [Nat.pow_eq]
  have denPos : 0 < 2 ^ (max (e - q) 0).toNat * 5 ^ (max e 0).toNat := by positivity
  have gridPos : (0 : ℚ) < 10 ^ e := by positivity
  -- the numerator over the denominator is `m · 2^q / 10^e`
  have ratio : ((m * 2 ^ (max (q - e) 0).toNat * 5 ^ (max (-e) 0).toNat : Nat) : ℚ) /
      ((2 ^ (max (e - q) 0).toNat * 5 ^ (max e 0).toNat : Nat) : ℚ) = m * 2 ^ q / 10 ^ e := by
    push_cast
    rw [pow_toNat 2 (le_max_right _ _), pow_toNat 5 (le_max_right _ _), pow_toNat 2 (le_max_right _ _),
      pow_toNat 5 (le_max_right _ _)]
    have twos : (2 : ℚ) ^ max (q - e) 0 = 2 ^ (q - e) * 2 ^ max (e - q) 0 := by
      rw [← zpow_add₀ two_ne_zero]
      congr 1
      omega
    have fives : (5 : ℚ) ^ max (-e) 0 = 5 ^ (-e) * 5 ^ max e 0 := by
      rw [← zpow_add₀ (by norm_num)]
      congr 1
      omega
    rw [twos, fives, ten_zpow, zpow_sub₀ two_ne_zero, zpow_neg]
    field_simp
  have parts := quotient_add_remainder (m * 2 ^ (max (q - e) 0).toNat * 5 ^ (max (-e) 0).toNat) _ denPos
  rw [ratio] at parts
  generalize m * 2 ^ (max (q - e) 0).toNat * 5 ^ (max (-e) 0).toNat = num at parts ⊢
  generalize 2 ^ (max (e - q) 0).toNat * 5 ^ (max e 0).toNat = den at parts denPos ⊢
  have fractionLt : ((num % den : Nat) : ℚ) / den < 1 := by
    rw [div_lt_one (by exact_mod_cast denPos)]
    exact_mod_cast Nat.mod_lt _ denPos
  have fractionNonneg : (0 : ℚ) ≤ ((num % den : Nat) : ℚ) / den := by positivity
  have scaled : (m : ℚ) * 2 ^ q = ((num / den : Nat) + ((num % den : Nat) : ℚ) / den) * 10 ^ e := by
    rw [parts]
    field_simp
  refine ⟨?_, ?_, ?_⟩
  · rw [scaled]
    nlinarith
  · rw [scaled]
    nlinarith
  · rw [scaled, beq_iff_eq]
    constructor
    · intro exact
      simp [exact]
    · intro onGrid
      have : ((num % den : Nat) : ℚ) / den * 10 ^ e = 0 := by linarith
      have : ((num % den : Nat) : ℚ) = 0 := by
        rcases mul_eq_zero.1 this with zero | zero
        · rcases div_eq_zero_iff.1 zero with h | h
          · exact h
          · exact absurd h (by exact_mod_cast denPos.ne')
        · exact absurd zero gridPos.ne'
      exact_mod_cast this

/-- Dropping trailing zeros keeps the value of a decimal. -/
@[simp] theorem normalize_value (significand : Nat) (exponent : Int) :
    (normalize significand exponent).value = significand * 10 ^ exponent := by
  unfold normalize
  -- each step divides the significand by ten and raises the exponent by one
  suffices stepped : ∀ fuel s e, (normalize.go fuel s e).value = s * 10 ^ e from stepped 20 _ _
  intro fuel
  induction fuel with
  | zero => intro s e; rfl
  | succ fuel ih =>
      intro s e
      simp only [normalize.go]
      split
      · rename_i strip
        have divisible : s % 10 = 0 := by simp at strip; exact strip.2
        rw [ih, zpow_add₀ (by norm_num), zpow_one]
        have : (s : ℚ) = (s / 10 : Nat) * 10 := by exact_mod_cast (Nat.div_mul_cancel (Nat.dvd_of_mod_eq_zero divisible)).symm
        rw [this]
        ring
      · rfl

end Digits

namespace Dyadic

/-- A rational strictly between the ends of a rounding interval lies in it, whether or not
the interval holds its ends. -/
theorem within_of_lt {v : Dyadic} {r : ℚ}
    (aboveLow : ((Digits.interval v).1 : ℚ) * 2 ^ (v.exponent - 2) < r)
    (belowHigh : r < ((Digits.interval v).2.1 : ℚ) * 2 ^ (v.exponent - 2)) : v.Within r := by
  unfold Within
  dsimp only
  split
  · exact ⟨aboveLow.le, belowHigh.le⟩
  · exact ⟨aboveLow, belowHigh⟩

theorem lowerReach_pos (m : Nat) (q : Int) : 0 < lowerReach m q := by
  unfold lowerReach
  split <;> norm_num

/-- A positive double's own value lies strictly inside its rounding interval. -/
theorem within_self {m : Nat} {q : Int} (positive : 0 < m) :
    Within ⟨false, m, q⟩ ((m : ℚ) * 2 ^ q) := by
  have scalePos : (0 : ℚ) < 2 ^ q := by positivity
  have reach := lowerReach_pos m q
  apply within_of_lt
  · rw [interval_low positive]
    nlinarith
  · rw [interval_high]
    nlinarith

end Dyadic

namespace Digits

/-- What a candidate proposes lies in the rounding interval: either the double's own value,
exact on the grid, or a grid point the interval test accepted. -/
theorem candidate_within {m : Nat} {q : Int} (positive : 0 < m) {leading : Int} {k : Nat}
    {d : Digits} (found : candidate ⟨false, m, q⟩ leading k = some d) :
    Dyadic.Within ⟨false, m, q⟩ d.value := by
  unfold candidate at found
  dsimp only at found
  obtain ⟨floorLe, -, exactIff⟩ := floorOnGrid_spec m q (leading - k + 1)
  generalize floorOnGrid m q (leading - k + 1) = grid at floorLe exactIff found
  obtain ⟨low, exact⟩ := grid
  simp only at floorLe exactIff found
  -- the accepted grid points, with their value
  have accepted : ∀ c : Nat, inInterval ⟨false, m, q⟩ c (leading - k + 1) = true →
      (normalize c (leading - k + 1)).value = c * 10 ^ (leading - k + 1) ∧
        Dyadic.Within ⟨false, m, q⟩ (c * 10 ^ (leading - k + 1)) :=
    fun c test => ⟨normalize_value _ _, (inInterval_iff _ _ _).1 test⟩
  split at found
  · rename_i onGrid
    obtain rfl := Option.some.inj found
    rw [normalize_value, exactIff.1 onGrid]
    exact Dyadic.within_self positive
  · split at found
    · rename_i lowIn highIn
      split at found <;> obtain rfl := Option.some.inj found
      · exact (accepted low lowIn).1 ▸ (accepted low lowIn).2
      · exact (accepted (low + 1) highIn).1 ▸ (accepted (low + 1) highIn).2
      · split
        · exact (accepted low lowIn).1 ▸ (accepted low lowIn).2
        · exact (accepted (low + 1) highIn).1 ▸ (accepted (low + 1) highIn).2
    · rename_i lowIn _
      obtain rfl := Option.some.inj found
      exact (accepted low lowIn).1 ▸ (accepted low lowIn).2
    · rename_i highIn
      obtain rfl := Option.some.inj found
      exact (accepted (low + 1) highIn).1 ▸ (accepted (low + 1) highIn).2
    · cases found

/-- With the leading exponent at or below the true one, the seventeen-digit candidate always
exists: the grid of `10^(leading - 16)` is finer than the rounding interval is wide, so of the
two grid points around the double one lies inside. -/
theorem candidate_seventeen_isSome {m : Nat} {q : Int} (canonical : Dyadic.Canonical ⟨false, m, q⟩)
    (positive : 0 < m) {leading : Int} (below : (10 : ℚ) ^ leading ≤ m * 2 ^ q) :
    (candidate ⟨false, m, q⟩ leading 17).isSome := by
  have mantissaLt : m < 2 ^ 53 := canonical.mantissa_lt
  have scalePos : (0 : ℚ) < 2 ^ q := by positivity
  have reach := Dyadic.lowerReach_pos m q
  -- the grid is finer than the interval is wide
  have spacing : (10 : ℚ) ^ (leading - 17 + 1) < (1 / 2 + Dyadic.lowerReach m q) * 2 ^ q := by
    have tenth : (10 : ℚ) ^ (leading - 17 + 1) = 10 ^ leading / 10 ^ 16 := by
      rw [show leading - 17 + 1 = leading - 16 by ring, zpow_sub₀ (by norm_num)]
      norm_num
    rw [tenth, div_lt_iff₀ (by norm_num)]
    unfold Dyadic.lowerReach
    split
    · rename_i closer
      rw [closer.1] at below
      push_cast at below
      nlinarith
    · have : (m : ℚ) ≤ 2 ^ 53 := by exact_mod_cast mantissaLt.le
      nlinarith
  unfold candidate
  dsimp only
  obtain ⟨floorLe, floorGt, exactIff⟩ := floorOnGrid_spec m q (leading - 17 + 1)
  generalize floorOnGrid m q (leading - 17 + 1) = grid at floorLe floorGt exactIff ⊢
  obtain ⟨low, exact⟩ := grid
  simp only at floorLe floorGt exactIff ⊢
  cases exact
  · -- off the grid, the double lies strictly between two grid points, and one of them is inside
    simp only [Bool.false_eq_true, if_false]
    have offGrid : (low : ℚ) * 10 ^ (leading - 17 + 1) < m * 2 ^ q :=
      lt_of_le_of_ne floorLe (fun onGrid => by simpa using exactIff.2 onGrid)
    have inside : inInterval ⟨false, m, q⟩ low (leading - 17 + 1) = true ∨
        inInterval ⟨false, m, q⟩ (low + 1) (leading - 17 + 1) = true := by
      rw [inInterval_iff, inInterval_iff]
      by_cases lowIn : ((m : ℚ) - Dyadic.lowerReach m q) * 2 ^ q < low * 10 ^ (leading - 17 + 1)
      · refine .inl (Dyadic.within_of_lt ?_ ?_)
        · rw [Dyadic.interval_low positive]
          exact lowIn
        · rw [Dyadic.interval_high]
          nlinarith
      · refine .inr (Dyadic.within_of_lt ?_ ?_)
        · rw [Dyadic.interval_low positive]
          push_cast
          nlinarith
        · rw [Dyadic.interval_high]
          push_cast
          nlinarith
    split
    · split <;> rfl
    · rfl
    · rfl
    · rename_i lowOut highOut
      simp only [Nat.cast_ofNat] at lowOut highOut
      rw [lowOut, highOut] at inside
      simp at inside
  · simp

/-- `leadingExponent` never overshoots, provided its first guess is at most two too high: each
correction step moves only as far as the exact comparison allows. -/
theorem leadingExponent_le {m : Nat} {q : Int}
    (guessed : (10 : ℚ) ^ (((Nat.log2 m : Int) + q) * 30103 / 100000 - 2) ≤ m * 2 ^ q) :
    (10 : ℚ) ^ leadingExponent m q ≤ m * 2 ^ q := by
  unfold leadingExponent
  simp only [compareScaled_eq, Nat.cast_one, one_mul, bne_iff_ne, ne_eq, compare_lt_iff_lt, beq_iff_eq]
  generalize ((Nat.log2 m : Int) + q) * 30103 / 100000 = guess at guessed ⊢
  generalize (m : ℚ) * 2 ^ q = v at guessed ⊢
  have mono : ∀ a b : Int, a ≤ b → (10 : ℚ) ^ a ≤ 10 ^ b := fun a b le =>
    zpow_le_zpow_right₀ (by norm_num) le
  -- the branches that remain are those the comparisons allow; in each but the first the last
  -- comparison made shows `10^result ≤ v`, and in the first every step went down
  split_ifs
  · exact (mono _ _ (by omega)).trans guessed
  · exact le_of_not_gt ‹¬v < 10 ^ (guess - 1)›
  · exact le_of_not_gt ‹¬v < 10 ^ guess›
  · exact le_of_not_gt ‹¬v < 10 ^ (guess + 1)›
  · exact le_of_not_gt ‹¬v < 10 ^ (guess + 1 + 1)›

/-- Whether the first guess of `leadingExponent` is at most two above the truth at the powers
`2^t`, for the `count` exponents `t` from `start` on. -/
def guessWithinTwo (start : Int) : Nat → Bool
  | 0 => true
  | count + 1 =>
      compareScaled 1 start 1 (start * 30103 / 100000 - 2) != .lt && guessWithinTwo (start + 1) count

theorem guessWithinTwo_spec {start : Int} {count : Nat} (checked : guessWithinTwo start count = true)
    {t : Int} (from_start : start ≤ t) (before : t < start + count) :
    (10 : ℚ) ^ (t * 30103 / 100000 - 2) ≤ 2 ^ t := by
  induction count generalizing start with
  | zero => omega
  | succ count ih =>
      simp only [guessWithinTwo, Bool.and_eq_true, bne_iff_ne, ne_eq] at checked
      rcases eq_or_lt_of_le from_start with here | later
      · subst here
        have := checked.1
        rw [compareScaled_eq, compare_lt_iff_lt] at this
        simpa using le_of_not_gt this
      · exact ih checked.2 (by omega) (by push_cast at before ⊢; omega)

/-- The first guess is at most two above the truth at every power of two a double's leading
bit can stand at, from `2^-1074` to `2^1023`. -/
theorem guess_checked : guessWithinTwo (-1074) 2098 = true := by decide +kernel

/-- For a positive double the first guess of the leading exponent is at most two too high. -/
theorem guess_le {m : Nat} {q : Int} (canonical : Dyadic.Canonical ⟨false, m, q⟩) (positive : 0 < m) :
    (10 : ℚ) ^ (((Nat.log2 m : Int) + q) * 30103 / 100000 - 2) ≤ m * 2 ^ q := by
  have mantissaLt : m < 2 ^ 53 := canonical.mantissa_lt
  have exponentGe : -1074 ≤ q := canonical.least_le
  have exponentLe : q ≤ 971 := canonical.le_greatest
  have logLt : Nat.log2 m < 53 := (Nat.log2_lt positive.ne').2 mantissaLt
  calc (10 : ℚ) ^ (((Nat.log2 m : Int) + q) * 30103 / 100000 - 2)
      ≤ 2 ^ ((Nat.log2 m : Int) + q) :=
        guessWithinTwo_spec guess_checked (by omega) (by push_cast; omega)
    _ = 2 ^ Nat.log2 m * 2 ^ q := by rw [zpow_add₀ two_ne_zero, zpow_natCast]
    _ ≤ m * 2 ^ q := by
        gcongr
        exact_mod_cast Nat.log2_self_le positive.ne'

/-- The shortest digits of a positive double lie in its rounding interval: the seventeen-digit
candidate always exists, so the search finds a candidate, and every candidate lies inside. -/
theorem shortest_within {m : Nat} {q : Int} (canonical : Dyadic.Canonical ⟨false, m, q⟩)
    (positive : 0 < m) : Dyadic.Within ⟨false, m, q⟩ (shortest ⟨false, m, q⟩).value := by
  have leadingBelow := leadingExponent_le (guess_le canonical positive)
  unfold shortest
  dsimp only
  rw [if_neg (by simpa using positive.ne')]
  have found : ((List.range 17).findSome? fun index =>
      candidate ⟨false, m, q⟩ (leadingExponent m q) (index + 1)).isSome := by
    rw [List.findSome?_isSome_iff]
    exact ⟨16, by simp, candidate_seventeen_isSome canonical positive leadingBelow⟩
  obtain ⟨d, hd⟩ := Option.isSome_iff_exists.1 found
  rw [hd, Option.getD_some]
  obtain ⟨index, -, proposed⟩ := List.exists_of_findSome?_eq_some hd
  exact candidate_within positive proposed

end Digits

end LoadHarness
