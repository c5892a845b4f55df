import Mathlib
import LoadHarness.Proofs.Float.Overflow

/-!
# Differences and products, signs and zeros included

The model subtracts two finite doubles exactly, as an integer mantissa at the smaller exponent,
and `normalize` rounds that mantissa by its sign: a negative one as the negation of its
magnitude's rounding (`round_negative`), zero as positive zero.  So a signed mantissa whose
magnitude stays within range rounds to a double that is a rounding of its value
(`normalize_rounds`), and the difference of a double not below zero and a positive double is a
finite double rounding the exact difference, whatever its sign (`sub_rounds`).  A product of
positive doubles in range is a rounding of its exact value, or positive zero where that value
lies below the least positive double (`mul_rounds`, `Dyadic.RoundsOrUnderflows`).

Every whole number up to `2^53` is a double (`Dyadic.exists_natCast`), so rounding never passes
over one (`Dyadic.Rounds.le_natCast`, `Dyadic.Rounds.natCast_le`); and below `2^53` a unit of the
last place is at most one, so a rounding lies within half of one of what it rounds
(`Dyadic.Rounds.le_add_half`).
-/

open Float.Model Float.Model.UnpackedFloat

namespace LoadHarness

/-! ### Shapes of either sign -/

section Shapes

/-- Packing the unpacked form of a canonical shape, of either sign, gives a double of that
shape. -/
theorem FloatShape.of_pack_finite {d : Dyadic} (canonical : d.Canonical) :
    FloatShape.of (Float.ofModel (Float.Model.pack (FloatShape.finite d).unpacked)) = .finite d := by
  obtain ⟨x, shape⟩ := FloatShape.exists_of_canonical canonical
  rw [← shape, FloatShape.unpacked_of, ofModel_pack_unpack]

theorem FloatShape.of_pack_zero :
    FloatShape.of (Float.ofModel (Float.Model.pack (.zero .positive))) = .finite ⟨false, 0, -1074⟩ := by
  rfl

/-- Negating the unpacked form of a shape turns its sign. -/
theorem FloatShape.unpacked_neg (d : Dyadic) :
    (FloatShape.finite d).unpacked.neg = (FloatShape.finite ⟨!d.negative, d.mantissa, d.exponent⟩).unpacked := by
  obtain ⟨negative, m, q⟩ := d
  by_cases zero : m = 0 <;> cases negative <;>
    simp [FloatShape.unpacked, FloatShape.signOf, zero, UnpackedFloat.neg] <;> rfl

/-- Rounding carries the sign along and never reads it: a negative rounding is the negation of
the positive one. -/
theorem round_negative (M : Nat) (E : Int) :
    UnpackedFloat.round Format.binary64 .negative M E = (UnpackedFloat.round Format.binary64 .positive M E).neg := by
  simp only [UnpackedFloat.round, roundWithAccuracy]
  split <;> rfl

end Shapes

/-! ### Roundings of either sign -/

namespace Dyadic

variable {d : Dyadic} {r : ℚ}

theorem canonical_zero : Canonical ⟨false, 0, -1074⟩ :=
  ⟨by norm_num, le_rfl, by norm_num, .inr rfl⟩

/-- The sign of a canonical shape is free. -/
theorem Canonical.neg (canonical : d.Canonical) : Canonical ⟨!d.negative, d.mantissa, d.exponent⟩ :=
  ⟨canonical.mantissa_lt, canonical.least_le, canonical.le_greatest, canonical.normal⟩

/-- Turning the sign of a rounding of `r` gives a rounding of `-r`. -/
theorem Rounds.neg (rounds : d.Rounds r) : Rounds ⟨!d.negative, d.mantissa, d.exponent⟩ (-r) := by
  unfold Rounds at rounds ⊢
  split at rounds
  · rename_i zero
    simpa [zero] using rounds
  · rename_i nonzero
    obtain ⟨sign, positive, within⟩ := rounds
    rw [if_neg (neg_ne_zero.2 nonzero), abs_neg, sign]
    refine ⟨?_, positive, within⟩
    rcases lt_or_gt_of_ne nonzero with negative | positive
    · simp [negative, negative.le]
    · simp [positive, not_lt.2 positive.le]

/-- A positive rounding at the binade of `r` rounds `r`. -/
theorem rounds_roundedAt {t : Int} {n : Nat} (binade : AtBinade r t) (rounds : RoundsTo (r / 2 ^ t) n)
    (positive : 0 < n) : (roundedAt n t).Rounds r := by
  -- a positive rounding comes from a positive number
  have positiveR : 0 < r := by
    have atLeast : (1 : ℚ) ≤ n := by exact_mod_cast positive
    have half : (0 : ℚ) < r / 2 ^ t := by linarith [rounds.above]
    exact (div_pos_iff_of_pos_right (by positivity)).1 half
  obtain ⟨mantissaPos, sign⟩ := roundedAt_positive positive (s := t)
  have within := within_roundedAt binade rounds positive
  generalize roundedAt n t = d at mantissaPos sign within ⊢
  obtain ⟨negative, m, q⟩ := d
  simp only at mantissaPos sign
  subst sign
  simp only [Rounds, positiveR.ne', if_false, decide_eq_false (not_lt.2 positiveR.le), abs_of_pos positiveR]
  exact ⟨trivial, mantissaPos, within⟩

/-- Below `2^53` a unit of the last place is at most one, so a rounding of a positive number is
at most half of one below it. -/
theorem Rounds.le_add_half (canonical : d.Canonical) (rounds : d.Rounds r) (positive : 0 < r)
    (below : d.value < 2 ^ 53) : r ≤ d.value + 1 / 2 := by
  obtain ⟨negative, m, q⟩ := d
  simp only [Rounds, positive.ne', if_false, decide_eq_false (not_lt.2 positive.le), abs_of_pos positive]
    at rounds
  obtain ⟨rfl, mantissaPos, within⟩ := rounds
  rw [value_positive] at below ⊢
  have unitPos : (0 : ℚ) < 2 ^ q := by positivity
  have unit : (2 : ℚ) ^ q ≤ 1 := by
    rcases canonical.normal with normal | least
    · -- a leading bit at `2^52` below `2^53` leaves an exponent of at most zero
      have leading : (2 : ℚ) ^ 52 ≤ m := by exact_mod_cast normal
      have scaled : (2 : ℚ) ^ q < 2 ^ (1 : Int) := by
        rw [zpow_one]
        nlinarith
      exact zpow_le_one_of_nonpos₀ one_le_two
        (Int.lt_add_one_iff.1 ((zpow_lt_zpow_iff_right₀ one_lt_two).1 scaled))
    · simp only at least
      rw [least]
      exact zpow_le_one_of_nonpos₀ one_le_two (by norm_num)
  obtain ⟨-, high, -⟩ := within_bounds mantissaPos within
  have upper : r ≤ (m + 1 / 2) * 2 ^ q := (div_le_iff₀ unitPos).1 high
  linarith

/-- Every whole number up to `2^53` is the value of a canonical double. -/
theorem exists_natCast {k : Nat} (small : k ≤ 2 ^ 53) : ∃ d : Dyadic, d.Canonical ∧ d.value = k := by
  rcases Nat.eq_zero_or_pos k with rfl | positive
  · exact ⟨_, canonical_zero, by simp [value]⟩
  rcases small.lt_or_eq with below | top
  · -- shifted up to its leading bit at `2^52`
    have log : k.log2 ≤ 52 := by
      have := (Nat.log2_lt positive.ne').2 below
      omega
    have leading : (k <<< (52 - k.log2)).log2 = 52 := by
      rw [log2_shiftLeft positive]
      omega
    have shiftedPos : k <<< (52 - k.log2) ≠ 0 := by
      rw [Nat.shiftLeft_eq]
      exact Nat.mul_ne_zero positive.ne' (Nat.two_pow_pos _).ne'
    refine ⟨⟨false, k <<< (52 - k.log2), -((52 - k.log2 : Nat) : Int)⟩,
      ⟨?_, by simp only; omega, by simp only; omega, .inl ?_⟩, ?_⟩
    · simpa only [leading] using Nat.lt_log2_self (n := k <<< (52 - k.log2))
    · simpa only [leading] using Nat.log2_self_le shiftedPos
    · rw [value_positive, Nat.shiftLeft_eq, zpow_neg, zpow_natCast]
      push_cast
      field_simp
  · subst top
    exact ⟨⟨false, 2 ^ 52, 1⟩, ⟨by norm_num, by norm_num, by norm_num, .inl le_rfl⟩, by norm_num [value]⟩

variable {k : Nat}

/-- Rounding never passes a whole number up to `2^53` going up. -/
theorem Rounds.le_natCast (canonical : d.Canonical) (rounds : d.Rounds r) (small : k ≤ 2 ^ 53)
    (le : r ≤ k) : d.value ≤ k := by
  obtain ⟨c, canonicalC, valueC⟩ := exists_natCast small
  rw [← valueC] at le ⊢
  exact rounds.value_le canonical canonicalC (rounds_value canonicalC) le

/-- Rounding never passes a whole number up to `2^53` going down. -/
theorem Rounds.natCast_le (canonical : d.Canonical) (rounds : d.Rounds r) (small : k ≤ 2 ^ 53)
    (le : (k : ℚ) ≤ r) : (k : ℚ) ≤ d.value := by
  obtain ⟨c, canonicalC, valueC⟩ := exists_natCast small
  rw [← valueC] at le ⊢
  exact (rounds_value canonicalC).value_le canonicalC canonical rounds le

/-- What rounding a positive number to a double gives: a rounding of it, or positive zero where
it lies below the least positive double. -/
def RoundsOrUnderflows (d : Dyadic) (r : ℚ) : Prop :=
  d.Rounds r ∨ d = ⟨false, 0, -1074⟩ ∧ r < 2 ^ (-1074 : Int)

namespace RoundsOrUnderflows

/-- Nothing at least the least positive double underflows. -/
theorem rounds (rounded : d.RoundsOrUnderflows r) (low : (2 : ℚ) ^ (-1074 : Int) ≤ r) : d.Rounds r :=
  rounded.resolve_right fun ⟨_, tiny⟩ => absurd low (not_le.2 tiny)

theorem value_nonneg (rounded : d.RoundsOrUnderflows r) (nonneg : 0 ≤ r) : 0 ≤ d.value := by
  rcases rounded with rounds | ⟨rfl, -⟩
  · exact rounds.value_nonneg nonneg
  · simp [value]

/-- A positive number gives a double of positive sign. -/
theorem sign (rounded : d.RoundsOrUnderflows r) (positive : 0 < r) : d.negative = false := by
  rcases rounded with rounds | ⟨rfl, -⟩
  · simp only [Rounds, positive.ne', if_false, decide_eq_false (not_lt.2 positive.le)] at rounds
    exact rounds.1
  · rfl

/-- Neither rounding nor underflow passes a whole number up to `2^53` going up. -/
theorem le_natCast (canonical : d.Canonical) (rounded : d.RoundsOrUnderflows r) (small : k ≤ 2 ^ 53)
    (le : r ≤ k) : d.value ≤ k := by
  rcases rounded with rounds | ⟨rfl, -⟩
  · exact rounds.le_natCast canonical small le
  · simp [value]

end RoundsOrUnderflows

end Dyadic

/-! ### Normalizing a signed mantissa -/

section Normalize

variable {m' : Nat} {q' : Int}

/-- A positive mantissa at an exponent in range, its value at most a positive double, rounds to a
canonical double rounding its value. -/
theorem round_rounds {M : Nat} {E : Int} (positive : 0 < M) (least : -1074 ≤ E)
    (canonical' : Dyadic.Canonical ⟨false, m', q'⟩) (fits : (M : ℚ) * 2 ^ E ≤ m' * 2 ^ q') :
    ∃ d : Dyadic, d.Canonical ∧ d.Rounds (M * 2 ^ E) ∧
      UnpackedFloat.round Format.binary64 .positive M E = (FloatShape.finite d).unpacked := by
  obtain ⟨n, rounds, rounded⟩ := round_exact (E := E) positive
  have binade := atBinade_target positive E
  have low : (2 : ℚ) ^ (-1074 : Int) ≤ M * 2 ^ E :=
    calc (2 : ℚ) ^ (-1074 : Int) ≤ 2 ^ E := zpow_le_zpow_right₀ one_le_two least
      _ ≤ M * 2 ^ E := le_mul_of_one_le_left (by positivity) (by exact_mod_cast positive)
  have inRange := (Dyadic.roundedAt_exponent_le binade rounds canonical' fits).trans canonical'.le_greatest
  exact ⟨_, Dyadic.canonical_roundedAt binade rounds inRange,
    Dyadic.rounds_roundedAt binade rounds (binade.rounded_pos rounds low), rounded⟩

/-- A signed mantissa at an exponent in range, its magnitude at most a positive double,
normalizes to a canonical double rounding its value: zero to positive zero, a negative mantissa
to the negation of its magnitude's rounding. -/
theorem normalize_rounds {M : Int} {E : Int} (least : -1074 ≤ E)
    (canonical' : Dyadic.Canonical ⟨false, m', q'⟩) (fits : |(M : ℚ) * 2 ^ E| ≤ m' * 2 ^ q') :
    ∃ d : Dyadic, FloatShape.of (Float.ofModel (Float.Model.pack
        (UnpackedFloat.normalize Format.binary64 M E .positive))) = .finite d ∧
      d.Canonical ∧ d.Rounds (M * 2 ^ E) := by
  have unitPos : (0 : ℚ) < 2 ^ E := by positivity
  unfold UnpackedFloat.normalize
  rcases lt_trichotomy M 0 with negative | rfl | positive
  · have magnitude : (((-M).toNat : Nat) : ℚ) * 2 ^ E = -(M * 2 ^ E) := by
      have cast : (((-M).toNat : Nat) : ℚ) = -M := by exact_mod_cast Int.toNat_of_nonneg (by omega : 0 ≤ -M)
      rw [cast, neg_mul]
    have valueNeg : (M : ℚ) * 2 ^ E < 0 := mul_neg_of_neg_of_pos (by exact_mod_cast negative) unitPos
    obtain ⟨d, canonical, rounds, rounded⟩ := round_rounds (M := (-M).toNat) (by omega) least canonical'
      (by rw [magnitude, ← abs_of_neg valueNeg]; exact fits)
    rw [Int.compare_eq_lt.2 negative, round_negative, rounded, FloatShape.unpacked_neg]
    refine ⟨_, FloatShape.of_pack_finite canonical.neg, canonical.neg, ?_⟩
    simpa only [magnitude, neg_neg] using rounds.neg
  · rw [Int.compare_eq_eq.2 rfl]
    exact ⟨_, FloatShape.of_pack_zero, Dyadic.canonical_zero, by simp [Dyadic.Rounds]⟩
  · have magnitude : ((M.toNat : Nat) : ℚ) * 2 ^ E = M * 2 ^ E := by
      have cast : ((M.toNat : Nat) : ℚ) = M := by exact_mod_cast Int.toNat_of_nonneg positive.le
      rw [cast]
    obtain ⟨d, canonical, rounds, rounded⟩ := round_rounds (M := M.toNat) (by omega) least canonical'
      (by rw [magnitude]; exact (le_abs_self _).trans fits)
    rw [Int.compare_eq_gt.2 positive, rounded]
    exact ⟨_, FloatShape.of_pack_finite canonical, canonical, magnitude ▸ rounds⟩

end Normalize

/-! ### Differences and products -/

section Operations

variable {x y : Float} {mx my : Nat} {ex ey : Int}

/-- The difference of two positive doubles is a finite double rounding the exact difference: its
magnitude is at most the larger of the two, so it cannot overflow. -/
theorem sub_rounds_of_pos (shapeX : FloatShape.of x = .finite ⟨false, mx, ex⟩)
    (shapeY : FloatShape.of y = .finite ⟨false, my, ey⟩) (positiveX : 0 < mx) (positiveY : 0 < my) :
    ∃ d : Dyadic, FloatShape.of (x - y) = .finite d ∧ d.Canonical ∧ d.Rounds (mx * 2 ^ ex - my * 2 ^ ey) := by
  have canonicalX := (FloatShape.of_eq_finite shapeX).1
  have canonicalY := (FloatShape.of_eq_finite shapeY).1
  have exact : ((((mx <<< (ex - min ex ey).toNat : Nat) : Int) - ((my <<< (ey - min ex ey).toNat : Nat) : Int) :
      Int) : ℚ) * 2 ^ min ex ey = mx * 2 ^ ex - my * 2 ^ ey := by
    rw [Int.cast_sub, Int.cast_natCast, Int.cast_natCast, sub_mul, shiftLeft_value mx (min_le_left ex ey),
      shiftLeft_value my (min_le_right ex ey)]
  have least : -1074 ≤ min ex ey := le_min canonicalX.least_le canonicalY.least_le
  have nonnegX : (0 : ℚ) ≤ mx * 2 ^ ex := by positivity
  have nonnegY : (0 : ℚ) ≤ my * 2 ^ ey := by positivity
  rw [sub_eq_normalize shapeX shapeY positiveX positiveY, ← exact]
  -- the larger of the two bounds the magnitude of the difference
  rcases le_total ((my : ℚ) * 2 ^ ey) (mx * 2 ^ ex) with le | le
  · exact normalize_rounds least canonicalX (by rw [exact, abs_le]; constructor <;> linarith)
  · exact normalize_rounds least canonicalY (by rw [exact, abs_le]; constructor <;> linarith)

/-- The difference of a double not below zero and a positive double is a finite double rounding
the exact difference; from positive zero it is the subtrahend negated. -/
theorem sub_rounds (shapeX : FloatShape.of x = .finite ⟨false, mx, ex⟩)
    (shapeY : FloatShape.of y = .finite ⟨false, my, ey⟩) (positiveY : 0 < my) :
    ∃ d : Dyadic, FloatShape.of (x - y) = .finite d ∧ d.Canonical ∧ d.Rounds (mx * 2 ^ ex - my * 2 ^ ey) := by
  rcases Nat.eq_zero_or_pos mx with rfl | positiveX
  · have canonicalY := (FloatShape.of_eq_finite shapeY).1
    have zero : x.toModel.unpack = .zero .positive := by
      rw [← FloatShape.unpacked_of, shapeX, FloatShape.unpacked_zero]
      rfl
    have difference : x - y = Float.ofModel (Float.Model.pack (FloatShape.finite ⟨true, my, ey⟩).unpacked) := by
      change Float.ofModel (Float.Model.pack (UnpackedFloat.sub Format.binary64 x.toModel.unpack y.toModel.unpack)) = _
      rw [zero, unpack_of_positive shapeY positiveY, FloatShape.unpacked_nonzero ey positiveY]
      rfl
    rw [difference]
    refine ⟨_, FloatShape.of_pack_finite canonicalY.neg, canonicalY.neg, ?_⟩
    simpa [Dyadic.value_positive] using (Dyadic.rounds_value canonicalY).neg
  · exact sub_rounds_of_pos shapeX shapeY positiveX positiveY

/-- The product of two positive doubles, its exact value at most a positive double, is a finite
double: a rounding of that value, or positive zero where the value lies below the least positive
double. -/
theorem mul_rounds (shapeX : FloatShape.of x = .finite ⟨false, mx, ex⟩)
    (shapeY : FloatShape.of y = .finite ⟨false, my, ey⟩) (positiveX : 0 < mx) (positiveY : 0 < my)
    {m' : Nat} {q' : Int} (canonical' : Dyadic.Canonical ⟨false, m', q'⟩)
    (fits : (mx : ℚ) * 2 ^ ex * (my * 2 ^ ey) ≤ m' * 2 ^ q') :
    ∃ d : Dyadic, FloatShape.of (x * y) = .finite d ∧ d.Canonical ∧
      d.RoundsOrUnderflows (mx * 2 ^ ex * (my * 2 ^ ey)) := by
  obtain ⟨s, n, binade, rounds, product⟩ := mul_rounded shapeX shapeY positiveX positiveY
  rw [product]
  rcases Nat.eq_zero_or_pos n with rfl | positive
  · -- nothing is left at the binade: the product underflows to positive zero
    have zero : (FloatShape.finite (Dyadic.roundedAt 0 s)).unpacked = .zero .positive := by
      simp [Dyadic.roundedAt, FloatShape.unpacked, FloatShape.signOf]
    rw [zero]
    refine ⟨_, FloatShape.of_pack_zero, Dyadic.canonical_zero, .inr ⟨rfl, lt_of_not_ge fun low => ?_⟩⟩
    exact absurd (binade.rounded_pos rounds low) (lt_irrefl 0)
  · have inRange := (Dyadic.roundedAt_exponent_le binade rounds canonical' fits).trans canonical'.le_greatest
    have canonical := Dyadic.canonical_roundedAt binade rounds inRange
    exact ⟨_, FloatShape.of_pack_finite canonical, canonical, .inl (Dyadic.rounds_roundedAt binade rounds positive)⟩

end Operations

end LoadHarness
