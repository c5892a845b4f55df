import Mathlib
import LoadHarness.Proofs.Float.Rounding

/-!
# Sums and products of positive doubles

The logical model of doubles multiplies two finite doubles by multiplying their mantissas and
adding their exponents, then rounds (`roundWithAccuracy`); it adds them by aligning both at the
smaller exponent, adding, and rounding again (`round`).  Rounding shifts the exact mantissa
right to the target exponent of its binade, keeping the last bit shifted out and whether any
bit below it was set, and rounds half to even on those two bits.

This module reads that as the rounding of `Proofs/Float/Rounding`: the shifted and rounded
mantissa is `Fixed.roundHalfEven` of the exact one (`roundedMantissa_shift`), the target
exponent is the binade of the exact value (`atBinade_target`), and the result is the double
`Dyadic.roundedAt` (`roundWithAccuracy_exact`, `round_exact`).  A sum or product of positive
doubles in range is therefore the positive double nearest to the exact sum or product
(`isNearest_mul`, `isNearest_add`), as `IsNearest` says.  The order of positive doubles is the
order of their values (`le_iff_value_le`), so rounding to nearest keeps every bound
(`IsNearest.le_of_le`).
-/

open Float.Model Float.Model.UnpackedFloat

namespace LoadHarness

/-! ### Shifting out low bits -/

section Shifting

/-- Shifting an exact mantissa right by `k + 1` places keeps the quotient, the last bit shifted
out as the round bit, and whether any bit below it was set as the sticky bit. -/
theorem shiftRight_exact_succ (M k : Nat) :
    (⟨M, false, false⟩ : ExtendedMantissa) >>> (k + 1) =
      ⟨M / 2 ^ (k + 1), M / 2 ^ k % 2 != 0, M % 2 ^ k != 0⟩ := by
  induction k with
  | zero => simp [HShiftRight.hShiftRight, Nat.repeat, ExtendedMantissa.shiftRightOne, Nat.mod_one]
  | succ k induction =>
      change ExtendedMantissa.shiftRightOne ((⟨M, false, false⟩ : ExtendedMantissa) >>> (k + 1)) = _
      rw [induction]
      simp only [ExtendedMantissa.shiftRightOne, ExtendedMantissa.mk.injEq, Nat.div_div_eq_div_mul,
        ← Nat.pow_succ, true_and]
      -- the bits below the new round bit are the old round bit and the bits below it
      have split : M % 2 ^ (k + 1) = M % 2 ^ k + 2 ^ k * (M / 2 ^ k % 2) := by
        rw [Nat.pow_succ]
        exact Nat.mod_mul
      have unit : 0 < 2 ^ k := Nat.two_pow_pos k
      rcases Nat.mod_two_eq_zero_or_one (M / 2 ^ k) with zero | one
      · simp [split, zero]
      · simp only [split, one]
        simp

/-- Rounding the shifted mantissa on its round and sticky bits is half-to-even rounding of the
exact mantissa over `2^k`. -/
theorem roundedMantissa_shift (M k : Nat) :
    ((⟨M, false, false⟩ : ExtendedMantissa) >>> k).roundedMantissa = Fixed.roundHalfEven M (2 ^ k) := by
  cases k with
  | zero =>
      simp [HShiftRight.hShiftRight, Nat.repeat, ExtendedMantissa.roundedMantissa,
        ExtendedMantissa.accuracy, Accuracy.roundToNearestEven, Fixed.roundHalfEven, Nat.mod_one]
  | succ k =>
      rw [shiftRight_exact_succ]
      have split : M % 2 ^ (k + 1) = M % 2 ^ k + 2 ^ k * (M / 2 ^ k % 2) := by
        rw [Nat.pow_succ]
        exact Nat.mod_mul
      have below : M % 2 ^ k < 2 ^ k := Nat.mod_lt M (Nat.two_pow_pos k)
      have double : 2 ^ (k + 1) = 2 * 2 ^ k := by rw [Nat.pow_succ, Nat.mul_comm]
      have bitLt : M / 2 ^ k % 2 < 2 := Nat.mod_lt _ (by decide)
      have unitPos : 0 < 2 ^ k := Nat.two_pow_pos k
      unfold Fixed.roundHalfEven
      simp only
      rw [split, double]
      -- the quotient, the round bit, the bits below it and the unit as plain numbers
      generalize M / (2 * 2 ^ k) = quotient
      generalize M / 2 ^ k % 2 = bit at *
      generalize M % 2 ^ k = rest at *
      generalize 2 ^ k = unit at *
      have bitCases : bit = 0 ∨ bit = 1 := by omega
      rcases bitCases with rfl | rfl <;> rcases Nat.eq_zero_or_pos rest with rfl | inexact
      · -- nothing shifted out
        simp [ExtendedMantissa.roundedMantissa, ExtendedMantissa.accuracy,
          Accuracy.roundToNearestEven]
        omega
      · -- less than half a unit shifted out
        have sticky : (rest != 0) = true := by simpa using inexact.ne'
        simp [sticky, ExtendedMantissa.roundedMantissa, ExtendedMantissa.accuracy,
          Accuracy.roundToNearestEven]
        omega
      · -- exactly half a unit: to the even neighbour
        simp [ExtendedMantissa.roundedMantissa, ExtendedMantissa.accuracy,
          Accuracy.roundToNearestEven]
        split_ifs <;> omega
      · -- more than half a unit
        have sticky : (rest != 0) = true := by simpa using inexact.ne'
        simp [sticky, ExtendedMantissa.roundedMantissa, ExtendedMantissa.accuracy,
          Accuracy.roundToNearestEven]
        omega

end Shifting

/-! ### The target exponent is the binade of the exact value -/

section Target

/-- The exponent rounding aims at: 52 places below the leading bit, but not below the least
exponent. -/
theorem targetExponent_binary64 (M : Nat) (E : Int) :
    Format.binary64.targetExponent (totalExponent M E) = max ((M.log2 : Int) + E - 52) (-1074) := by
  simp only [Format.targetExponent, totalExponent, Format.mantissaBits, Format.minExponent]
  norm_num
  omega

theorem two_zpow_log2_le {M : Nat} (positive : 0 < M) : (2 : ℚ) ^ (M.log2 : Int) ≤ M := by
  rw [zpow_natCast]
  exact_mod_cast Nat.log2_self_le positive.ne'

theorem lt_two_zpow_log2 (M : Nat) : (M : ℚ) < 2 ^ ((M.log2 : Int) + 1) := by
  rw [show (M.log2 : Int) + 1 = ((M.log2 + 1 : Nat) : Int) by push_cast; rfl, zpow_natCast]
  exact_mod_cast Nat.lt_log2_self

/-- The target exponent of a positive mantissa is the binade of the value it stands for. -/
theorem atBinade_target {M : Nat} (positive : 0 < M) (E : Int) :
    Dyadic.AtBinade ((M : ℚ) * 2 ^ E) (Format.binary64.targetExponent (totalExponent M E)) := by
  rw [targetExponent_binary64]
  set t := max ((M.log2 : Int) + E - 52) (-1074) with target
  have scaled : (M : ℚ) * 2 ^ E / 2 ^ t = M * 2 ^ (E - t) := by
    rw [zpow_sub₀ two_ne_zero]
    ring
  refine ⟨le_max_right _ _, ?_, ?_⟩
  · rw [scaled]
    calc (M : ℚ) * 2 ^ (E - t) < 2 ^ ((M.log2 : Int) + 1) * 2 ^ (E - t) :=
          mul_lt_mul_of_pos_right (lt_two_zpow_log2 M) (by positivity)
      _ = 2 ^ ((M.log2 : Int) + 1 + (E - t)) := (zpow_add₀ two_ne_zero _ _).symm
      _ ≤ 2 ^ (53 : Int) := zpow_le_zpow_right₀ one_le_two (by omega)
      _ = 2 ^ 53 := by norm_num
  · by_cases least : t = -1074
    · exact .inr least
    · -- above the least exponent the shift leaves exactly 53 bits
      left
      rw [scaled]
      calc (2 : ℚ) ^ 52 = 2 ^ ((M.log2 : Int) + (E - t)) := by
            rw [show (M.log2 : Int) + (E - t) = 52 by omega]
            norm_num
        _ = 2 ^ (M.log2 : Int) * 2 ^ (E - t) := zpow_add₀ two_ne_zero _ _
        _ ≤ M * 2 ^ (E - t) := mul_le_mul_of_nonneg_right (two_zpow_log2_le positive) (by positivity)

/-- Shifted right to an exponent `t` at or above its own, a mantissa is rounded as its value over
`2^t`. -/
theorem roundsTo_shifted (M : Nat) {E t : Int} (aligned : E ≤ t) :
    RoundsTo ((M : ℚ) * 2 ^ E / 2 ^ t) (Fixed.roundHalfEven M (2 ^ (t - E).toNat)) := by
  have same : (M : ℚ) * 2 ^ E / 2 ^ t = (M : ℚ) / ((2 ^ (t - E).toNat : Nat) : ℚ) := by
    push_cast
    rw [← zpow_natCast, Int.toNat_of_nonneg (by omega), zpow_sub₀ two_ne_zero]
    field_simp
  rw [same]
  exact Fixed.roundHalfEven_roundsTo M _ (Nat.two_pow_pos _)

end Target

/-! ### Rounding an exact mantissa -/

section Round

/-- A mantissa of at most 53 bits at an exponent in range is not shifted again. -/
theorem shiftToTargetExponent_small {n : Nat} {e : Int} (small : n < 2 ^ 53) (least : -1074 ≤ e) :
    shiftToTargetExponent Format.binary64 n e .exact = (⟨n, false, false⟩, e) := by
  have log : n.log2 ≤ 52 := by
    rcases Nat.eq_zero_or_pos n with zero | positive
    · simp [zero]
    · have := (Nat.log2_lt positive.ne').2 small
      omega
  have noShift : (Format.binary64.targetExponent (totalExponent n e) - e).toNat = 0 := by
    rw [targetExponent_binary64]
    omega
  simp [shiftToTargetExponent, shiftToExponent, noShift, HShiftRight.hShiftRight, Nat.repeat,
    ExtendedMantissa.ofMantissaAndAccuracy]

/-- A mantissa that rounding carried to `2^53` is shifted once more, into the next binade. -/
theorem shiftToTargetExponent_carry {e : Int} (least : -1074 ≤ e) :
    shiftToTargetExponent Format.binary64 (2 ^ 53) e .exact = (⟨2 ^ 52, false, false⟩, e + 1) := by
  have oneShift : (Format.binary64.targetExponent (totalExponent (2 ^ 53) e) - e).toNat = 1 := by
    rw [targetExponent_binary64, Nat.log2_two_pow]
    omega
  simp only [shiftToTargetExponent, shiftToExponent]
  rw [oneShift]
  rfl

variable {M : Nat} {E : Int}

/-- Rounding an exact positive mantissa whose exponent is at most its target gives the double
`roundedAt` of its half-to-even rounding at the target exponent. -/
theorem roundWithAccuracy_exact (positive : 0 < M)
    (aligned : E ≤ Format.binary64.targetExponent (totalExponent M E)) :
    roundWithAccuracy Format.binary64 .positive M E .exact =
      (FloatShape.finite (Dyadic.roundedAt
        (Fixed.roundHalfEven M (2 ^ (Format.binary64.targetExponent (totalExponent M E) - E).toNat))
        (Format.binary64.targetExponent (totalExponent M E)))).unpacked := by
  have binade := atBinade_target positive E
  have first : shiftToTargetExponent Format.binary64 M E .exact =
      ((⟨M, false, false⟩ : ExtendedMantissa) >>>
          (Format.binary64.targetExponent (totalExponent M E) - E).toNat,
        Format.binary64.targetExponent (totalExponent M E)) := by
    simp only [shiftToTargetExponent, shiftToExponent, ExtendedMantissa.ofMantissaAndAccuracy,
      Prod.mk.injEq, true_and]
    omega
  unfold roundWithAccuracy
  rw [first]
  simp only [roundedMantissa_shift]
  generalize Format.binary64.targetExponent (totalExponent M E) = t at binade aligned ⊢
  have atMost := Dyadic.roundedAt_le binade (roundsTo_shifted M aligned)
  have least := binade.least_le
  by_cases carried : Fixed.roundHalfEven M (2 ^ (t - E).toNat) = 2 ^ 53
  · -- the carry moves the result one binade up
    simp only [carried, shiftToTargetExponent_carry least]
    simp [Dyadic.roundedAt, FloatShape.unpacked, FloatShape.signOf]
  · simp only [shiftToTargetExponent_small (lt_of_le_of_ne atMost carried) least]
    by_cases zero : Fixed.roundHalfEven M (2 ^ (t - E).toNat) = 0
    · simp [zero, Dyadic.roundedAt, FloatShape.unpacked, FloatShape.signOf]
    · rw [Dyadic.roundedAt, if_neg carried]
      simp [zero, FloatShape.unpacked, FloatShape.signOf]

theorem log2_shiftLeft {M : Nat} (positive : 0 < M) (j : Nat) : (M <<< j).log2 = M.log2 + j := by
  rw [Nat.shiftLeft_eq]
  have low := Nat.log2_self_le positive.ne'
  have high := @Nat.lt_log2_self M
  refine (Nat.log2_eq_iff (by positivity)).2 ⟨?_, ?_⟩
  · rw [Nat.pow_add]
    exact Nat.mul_le_mul_right _ low
  · rw [show M.log2 + j + 1 = M.log2 + 1 + j by omega, Nat.pow_add]
    exact Nat.mul_lt_mul_of_pos_right high (Nat.two_pow_pos j)

/-- Rounding a positive mantissa at any exponent: `round` first moves a mantissa of too few
bits up to its target exponent, then rounds it there. -/
theorem round_exact (positive : 0 < M) :
    ∃ n, RoundsTo ((M : ℚ) * 2 ^ E / 2 ^ Format.binary64.targetExponent (totalExponent M E)) n ∧
      UnpackedFloat.round Format.binary64 .positive M E =
        (FloatShape.finite (Dyadic.roundedAt n (Format.binary64.targetExponent (totalExponent M E)))).unpacked := by
  unfold UnpackedFloat.round decreaseExponent
  simp only
  generalize shift : (E - Format.binary64.targetExponent (totalExponent M E)).toNat = j
  -- moving the mantissa up keeps its value and its binade
  have shifted : 0 < M <<< j := by
    rw [Nat.shiftLeft_eq]
    exact Nat.mul_pos positive (Nat.two_pow_pos j)
  have sameTarget : Format.binary64.targetExponent (totalExponent (M <<< j) (E - j)) =
      Format.binary64.targetExponent (totalExponent M E) := by
    rw [targetExponent_binary64, targetExponent_binary64, log2_shiftLeft positive]
    omega
  have sameValue : ((M <<< j : Nat) : ℚ) * 2 ^ (E - j) = M * 2 ^ E := by
    rw [Nat.shiftLeft_eq, zpow_sub₀ two_ne_zero, zpow_natCast]
    push_cast
    field_simp
  have aligned : E - j ≤ Format.binary64.targetExponent (totalExponent (M <<< j) (E - j)) := by
    rw [sameTarget]
    omega
  have rounded := roundWithAccuracy_exact shifted aligned
  rw [sameTarget] at rounded aligned
  refine ⟨_, ?_, rounded⟩
  rw [← sameValue]
  exact roundsTo_shifted _ aligned

end Round

/-! ### Packing a rounded double -/

section Pack

/-- A word holding the bits of a canonical dyadic is the double of that shape. -/
theorem FloatShape.of_eq_of_bits {x : Float} {d : Dyadic} (canonical : d.Canonical)
    (bits : x.toBits.toNat = d.bits) : FloatShape.of x = .finite d := by
  obtain ⟨negative, m, q⟩ := d
  obtain ⟨mantissaLt, least, greatest, normal⟩ := canonical
  simp only at mantissaLt least greatest normal
  have sign : x.toBits.toNat / 2 ^ 63 = if negative then 1 else 0 := by
    rw [bits, Dyadic.bits]
    cases negative <;> simp <;> omega
  unfold FloatShape.of
  simp only [sign_bit_eq x, biased_exponent_eq x, fraction_eq x]
  by_cases low : m < 2 ^ 52
  · -- subnormal: a zero exponent field above the whole mantissa
    have bottom : q = -1074 := normal.resolve_left (by omega)
    subst bottom
    have biased : x.toBits.toNat / 2 ^ 52 % 2 ^ 11 = 0 := by
      rw [bits, Dyadic.bits]
      cases negative <;> simp <;> omega
    have fraction : x.toBits.toNat % 2 ^ 52 = m := by
      rw [bits, Dyadic.bits]
      cases negative <;> simp <;> omega
    simp only [sign, biased, fraction]
    cases negative <;> simp
  · -- normal: the biased exponent above the mantissa without its leading bit
    have biased : x.toBits.toNat / 2 ^ 52 % 2 ^ 11 = (q + 1074).toNat + 1 := by
      rw [bits, Dyadic.bits]
      cases negative <;> simp <;> omega
    have fraction : x.toBits.toNat % 2 ^ 52 = m - 2 ^ 52 := by
      rw [bits, Dyadic.bits]
      cases negative <;> simp <;> omega
    have notTop : ¬ (q + 1074).toNat = 2046 := by omega
    simp only [sign, biased, fraction]
    cases negative <;> simp [notTop] <;> omega

/-- Packing a positive canonical double writes its bit formula. -/
theorem toNat_pack_positive {m : Nat} {q : Int} (canonical : Dyadic.Canonical ⟨false, m, q⟩)
    (positive : 0 < m) :
    (UnpackedFloat.pack Format.binary64 (.finite .positive m q positive)).toNat =
      Dyadic.bits ⟨false, m, q⟩ := by
  obtain ⟨mantissaLt, least, greatest, normal⟩ := canonical
  simp only at mantissaLt least greatest normal
  have finite : ¬ 2 ^ Format.binary64.exponentBits ≤
      (q + Format.binary64.exponentBias + Format.binary64.mantissaBitsWithoutImplicit).toNat + 1 := by
    rw [exponentBias_binary64]
    simp only
    omega
  simp only [UnpackedFloat.pack]
  rw [if_neg finite]
  by_cases low : m < 2 ^ 52
  · -- subnormal: the exponent field is zero and the mantissa is stored whole
    have bottom : q = -1074 := normal.resolve_left (by omega)
    have subnormal : m.log2 + 1 ≠ Format.binary64.mantissaBits := by
      have := (Nat.log2_lt positive.ne').2 low
      rw [mantissaBits_binary64]
      omega
    rw [if_neg subnormal, toNat_packComponents]
    simp [Sign.toBitVec, Dyadic.bits, bottom]
    exact low
  · -- normal: the leading bit is implicit and the biased exponent is stored
    have log : m.log2 + 1 = Format.binary64.mantissaBits := by
      have above : 52 ≤ m.log2 := (Nat.le_log2 positive.ne').2 (by omega)
      have below : m.log2 < 53 := (Nat.log2_lt positive.ne').2 mantissaLt
      rw [mantissaBits_binary64]
      omega
    rw [if_pos log, toNat_packComponents]
    simp [Sign.toBitVec, Dyadic.bits, exponentBias_binary64]
    omega

/-- Packing the unpacked form of a positive canonical double gives that double. -/
theorem of_ofModel_pack {d : Dyadic} (canonical : d.Canonical) (positive : 0 < d.mantissa)
    (sign : d.negative = false) :
    FloatShape.of (Float.ofModel (Float.Model.pack (FloatShape.finite d).unpacked)) = .finite d := by
  obtain ⟨negative, m, q⟩ := d
  simp only at positive sign
  subst sign
  apply FloatShape.of_eq_of_bits canonical
  have unpacked : (FloatShape.finite ⟨false, m, q⟩).unpacked = .finite .positive m q positive := by
    simp [FloatShape.unpacked, positive.ne', FloatShape.signOf]
  rw [unpacked, ← toNat_pack_positive canonical positive]
  rfl

end Pack

/-! ### Sums and products of positive doubles -/

/-- `x` is the positive double nearest to `r`: a positive finite double whose rounding interval
holds `r`. -/
def IsNearest (x : Float) (r : ℚ) : Prop :=
  ∃ d : Dyadic, FloatShape.of x = .finite d ∧ d.negative = false ∧ 0 < d.mantissa ∧ d.Within r

section Nearest

/-- A positive double is the nearest double to its own value. -/
theorem isNearest_of_shape {x : Float} {m : Nat} {q : Int}
    (shape : FloatShape.of x = .finite ⟨false, m, q⟩) (positive : 0 < m) :
    IsNearest x (m * 2 ^ q) :=
  ⟨_, shape, rfl, positive, Dyadic.within_self positive⟩

/-- A number not below the least positive double rounds at its binade to a positive mantissa:
it is at least one unit of the last place. -/
theorem Dyadic.AtBinade.rounded_pos {r : ℚ} {t : Int} {n : Nat} (binade : Dyadic.AtBinade r t)
    (rounds : RoundsTo (r / 2 ^ t) n) (low : (2 : ℚ) ^ (-1074 : Int) ≤ r) : 0 < n := by
  have oneUnit : 1 ≤ r / 2 ^ t := by
    rcases binade.reaches with normal | least
    · have : (1 : ℚ) ≤ 2 ^ 52 := by norm_num
      linarith
    · rw [least, le_div_iff₀ (by positivity), one_mul]
      exact low
  have : (0 : ℚ) < n := by linarith [rounds.below]
  exact_mod_cast this

/-- The double packed from a positive rounding of `r` at its binade is the nearest to `r` whenever
the rounding, a carry included, stays within the greatest exponent. -/
theorem isNearest_pack_of_fits {r : ℚ} {t : Int} {n : Nat} (binade : Dyadic.AtBinade r t)
    (rounds : RoundsTo (r / 2 ^ t) n) (positive : 0 < n) (fits : (Dyadic.roundedAt n t).exponent ≤ 971) :
    IsNearest (Float.ofModel (Float.Model.pack (FloatShape.finite (Dyadic.roundedAt n t)).unpacked)) r := by
  obtain ⟨mantissaPos, sign⟩ := Dyadic.roundedAt_positive positive
  exact ⟨_, of_ofModel_pack (Dyadic.canonical_roundedAt binade rounds fits) mantissaPos sign, sign,
    mantissaPos, Dyadic.within_roundedAt binade rounds positive⟩

/-- The double packed from the rounding of `r` at its binade is the nearest to `r`, for `r`
between the least positive double and `2^1023`. -/
theorem isNearest_pack {r : ℚ} {t : Int} {n : Nat} (binade : Dyadic.AtBinade r t)
    (rounds : RoundsTo (r / 2 ^ t) n) (low : (2 : ℚ) ^ (-1074 : Int) ≤ r) (high : r < 2 ^ 1023) :
    IsNearest (Float.ofModel (Float.Model.pack (FloatShape.finite (Dyadic.roundedAt n t)).unpacked)) r := by
  have scalePos : (0 : ℚ) < 2 ^ t := by positivity
  -- below `2^1023` the binade stays in range, and a carry moves it up one at most
  have inRange : t ≤ 970 := by
    by_contra big
    have reaches := binade.reaches.resolve_right (by omega)
    have top : (2 : ℚ) ^ 1023 ≤ r :=
      calc (2 : ℚ) ^ 1023 = 2 ^ ((52 : Int) + 971) := by
            rw [show (52 : Int) + 971 = ((1023 : Nat) : Int) by norm_num, zpow_natCast]
        _ = 2 ^ 52 * 2 ^ (971 : Int) := by
            rw [zpow_add₀ two_ne_zero]
            norm_num
        _ ≤ 2 ^ 52 * 2 ^ t := by gcongr <;> [norm_num; omega]
        _ ≤ r / 2 ^ t * 2 ^ t := by gcongr
        _ = r := div_mul_cancel₀ r scalePos.ne'
    exact absurd high (not_lt.2 top)
  exact isNearest_pack_of_fits binade rounds (binade.rounded_pos rounds low)
    ((Dyadic.roundedAt_exponent_le_succ n t).trans (by omega))

/-- The shift `nearest` rounds at is the binade of the ratio, not below the least exponent. -/
theorem Binary.atBinade_shift {num den : Nat} (positiveNum : 0 < num) (positiveDen : 0 < den) :
    Dyadic.AtBinade ((num : ℚ) / den) (max (Binary.leadingShift num den) (-1074)) := by
  obtain ⟨reaches, stays⟩ := Binary.leadingShift_spec positiveNum positiveDen
  refine ⟨le_max_right _ _, ?_, ?_⟩
  · calc (num : ℚ) / den / 2 ^ max (Binary.leadingShift num den) (-1074)
        ≤ num / den / 2 ^ Binary.leadingShift num den :=
          div_le_div_of_nonneg_left (by positivity) (by positivity)
            (zpow_le_zpow_right₀ one_le_two (le_max_left _ _))
      _ < 2 ^ 53 := stays
  · rcases max_choice (Binary.leadingShift num den) (-1074) with shift | least
    · rw [shift]
      exact .inl reaches
    · exact .inr least

/-- `Binary.nearest` reads every positive ratio in range as the double nearest to it. -/
theorem isNearest_nearest {num den : Nat} (positiveNum : 0 < num) (positiveDen : 0 < den)
    (low : (2 : ℚ) ^ (-1074 : Int) ≤ num / den) (high : (num : ℚ) / den < 2 ^ 1023) :
    IsNearest (Binary.nearest false num den) (num / den) := by
  have binade := Binary.atBinade_shift positiveNum positiveDen
  obtain ⟨n, rounds⟩ := RoundsTo.exists_of_nonneg
    (show (0 : ℚ) ≤ num / den / 2 ^ max (Binary.leadingShift num den) (-1074) by positivity)
  obtain ⟨⟨negative, m, q⟩, shape, sign, positive, within⟩ := isNearest_pack binade rounds low high
  simp only at sign positive
  subst sign
  rw [Binary.nearest_eq_of_within shape positive positiveDen within]
  exact ⟨_, shape, rfl, positive, within⟩

theorem unpack_of_positive {x : Float} {m : Nat} {q : Int}
    (shape : FloatShape.of x = .finite ⟨false, m, q⟩) (positive : 0 < m) :
    x.toModel.unpack = .finite .positive m q positive := by
  rw [← FloatShape.unpacked_of x, shape]
  simp [FloatShape.unpacked, positive.ne', FloatShape.signOf]

/-- A mantissa shifted left to a smaller exponent keeps its value. -/
theorem shiftLeft_value (m : Nat) {e E : Int} (le : E ≤ e) :
    ((m <<< (e - E).toNat : Nat) : ℚ) * 2 ^ E = m * 2 ^ e := by
  rw [Nat.shiftLeft_eq]
  push_cast
  rw [← zpow_natCast, Int.toNat_of_nonneg (by omega), mul_assoc, ← zpow_add₀ two_ne_zero]
  congr 2
  omega

variable {x y : Float} {mx my : Nat} {ex ey : Int}

/-- A product of positive doubles is the packed rounding of its exact value at the binade of that
value. -/
theorem mul_rounded (shapeX : FloatShape.of x = .finite ⟨false, mx, ex⟩)
    (shapeY : FloatShape.of y = .finite ⟨false, my, ey⟩) (positiveX : 0 < mx) (positiveY : 0 < my) :
    ∃ s n, Dyadic.AtBinade (mx * 2 ^ ex * (my * 2 ^ ey)) s ∧
      RoundsTo (mx * 2 ^ ex * (my * 2 ^ ey) / 2 ^ s) n ∧
      x * y = Float.ofModel (Float.Model.pack (FloatShape.finite (Dyadic.roundedAt n s)).unpacked) := by
  have canonicalX := (FloatShape.of_eq_finite shapeX).1
  have canonicalY := (FloatShape.of_eq_finite shapeY).1
  have positive : 0 < mx * my := Nat.mul_pos positiveX positiveY
  have exact : (mx : ℚ) * 2 ^ ex * (my * 2 ^ ey) = ((mx * my : Nat) : ℚ) * 2 ^ (ex + ey) := by
    push_cast
    rw [zpow_add₀ two_ne_zero]
    ring
  -- the target exponent is not below the product's own: a product of fewer than 53 bits comes
  -- only from two subnormal doubles, whose exponents add far below the least one
  have aligned : ex + ey ≤ Format.binary64.targetExponent (totalExponent (mx * my) (ex + ey)) := by
    rw [targetExponent_binary64]
    by_cases wide : 52 ≤ (mx * my).log2
    · omega
    · have small : mx * my < 2 ^ 52 :=
        calc mx * my < 2 ^ ((mx * my).log2 + 1) := Nat.lt_log2_self
          _ ≤ 2 ^ 52 := Nat.pow_le_pow_right (by decide) (by omega)
      have leastX : ex = -1074 :=
        canonicalX.normal.resolve_left (by simp only; nlinarith)
      have leastY : ey = -1074 :=
        canonicalY.normal.resolve_left (by simp only; nlinarith)
      omega
  have product : x * y = Float.ofModel (Float.Model.pack
      (UnpackedFloat.mul Format.binary64 x.toModel.unpack y.toModel.unpack)) := rfl
  rw [product, unpack_of_positive shapeX positiveX, unpack_of_positive shapeY positiveY]
  simp only [UnpackedFloat.mul]
  rw [show Sign.positive * Sign.positive = Sign.positive from rfl,
    roundWithAccuracy_exact positive aligned, exact]
  exact ⟨_, _, atBinade_target positive _, roundsTo_shifted _ aligned, rfl⟩

/-- The product of two positive doubles, its exact value in range, is the double nearest to
that value. -/
theorem isNearest_mul (shapeX : FloatShape.of x = .finite ⟨false, mx, ex⟩)
    (shapeY : FloatShape.of y = .finite ⟨false, my, ey⟩) (positiveX : 0 < mx) (positiveY : 0 < my)
    (low : (2 : ℚ) ^ (-1074 : Int) ≤ mx * 2 ^ ex * (my * 2 ^ ey))
    (high : (mx : ℚ) * 2 ^ ex * (my * 2 ^ ey) < 2 ^ 1023) :
    IsNearest (x * y) (mx * 2 ^ ex * (my * 2 ^ ey)) := by
  obtain ⟨s, n, binade, rounds, product⟩ := mul_rounded shapeX shapeY positiveX positiveY
  rw [product]
  exact isNearest_pack binade rounds low high

/-- A sum of positive doubles is the packed rounding of its exact value at the binade of that
value. -/
theorem add_rounded (shapeX : FloatShape.of x = .finite ⟨false, mx, ex⟩)
    (shapeY : FloatShape.of y = .finite ⟨false, my, ey⟩) (positiveX : 0 < mx) (positiveY : 0 < my) :
    ∃ s n, Dyadic.AtBinade (mx * 2 ^ ex + my * 2 ^ ey) s ∧ RoundsTo ((mx * 2 ^ ex + my * 2 ^ ey) / 2 ^ s) n ∧
      x + y = Float.ofModel (Float.Model.pack (FloatShape.finite (Dyadic.roundedAt n s)).unpacked) := by
  have sum : x + y = Float.ofModel (Float.Model.pack
      (UnpackedFloat.add Format.binary64 x.toModel.unpack y.toModel.unpack)) := rfl
  rw [sum, unpack_of_positive shapeX positiveX, unpack_of_positive shapeY positiveY]
  simp only [UnpackedFloat.add, decreaseExponent, Sign.apply]
  -- both mantissas are brought to the smaller exponent and added exactly
  have positive : 0 < mx <<< (ex - min ex ey).toNat + my <<< (ey - min ex ey).toNat := by
    apply Nat.add_pos_left
    rw [Nat.shiftLeft_eq]
    exact Nat.mul_pos positiveX (Nat.two_pow_pos _)
  have total : ((mx <<< (ex - min ex ey).toNat : Nat) : Int) + ((my <<< (ey - min ex ey).toNat : Nat) : Int) =
      ((mx <<< (ex - min ex ey).toNat + my <<< (ey - min ex ey).toNat : Nat) : Int) := by push_cast; rfl
  have greater : compare ((mx <<< (ex - min ex ey).toNat + my <<< (ey - min ex ey).toNat : Nat) : Int) 0 =
      .gt := by
    rw [compare_gt_iff_gt]
    exact_mod_cast positive
  rw [total]
  simp only [UnpackedFloat.normalize, greater, Int.toNat_natCast]
  obtain ⟨n, rounds, rounded⟩ := round_exact (E := min ex ey) positive
  rw [rounded]
  have value : ((mx <<< (ex - min ex ey).toNat + my <<< (ey - min ex ey).toNat : Nat) : ℚ) *
      2 ^ min ex ey = mx * 2 ^ ex + my * 2 ^ ey := by
    rw [Nat.cast_add, add_mul, shiftLeft_value mx (min_le_left ex ey),
      shiftLeft_value my (min_le_right ex ey)]
  rw [← value]
  exact ⟨_, n, atBinade_target positive _, rounds, rfl⟩

/-- The sum of two positive doubles, its exact value below `2^1023`, is the double nearest to
that value. -/
theorem isNearest_add (shapeX : FloatShape.of x = .finite ⟨false, mx, ex⟩)
    (shapeY : FloatShape.of y = .finite ⟨false, my, ey⟩) (positiveX : 0 < mx) (positiveY : 0 < my)
    (high : (mx : ℚ) * 2 ^ ex + my * 2 ^ ey < 2 ^ 1023) :
    IsNearest (x + y) (mx * 2 ^ ex + my * 2 ^ ey) := by
  obtain ⟨s, n, binade, rounds, sum⟩ := add_rounded shapeX shapeY positiveX positiveY
  -- the sum is at least the least positive double
  have low : (2 : ℚ) ^ (-1074 : Int) ≤ mx * 2 ^ ex + my * 2 ^ ey := by
    have first := Dyadic.least_le_value (FloatShape.of_eq_finite shapeX).1 positiveX
    have second : (0 : ℚ) ≤ my * 2 ^ ey := by positivity
    linarith
  rw [sum]
  exact isNearest_pack binade rounds low high

end Nearest

/-! ### The order of positive doubles -/

section Order

variable {x y : Float} {mx my : Nat} {ex ey : Int}

/-- The order of doubles as the logical model reads it. -/
theorem le_iff_unpack_le : x ≤ y ↔ x.toModel.unpack.le y.toModel.unpack = true := decide_eq_true_iff

theorem lt_iff_unpack_lt : x < y ↔ x.toModel.unpack.lt y.toModel.unpack = true := decide_eq_true_iff

/-- Canonical shapes compared by exponent first and mantissa second are in the order of their
values. -/
theorem Dyadic.compare_isLE_iff (canonical : Dyadic.Canonical ⟨false, mx, ex⟩)
    (canonical' : Dyadic.Canonical ⟨false, my, ey⟩) :
    ((compare ex ey).then (compare mx my)).isLE ↔ (mx : ℚ) * 2 ^ ex ≤ my * 2 ^ ey := by
  rcases lt_trichotomy ex ey with lower | same | higher
  · simp only [Int.compare_eq_lt.2 lower, Ordering.lt_then, Ordering.isLE_lt, true_iff]
    exact (Dyadic.value_lt_of_exponent_lt canonical canonical' lower).le
  · subst same
    rw [Int.compare_eq_eq.2 rfl, Ordering.eq_then, Nat.isLE_compare]
    constructor
    · intro le
      gcongr
    · intro le
      exact_mod_cast le_of_mul_le_mul_right le (by positivity)
  · simp only [Int.compare_eq_gt.2 higher, Ordering.gt_then, Ordering.isLE_gt, Bool.false_eq_true,
      false_iff, not_le]
    exact Dyadic.value_lt_of_exponent_lt canonical' canonical higher

/-- Two positive doubles compare as their values: the model compares exponents first and
mantissas second, which for canonical shapes is the order of the values. -/
theorem le_iff_value_le (shapeX : FloatShape.of x = .finite ⟨false, mx, ex⟩)
    (shapeY : FloatShape.of y = .finite ⟨false, my, ey⟩) (positiveX : 0 < mx) (positiveY : 0 < my) :
    x ≤ y ↔ (mx : ℚ) * 2 ^ ex ≤ my * 2 ^ ey := by
  rw [le_iff_unpack_le, unpack_of_positive shapeX positiveX, unpack_of_positive shapeY positiveY]
  simp only [UnpackedFloat.le, UnpackedFloat.compare, Option.any_some]
  exact Dyadic.compare_isLE_iff (FloatShape.of_eq_finite shapeX).1 (FloatShape.of_eq_finite shapeY).1

theorem lt_iff_value_lt (shapeX : FloatShape.of x = .finite ⟨false, mx, ex⟩)
    (shapeY : FloatShape.of y = .finite ⟨false, my, ey⟩) (positiveX : 0 < mx) (positiveY : 0 < my) :
    x < y ↔ (mx : ℚ) * 2 ^ ex < my * 2 ^ ey := by
  have canonicalX := (FloatShape.of_eq_finite shapeX).1
  have canonicalY := (FloatShape.of_eq_finite shapeY).1
  rw [lt_iff_unpack_lt, unpack_of_positive shapeX positiveX, unpack_of_positive shapeY positiveY]
  simp only [UnpackedFloat.lt, UnpackedFloat.compare]
  rcases lt_trichotomy ex ey with lower | same | higher
  · simp only [Int.compare_eq_lt.2 lower, Ordering.lt_then, beq_self_eq_true, true_iff]
    exact Dyadic.value_lt_of_exponent_lt canonicalX canonicalY lower
  · subst same
    rw [Int.compare_eq_eq.2 rfl, Ordering.eq_then]
    constructor
    · intro less
      have : mx < my := by simpa [Nat.compare_eq_lt] using less
      gcongr
    · intro less
      have : (mx : ℚ) < my := lt_of_mul_lt_mul_right less (by positivity)
      simpa [Nat.compare_eq_lt] using (by exact_mod_cast this : mx < my)
  · simp only [Int.compare_eq_gt.2 higher, Ordering.gt_then]
    simp only [reduceCtorEq, beq_iff_eq, Option.some.injEq, false_iff, not_lt]
    exact (Dyadic.value_lt_of_exponent_lt canonicalY canonicalX higher).le

/-- Rounding to nearest keeps order between positive doubles. -/
theorem IsNearest.le_of_le {r r' : ℚ} (nearest : IsNearest x r) (nearest' : IsNearest y r')
    (le : r ≤ r') : x ≤ y := by
  obtain ⟨⟨negative, m, q⟩, shape, sign, positive, within⟩ := nearest
  obtain ⟨⟨negative', m', q'⟩, shape', sign', positive', within'⟩ := nearest'
  simp only at sign sign' positive positive'
  subst sign sign'
  rw [le_iff_value_le shape shape' positive positive']
  exact Dyadic.value_le_of_within (FloatShape.of_eq_finite shape).1 (FloatShape.of_eq_finite shape').1
    positive positive' within within' le

/-- A positive double is determined by its shape. -/
theorem eq_of_shape {d : Dyadic} (shapeX : FloatShape.of x = .finite d)
    (shapeY : FloatShape.of y = .finite d) : x = y := by
  have bits := (FloatShape.of_eq_finite shapeX).2.trans (FloatShape.of_eq_finite shapeY).2.symm
  rw [← ofBits_toBits x, ← ofBits_toBits y, UInt64.toNat_inj.mp bits]

/-- Two doubles nearest to one value are the same double. -/
theorem IsNearest.eq {r : ℚ} (nearest : IsNearest x r) (nearest' : IsNearest y r) : x = y := by
  obtain ⟨⟨negative, m, q⟩, shape, sign, positive, within⟩ := nearest
  obtain ⟨⟨negative', m', q'⟩, shape', sign', positive', within'⟩ := nearest'
  simp only at sign sign' positive positive'
  subst sign sign'
  have canonical := (FloatShape.of_eq_finite shape).1
  have canonical' := (FloatShape.of_eq_finite shape').1
  -- both round from `r`, so each value is at most the other
  have same := le_antisymm
    (Dyadic.value_le_of_within canonical canonical' positive positive' within within' le_rfl)
    (Dyadic.value_le_of_within canonical' canonical positive' positive within' within le_rfl)
  obtain ⟨rfl, rfl⟩ := Dyadic.eq_of_value_eq canonical canonical' same
  exact eq_of_shape shape shape'

/-- The double nearest to `num / den` is the positive double of exactly that value. -/
theorem nearest_eq_of_shape {num den : Nat} (shapeX : FloatShape.of x = .finite ⟨false, mx, ex⟩)
    (positiveX : 0 < mx) (positiveNum : 0 < num) (positiveDen : 0 < den)
    (value : (num : ℚ) / den = mx * 2 ^ ex) (small : ex ≤ 969) : Binary.nearest false num den = x := by
  have canonical := (FloatShape.of_eq_finite shapeX).1
  have mantissaLt : (mx : ℚ) < 2 ^ 53 := by exact_mod_cast canonical.mantissa_lt
  -- below `2^1022`, inside the range where `isNearest_nearest` applies
  have high : (mx : ℚ) * 2 ^ ex < 2 ^ 1023 :=
    calc (mx : ℚ) * 2 ^ ex < 2 ^ 53 * 2 ^ ex := by gcongr
      _ ≤ 2 ^ 53 * 2 ^ (969 : Int) :=
          mul_le_mul_of_nonneg_left (zpow_le_zpow_right₀ one_le_two small) (by positivity)
      _ = 2 ^ ((1022 : Nat) : Int) := by
          rw [show (2 : ℚ) ^ 53 = 2 ^ (53 : Int) by norm_num, ← zpow_add₀ two_ne_zero]
          norm_num
      _ = 2 ^ 1022 := zpow_natCast 2 1022
      _ < 2 ^ 1023 := pow_lt_pow_right₀ one_lt_two (by norm_num)
  have low := Dyadic.least_le_value canonical positiveX
  rw [← value] at low high
  have exact : IsNearest x ((num : ℚ) / den) := by
    rw [value]
    exact isNearest_of_shape shapeX positiveX
  exact IsNearest.eq (isNearest_nearest positiveNum positiveDen low high) exact

end Order

end LoadHarness
