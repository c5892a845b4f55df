import Mathlib
import LoadHarness.Proofs.Float.Difference
import LoadHarness.Proofs.Float.Order

/-!
# Rounding to nearest, overflow aside

`isNearest_mul` and `isNearest_nearest` read a product or a conversion as the double nearest
to its exact value below `2^1023`, where no rounding reaches the greatest exponent.  Above that
bound, the rounding at the binade either fits below the greatest exponent, and is then still
the nearest double, or carries past it and gives infinity.  So a result that is finite is the
nearest double, however large (`isNearest_mul_of_finite`, `nearest_rounds`).

`nearest` rounds the magnitude of a ratio and sets the sign last, so a negative ratio is read
as the negation of its magnitude's rounding.  `Dyadic.Rounds` says this for either sign, and
rounding of either sign keeps order (`Dyadic.Rounds.value_le`): a larger number never rounds
to a smaller double.
-/

open Float.Model Float.Model.UnpackedFloat

namespace LoadHarness

/-! ### Every canonical shape is a double -/

section Bits

/-- A bit pattern whose exponent field is not all ones is valid: only NaN patterns are
constrained. -/
theorem valid_of_exponent_lt {w : UInt64} (below : w.toNat / 2 ^ 52 % 2 ^ 11 < 2047) :
    Format.binary64.Valid w.toBitVec := by
  refine ⟨fun allOnes _ => absurd ?_ below.ne⟩
  have read := congrArg BitVec.toNat allOnes
  rw [toNat_unpackExponent] at read
  simpa using read

/-- A valid bit pattern is read back unchanged from the double it makes. -/
theorem toBits_ofBits {w : UInt64} (valid : Format.binary64.Valid w.toBitVec) :
    (Float.ofBits w).toBits = w := by
  change UInt64.ofBitVec (UnpackedFloat.pack Format.binary64 (UnpackedFloat.unpack Format.binary64 w.toBitVec)) = w
  rw [pack_unpack valid, UInt64.ofBitVec_toBitVec]

/-- Every canonical shape, of either sign, is the shape of a double: the one whose bits are
`Dyadic.bits`. -/
theorem FloatShape.exists_of_canonical {d : Dyadic} (canonical : d.Canonical) :
    ∃ x, FloatShape.of x = .finite d := by
  obtain ⟨negative, m, q⟩ := d
  obtain ⟨mantissaLt, least, greatest, normal⟩ := canonical
  simp only at mantissaLt least greatest
  have bitsLt : Dyadic.bits ⟨negative, m, q⟩ < 2 ^ 64 := by
    simp only [Dyadic.bits]
    cases negative <;> simp <;> omega
  -- the exponent field holds the biased exponent, at most `2046`
  have field : (Dyadic.bits ⟨negative, m, q⟩).toUInt64.toNat / 2 ^ 52 % 2 ^ 11 < 2047 := by
    rw [UInt64.toNat_ofNat', Nat.mod_eq_of_lt bitsLt]
    simp only [Dyadic.bits]
    cases negative <;> simp <;> omega
  refine ⟨Float.ofBits (Dyadic.bits ⟨negative, m, q⟩).toUInt64,
    FloatShape.of_eq_of_bits ⟨mantissaLt, least, greatest, normal⟩ ?_⟩
  rw [toBits_ofBits (valid_of_exponent_lt field), UInt64.toNat_ofNat', Nat.mod_eq_of_lt bitsLt]

/-- A double the model unpacks to an infinity has the infinite shape of that sign. -/
theorem FloatShape.of_unpack_infinity {x : Float} {negative : Bool}
    (unpacked : x.toModel.unpack = .infinity (FloatShape.signOf negative)) :
    FloatShape.of x = .infinite negative := by
  rw [← FloatShape.unpacked_of] at unpacked
  cases shape : FloatShape.of x with
  | finite d =>
      obtain ⟨negative', m, q⟩ := d
      rw [shape] at unpacked
      by_cases zero : m = 0 <;> simp [FloatShape.unpacked, zero] at unpacked
  | infinite negative' =>
      rw [shape] at unpacked
      cases negative <;> cases negative' <;> simp_all [FloatShape.unpacked, FloatShape.signOf]
  | nan =>
      rw [shape] at unpacked
      simp [FloatShape.unpacked] at unpacked

/-- The infinity `nearest` writes has the infinite shape of its sign. -/
theorem FloatShape.of_assemble_infinity (negative : Bool) :
    FloatShape.of (Binary.assemble negative Binary.infinityBits) = .infinite negative := by
  cases negative <;> rfl

end Bits

/-! ### A finite rounding is the nearest double -/

section Overflow

variable {r : ℚ} {t : Int} {n : Nat}

/-- A packed rounding at the binade that is not positive infinity did not overflow, so it is the
double nearest to `r`. -/
theorem isNearest_of_packed (binade : Dyadic.AtBinade r t) (rounds : RoundsTo (r / 2 ^ t) n)
    (low : (2 : ℚ) ^ (-1074 : Int) ≤ r)
    (finite : FloatShape.of (Float.ofModel (Float.Model.pack
      (FloatShape.finite (Dyadic.roundedAt n t)).unpacked)) ≠ .infinite false) :
    IsNearest (Float.ofModel (Float.Model.pack (FloatShape.finite (Dyadic.roundedAt n t)).unpacked)) r := by
  by_cases fits : (Dyadic.roundedAt n t).exponent ≤ 971
  · exact isNearest_pack_of_fits binade rounds (binade.rounded_pos rounds low) fits
  · have overflow := pack_roundedAt_overflow (binade.rounded_pos rounds low) (not_le.1 fits)
    exact absurd (FloatShape.of_unpack_infinity (show _ = UnpackedFloat.infinity (FloatShape.signOf false) from overflow)) finite

variable {x y : Float} {mx my : Nat} {ex ey : Int}

/-- The product of two positive doubles, its exact value not below the least positive double,
is the double nearest to that value unless it overflows to infinity. -/
theorem isNearest_mul_of_finite (shapeX : FloatShape.of x = .finite ⟨false, mx, ex⟩)
    (shapeY : FloatShape.of y = .finite ⟨false, my, ey⟩) (positiveX : 0 < mx) (positiveY : 0 < my)
    (low : (2 : ℚ) ^ (-1074 : Int) ≤ mx * 2 ^ ex * (my * 2 ^ ey))
    (finite : FloatShape.of (x * y) ≠ .infinite false) :
    IsNearest (x * y) (mx * 2 ^ ex * (my * 2 ^ ey)) := by
  obtain ⟨s, n, binade, rounds, product⟩ := mul_rounded shapeX shapeY positiveX positiveY
  rw [product] at finite ⊢
  exact isNearest_of_packed binade rounds low finite

/-- A positive finite double times an infinity is that infinity. -/
theorem mul_infinite {negative : Bool} (shapeX : FloatShape.of x = .finite ⟨false, mx, ex⟩)
    (positiveX : 0 < mx) (infinite : FloatShape.of y = .infinite negative) :
    FloatShape.of (x * y) = .infinite negative := by
  apply FloatShape.of_unpack_infinity
  change (Float.Model.pack (UnpackedFloat.mul Format.binary64 x.toModel.unpack y.toModel.unpack)).unpack = _
  rw [unpack_of_positive shapeX positiveX, ← FloatShape.unpacked_of y, infinite]
  cases negative <;> simp only [FloatShape.unpacked, FloatShape.signOf, UnpackedFloat.mul] <;> rfl

end Overflow

/-! ### Conversions of either sign -/

namespace Binary

variable {negative : Bool} {num den : Nat} {t : Int} {n : Nat}

/-- Where the rounding of the ratio at its binade carries past the greatest exponent, `nearest`
writes infinity, of the sign it is asked for. -/
theorem nearest_overflow (hnum : 0 < num) (hden : 0 < den)
    (binade : Dyadic.AtBinade ((num : ℚ) / den) t) (rounds : RoundsTo ((num : ℚ) / den / 2 ^ t) n)
    (beyond : 971 < (Dyadic.roundedAt n t).exponent) :
    nearest negative num den = assemble negative infinityBits := by
  have above : 971 ≤ t := by
    have := Dyadic.roundedAt_exponent_le_succ n t
    omega
  -- so high up, the shift of `nearest` is the binade itself
  have reaches := binade.reaches.resolve_right (by omega)
  obtain ⟨reachesShift, staysShift⟩ := leadingShift_spec hnum hden
  have shift : max (leadingShift num den) (-1074) = t := by
    rw [le_antisymm (binade_le reachesShift binade.below) (binade_le reaches staysShift)]
    exact max_eq_left binade.least_le
  have denNe : (den == 0) = false := by simpa using hden.ne'
  have numNe : (num == 0) = false := by simpa using hnum.ne'
  unfold nearest
  simp only [denNe, numNe, Bool.false_eq_true, if_false, Nat.pow_eq]
  rw [shift]
  obtain ⟨divisorPos, remainderLt, parts⟩ := scaledQuotient_spec num den t hden
  generalize scaledQuotient num den t = triple at *
  obtain ⟨quotient, remainder, divisor⟩ := triple
  simp only at divisorPos remainderLt parts ⊢
  rw [← parts] at rounds
  rw [roundHalfEven_eq divisorPos remainderLt rounds.above rounds.below rounds.tie]
  -- the carry and the overflow test read the exponent of `roundedAt n t`
  by_cases carried : n = 2 ^ 53
  · rw [Dyadic.roundedAt, if_pos carried] at beyond
    simp only [carried, beq_self_eq_true, if_true]
    rw [if_pos (by simpa using beyond)]
  · rw [Dyadic.roundedAt, if_neg carried] at beyond
    simp only [show (n == 2 ^ 53) = false by simpa using carried, Bool.false_eq_true, if_false]
    rw [if_pos (by simpa using beyond)]

/-- A ratio not below the least positive double is read by `nearest`, of either sign, as a
double of that sign whose magnitude's rounding interval holds the ratio, unless it overflows to
infinity. -/
theorem nearest_rounds (hnum : 0 < num) (hden : 0 < den) (low : (2 : ℚ) ^ (-1074 : Int) ≤ num / den)
    (finite : FloatShape.of (nearest negative num den) ≠ .infinite negative) :
    ∃ m q, 0 < m ∧ FloatShape.of (nearest negative num den) = .finite ⟨negative, m, q⟩ ∧
      Dyadic.Within ⟨false, m, q⟩ (num / den) := by
  have binade := atBinade_shift hnum hden
  obtain ⟨n, rounds⟩ := RoundsTo.exists_of_nonneg
    (show (0 : ℚ) ≤ num / den / 2 ^ max (leadingShift num den) (-1074) by positivity)
  by_cases fits : (Dyadic.roundedAt n (max (leadingShift num den) (-1074))).exponent ≤ 971
  · -- the positive rounding is a double; the same magnitude with the asked sign is one too
    obtain ⟨⟨negative', m, q⟩, shape, sign, positive, within⟩ :=
      isNearest_pack_of_fits binade rounds (binade.rounded_pos rounds low) fits
    simp only at sign positive
    subst sign
    obtain ⟨mantissaLt, least, greatest, normal⟩ := (FloatShape.of_eq_finite shape).1
    have canonical : Dyadic.Canonical ⟨negative, m, q⟩ := ⟨mantissaLt, least, greatest, normal⟩
    obtain ⟨x, shapeX⟩ := FloatShape.exists_of_canonical canonical
    rw [nearest_eq_of_within shapeX positive hden within]
    exact ⟨m, q, positive, shapeX, within⟩
  · rw [nearest_overflow hnum hden binade rounds (not_le.1 fits), FloatShape.of_assemble_infinity] at finite
    exact absurd rfl finite

end Binary

/-! ### Rounding of either sign keeps order -/

namespace Dyadic

/-- The finite double `d` is a rounding to nearest of `r`: a zero for zero, otherwise a double of
the sign of `r` whose magnitude's rounding interval holds `|r|`. -/
def Rounds (d : Dyadic) (r : ℚ) : Prop :=
  if r = 0 then d.mantissa = 0
  else d.negative = decide (r < 0) ∧ 0 < d.mantissa ∧ Within ⟨false, d.mantissa, d.exponent⟩ |r|

variable {d d' : Dyadic} {r r' : ℚ}

/-- Every finite double is a rounding of its own value. -/
theorem rounds_value (canonical : d.Canonical) : d.Rounds d.value := by
  obtain ⟨negative, m, q⟩ := d
  rcases Nat.eq_zero_or_pos m with rfl | positive
  · simp [Rounds, value_zero]
  · have size : (0 : ℚ) < m * 2 ^ q := by positivity
    have within := within_self positive (q := q)
    cases negative
    · simp only [Rounds, value_positive, size.ne', if_false, abs_of_pos size]
      exact ⟨by simp [size.le], positive, within⟩
    · simp only [Rounds, value_negative, neg_eq_zero, size.ne', if_false, abs_neg, abs_of_pos size]
      exact ⟨by simp [size], positive, within⟩

/-- A rounding of a number not below zero is not below zero. -/
theorem Rounds.value_nonneg (rounds : d.Rounds r) (nonneg : 0 ≤ r) : 0 ≤ d.value := by
  obtain ⟨negative, m, q⟩ := d
  unfold Rounds at rounds
  split at rounds
  · simp only at rounds
    simp [rounds, value_zero]
  · obtain ⟨sign, -, -⟩ := rounds
    simp only [decide_eq_false (not_lt.2 nonneg)] at sign
    subst sign
    rw [value_positive]
    positivity

/-- A rounding of a number not above zero is not above zero. -/
theorem Rounds.value_nonpos (rounds : d.Rounds r) (nonpos : r ≤ 0) : d.value ≤ 0 := by
  obtain ⟨negative, m, q⟩ := d
  unfold Rounds at rounds
  split at rounds
  · simp only at rounds
    simp [rounds, value_zero]
  · rename_i nonzero
    obtain ⟨sign, -, -⟩ := rounds
    simp only [decide_eq_true (lt_of_le_of_ne nonpos nonzero)] at sign
    subst sign
    rw [value_negative, neg_nonpos]
    positivity

/-- Rounding keeps order: of two canonical roundings, that of the smaller number is not the
larger.  Across zero this is the sign; on one side of it, the magnitudes keep order
(`value_le_of_within`), turned around for negative numbers. -/
theorem Rounds.value_le (canonical : d.Canonical) (canonical' : d'.Canonical) (rounds : d.Rounds r)
    (rounds' : d'.Rounds r') (le : r ≤ r') : d.value ≤ d'.value := by
  by_cases across : r ≤ 0 ∧ 0 ≤ r'
  · exact (rounds.value_nonpos across.1).trans (rounds'.value_nonneg across.2)
  obtain ⟨negative, m, q⟩ := d
  obtain ⟨negative', m', q'⟩ := d'
  have unsigned := canonical.unsigned
  have unsigned' := canonical'.unsigned
  rcases lt_or_ge 0 r with positive | nonpos
  · -- both numbers are positive
    have positive' : 0 < r' := lt_of_lt_of_le positive le
    simp only [Rounds, positive.ne', positive'.ne', if_false, decide_eq_false (not_lt.2 positive.le),
      decide_eq_false (not_lt.2 positive'.le), abs_of_pos positive, abs_of_pos positive'] at rounds rounds'
    obtain ⟨rfl, mantissaPos, within⟩ := rounds
    obtain ⟨rfl, mantissaPos', within'⟩ := rounds'
    rw [value_positive, value_positive]
    exact value_le_of_within unsigned unsigned' mantissaPos mantissaPos' within within' le
  · -- both numbers are negative
    have negative' : r' < 0 := by
      by_contra nonneg
      exact across ⟨nonpos, not_lt.1 nonneg⟩
    have negativeR : r < 0 := lt_of_le_of_lt le negative'
    simp only [Rounds, negativeR.ne, negative'.ne, if_false, decide_eq_true negativeR,
      decide_eq_true negative', abs_of_neg negativeR, abs_of_neg negative'] at rounds rounds'
    obtain ⟨rfl, mantissaPos, within⟩ := rounds
    obtain ⟨rfl, mantissaPos', within'⟩ := rounds'
    rw [value_negative, value_negative, neg_le_neg_iff]
    exact value_le_of_within unsigned' unsigned mantissaPos' mantissaPos within' within (neg_le_neg le)

end Dyadic

/-! ### Integers and the points of the extended line -/

/-- An integer converts to a double rounding it, unless the conversion overflows. -/
theorem Binary.ofInt_rounds (k : Int) (finite : Binary.isInfinite (Binary.ofInt k) = false) :
    ∃ d, FloatShape.of (Binary.ofInt k) = .finite d ∧ d.Rounds k := by
  rcases eq_or_ne k 0 with rfl | nonzero
  · exact ⟨⟨false, 0, -1074⟩, rfl, by simp [Dyadic.Rounds]⟩
  · -- the magnitude is rounded by `nearest`, with the sign of `k`
    have positive : 0 < k.natAbs := Int.natAbs_pos.2 nonzero
    have low : (2 : ℚ) ^ (-1074 : Int) ≤ (k.natAbs : ℚ) / (1 : Nat) := by
      have one : (1 : ℚ) ≤ k.natAbs := by exact_mod_cast positive
      have tiny : (2 : ℚ) ^ (-1074 : Int) ≤ 1 := zpow_le_one_of_nonpos₀ one_le_two (by norm_num)
      rw [Nat.cast_one, div_one]
      exact tiny.trans one
    have notInfinite : FloatShape.of (Binary.nearest (decide (k < 0)) k.natAbs 1) ≠ .infinite (decide (k < 0)) := by
      intro infinite
      simp [Binary.ofInt, Binary.isInfinite, infinite] at finite
    obtain ⟨m, q, mantissaPos, shape, within⟩ := Binary.nearest_rounds positive one_pos low notInfinite
    refine ⟨_, shape, ?_⟩
    simp only [Dyadic.Rounds, Int.cast_eq_zero, nonzero, if_false, Int.cast_lt_zero]
    refine ⟨trivial, mantissaPos, ?_⟩
    rwa [Nat.cast_one, div_one, Nat.cast_natAbs, Int.cast_abs] at within

/-- Where rounding puts a point of the extended line: an end at the infinity of that end, a
rational at a finite double rounding it. -/
inductive RoundsAt : Float → WithBot (WithTop ℚ) → Prop
  | finite {x : Float} {d : Dyadic} {r : ℚ} :
      FloatShape.of x = .finite d → d.Rounds r → RoundsAt x ((r : WithTop ℚ) : WithBot (WithTop ℚ))
  | bottom {x : Float} : FloatShape.of x = .infinite true → RoundsAt x ⊥
  | top {x : Float} : FloatShape.of x = .infinite false → RoundsAt x ⊤

namespace RoundsAt

variable {x y : Float} {p p' : WithBot (WithTop ℚ)}

theorem ne_nan (rounds : RoundsAt x p) : FloatShape.of x ≠ .nan := by
  cases rounds with
  | finite shape _ => rw [shape]; exact nofun
  | bottom shape => rw [shape]; exact nofun
  | top shape => rw [shape]; exact nofun

/-- Rounding keeps the order of the extended line: the ends stay at the ends, and rationals
round in order (`Dyadic.Rounds.value_le`). -/
theorem position_le (rounds : RoundsAt x p) (rounds' : RoundsAt y p') (le : p ≤ p') :
    (FloatShape.of x).position ≤ (FloatShape.of y).position := by
  cases rounds with
  | bottom shape => simp [shape, FloatShape.position]
  | top shape =>
      cases rounds' with
      | top shape' => simp [shape, shape']
      | finite _ _ => exact absurd le (by simp)
      | bottom _ => exact absurd le (by simp)
  | finite shape rounded =>
      cases rounds' with
      | finite shape' rounded' =>
          have values := rounded.value_le (FloatShape.of_eq_finite shape).1 (FloatShape.of_eq_finite shape').1
            rounded' (by simpa using le)
          simpa [shape, shape', FloatShape.position] using values
      | top shape' => simp [shape', FloatShape.position]
      | bottom _ => exact absurd le (by simp)

end RoundsAt

end LoadHarness
