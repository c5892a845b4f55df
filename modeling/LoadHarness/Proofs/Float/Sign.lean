import Mathlib
import LoadHarness.Proofs.Float.Arithmetic

/-!
# Doubles not below zero

A double is at least zero exactly when the logical model unpacks it to a zero of either sign,
or to a positive finite double or infinity (`zero_le_iff_nonneg`, with `NonnegUnpacked`).  The
operations keep that reading:

* rounding with a positive sign gives a zero or a positive double (`nonneg_roundWithAccuracy`);
* packing writes a clear sign bit, and an all-ones exponent only above an empty fraction, so
  what it writes unpacks to no NaN (`nonneg_pack`);
* the exact difference of two finite doubles in order is not negative, since the model
  compares canonical shapes in the order of their values (`nonneg_sub_finite`).

So the difference of two finite doubles in order is not below zero (`zero_le_sub`), nor is its
product with a positive finite double (`zero_le_mul`).  Neither needs the result to be finite
or nonzero: a difference may overflow to infinity, and `-0 - +0` is `-0`, which is not below
zero either.
-/

open Float.Model Float.Model.UnpackedFloat

namespace LoadHarness

/-- An unpacked double not below zero: a zero of either sign, or a positive finite double or
infinity. -/
def NonnegUnpacked : UnpackedFloat → Prop
  | .zero _ => True
  | .finite sign _ _ _ => sign = .positive
  | .infinity sign => sign = .positive
  | .notANumber => False

/-! ### Reading the sign -/

section Reading

theorem zero_le_iff_nonneg (x : Float) : (0.0 : Float) ≤ x ↔ NonnegUnpacked x.toModel.unpack := by
  rw [le_iff_unpack_le, show (0.0 : Float).toModel.unpack = .zero .positive from rfl]
  cases x.toModel.unpack with
  | zero sign => simp [NonnegUnpacked, UnpackedFloat.le, UnpackedFloat.compare]
  | finite sign => cases sign <;> simp [NonnegUnpacked, UnpackedFloat.le, UnpackedFloat.compare]
  | infinity sign => cases sign <;> simp [NonnegUnpacked, UnpackedFloat.le, UnpackedFloat.compare]
  | notANumber => simp [NonnegUnpacked, UnpackedFloat.le, UnpackedFloat.compare]

/-- A bit pattern with a clear sign bit, and an empty fraction under an all-ones exponent,
unpacks to a double not below zero. -/
theorem nonneg_of_bits {x : Float} (sign : x.toBits.toNat < 2 ^ 63)
    (notNaN : x.toBits.toNat / 2 ^ 52 % 2 ^ 11 = 2047 → x.toBits.toNat % 2 ^ 52 = 0) :
    NonnegUnpacked x.toModel.unpack := by
  have clear : decide (x.toBits.toNat / 2 ^ 63 = 1) = false := decide_eq_false (by omega)
  rw [← FloatShape.unpacked_of]
  unfold FloatShape.of
  simp only [FloatShape.sign_bit_eq, FloatShape.biased_exponent_eq, FloatShape.fraction_eq, clear]
  -- the exponent and fraction fields as opaque numbers
  generalize x.toBits.toNat / 2 ^ 52 % 2 ^ 11 = e at notNaN ⊢
  generalize x.toBits.toNat % 2 ^ 52 = f at notNaN ⊢
  by_cases top : e = 2047
  · simp [top, notNaN top, FloatShape.unpacked, FloatShape.signOf, NonnegUnpacked]
  · by_cases bottom : e = 0
    · simp only [bottom]
      simp [FloatShape.unpacked, FloatShape.signOf]
      split <;> simp [NonnegUnpacked]
    · simp [top, bottom, FloatShape.unpacked, FloatShape.signOf, NonnegUnpacked]

end Reading

/-! ### Rounding and packing -/

section Packing

/-- Rounding with a positive sign gives a positive zero or a positive finite double. -/
theorem nonneg_roundWithAccuracy (M : Nat) (E : Int) (accuracy : Accuracy) :
    NonnegUnpacked (roundWithAccuracy Format.binary64 .positive M E accuracy) := by
  simp only [roundWithAccuracy]
  split <;> trivial

theorem nonneg_round (M : Nat) (E : Int) :
    NonnegUnpacked (UnpackedFloat.round Format.binary64 .positive M E) :=
  nonneg_roundWithAccuracy _ _ _

theorem toNat_toBits_ofModel_pack (u : UnpackedFloat) :
    (Float.ofModel (Float.Model.pack u)).toBits.toNat = (UnpackedFloat.pack Format.binary64 u).toNat :=
  rfl

/-- Packing a positive finite double, whatever its mantissa and exponent, leaves the sign bit
clear, and writes an all-ones exponent only for infinity. -/
theorem pack_positive_bits (m : Nat) (e : Int) (positive : 0 < m) :
    (UnpackedFloat.pack Format.binary64 (.finite .positive m e positive)).toNat < 2 ^ 63 ∧
      ((UnpackedFloat.pack Format.binary64 (.finite .positive m e positive)).toNat / 2 ^ 52 % 2 ^ 11 = 2047 →
        (UnpackedFloat.pack Format.binary64 (.finite .positive m e positive)).toNat % 2 ^ 52 = 0) := by
  simp only [UnpackedFloat.pack]
  split_ifs with overflow normal
  · -- too large: positive infinity
    rw [packedInfinity, toNat_packComponents]
    simp [Sign.toBitVec]
  · -- normal: the biased exponent stays below all ones
    rw [toNat_packComponents]
    rw [exponentBias_binary64] at overflow ⊢
    norm_num at overflow
    simp [Sign.toBitVec]
    omega
  · -- subnormal: a zero exponent
    rw [toNat_packComponents]
    simp [Sign.toBitVec]
    omega

/-- Packing keeps a double not below zero. -/
theorem nonneg_pack {u : UnpackedFloat} (nonneg : NonnegUnpacked u) :
    NonnegUnpacked (Float.Model.pack u).unpack := by
  cases u with
  | notANumber => exact nonneg.elim
  | zero sign => cases sign <;> trivial
  | infinity sign =>
      obtain rfl : sign = .positive := nonneg
      exact (rfl : Sign.positive = .positive)
  | finite sign m e positive =>
      obtain rfl : sign = .positive := nonneg
      obtain ⟨clear, notNaN⟩ := pack_positive_bits m e positive
      rw [← toNat_toBits_ofModel_pack] at clear notNaN
      exact nonneg_of_bits clear notNaN

end Packing

/-! ### Differences and products -/

section Difference

theorem Dyadic.Canonical.unsigned {negative : Bool} {m : Nat} {q : Int}
    (canonical : Canonical ⟨negative, m, q⟩) : Canonical ⟨false, m, q⟩ :=
  ⟨canonical.mantissa_lt, canonical.least_le, canonical.le_greatest, canonical.normal⟩

theorem FloatShape.exists_of_isFinite {x : Float} (finite : Binary.isFinite x = true) :
    ∃ d, FloatShape.of x = .finite d := by
  unfold Binary.isFinite at finite
  split at finite
  · exact ⟨_, ‹_›⟩
  · cases finite

/-- Mantissas shifted to a common exponent below both keep the order of their values. -/
theorem shiftLeft_le_of_value_le {m m' : Nat} {e e' E : Int} (le : (m : ℚ) * 2 ^ e ≤ m' * 2 ^ e')
    (below : E ≤ e) (below' : E ≤ e') : m <<< (e - E).toNat ≤ m' <<< (e' - E).toNat := by
  have scaled : ((m <<< (e - E).toNat : Nat) : ℚ) * 2 ^ E ≤ ((m' <<< (e' - E).toNat : Nat) : ℚ) * 2 ^ E := by
    rw [shiftLeft_value m below, shiftLeft_value m' below']
    exact le
  exact_mod_cast le_of_mul_le_mul_right scaled (by positivity)

/-- The difference of two nonzero finite doubles in order is not below zero: at the smaller
exponent the exact difference of the signed mantissas is not negative, and rounds to a zero or
a positive double. -/
theorem nonneg_sub_finite {s s' : Sign} {m m' : Nat} {e e' : Int} (positive : 0 < m) (positive' : 0 < m')
    (canonical : Dyadic.Canonical ⟨false, m, e⟩) (canonical' : Dyadic.Canonical ⟨false, m', e'⟩)
    (le : (UnpackedFloat.finite s' m' e' positive').le (.finite s m e positive) = true) :
    NonnegUnpacked (UnpackedFloat.sub Format.binary64 (.finite s m e positive) (.finite s' m' e' positive')) := by
  have exact : 0 ≤ s.apply (m <<< (e - min e e').toNat : Nat) - s'.apply (m' <<< (e' - min e e').toNat : Nat) := by
    cases s with
    | negative =>
        cases s' with
        | negative =>
            -- both negative: the model compares them with the order of magnitudes swapped
            simp only [UnpackedFloat.le, UnpackedFloat.compare, Option.any_some, Ordering.isLE_swap] at le
            rw [← Ordering.isLE_swap, Ordering.swap_then, Int.compare_swap, Nat.compare_swap] at le
            have := shiftLeft_le_of_value_le ((Dyadic.compare_isLE_iff canonical canonical').1 le)
              (min_le_left e e') (min_le_right e e')
            simp only [Sign.apply]
            omega
        | positive => simp [UnpackedFloat.le, UnpackedFloat.compare] at le
    | positive =>
        cases s' with
        | negative =>
            -- a sum of magnitudes
            simp only [Sign.apply, sub_neg_eq_add]
            positivity
        | positive =>
            simp only [UnpackedFloat.le, UnpackedFloat.compare, Option.any_some] at le
            have := shiftLeft_le_of_value_le ((Dyadic.compare_isLE_iff canonical' canonical).1 le)
              (min_le_right e e') (min_le_left e e')
            simp only [Sign.apply]
            omega
  simp only [UnpackedFloat.sub, decreaseExponent]
  generalize s.apply _ - s'.apply _ = M at exact
  unfold UnpackedFloat.normalize
  split
  · rename_i negative
    have := Int.compare_eq_lt.1 negative
    omega
  · trivial
  · exact nonneg_round _ _

/-- The model's difference of two finite doubles in order is not below zero. -/
theorem nonneg_sub {x y : Float} (finiteX : Binary.isFinite x = true) (finiteY : Binary.isFinite y = true)
    (le : y ≤ x) : NonnegUnpacked (UnpackedFloat.sub Format.binary64 x.toModel.unpack y.toModel.unpack) := by
  obtain ⟨⟨signX, mx, ex⟩, shapeX⟩ := FloatShape.exists_of_isFinite finiteX
  obtain ⟨⟨signY, my, ey⟩, shapeY⟩ := FloatShape.exists_of_isFinite finiteY
  have canonicalX := (FloatShape.of_eq_finite shapeX).1.unsigned
  have canonicalY := (FloatShape.of_eq_finite shapeY).1.unsigned
  rw [le_iff_unpack_le] at le
  rw [← FloatShape.unpacked_of x, shapeX, ← FloatShape.unpacked_of y, shapeY] at le ⊢
  rcases Nat.eq_zero_or_pos mx with zeroX | positiveX <;>
    rcases Nat.eq_zero_or_pos my with zeroY | positiveY
  · -- two zeros differ by a zero
    simp only [FloatShape.unpacked, zeroX, zeroY, dite_true, UnpackedFloat.sub]
    split <;> trivial
  · -- zero less `y` is `-y`, and `y` is at most zero
    cases signY <;> simp [FloatShape.unpacked, zeroX, positiveY.ne', FloatShape.signOf, UnpackedFloat.sub,
      UnpackedFloat.le, UnpackedFloat.compare, NonnegUnpacked, show -Sign.negative = .positive from rfl] at le ⊢
  · -- `x` less zero is `x`, and `x` is at least zero
    cases signX <;> simp [FloatShape.unpacked, zeroY, positiveX.ne', FloatShape.signOf, UnpackedFloat.sub,
      UnpackedFloat.le, UnpackedFloat.compare, NonnegUnpacked] at le ⊢
  · simp only [FloatShape.unpacked, positiveX.ne', positiveY.ne', dite_false] at le ⊢
    exact nonneg_sub_finite positiveX positiveY canonicalX canonicalY le

/-- The difference of two finite doubles in order is not below zero. -/
theorem zero_le_sub {x y : Float} (finiteX : Binary.isFinite x = true) (finiteY : Binary.isFinite y = true)
    (le : y ≤ x) : (0.0 : Float) ≤ x - y := by
  rw [zero_le_iff_nonneg]
  exact nonneg_pack (nonneg_sub finiteX finiteY le)

theorem nonneg_mul {u : UnpackedFloat} {m : Nat} {q : Int} (nonneg : NonnegUnpacked u) (positive : 0 < m) :
    NonnegUnpacked (UnpackedFloat.mul Format.binary64 u (.finite .positive m q positive)) := by
  cases u with
  | notANumber => exact nonneg.elim
  | zero sign => trivial
  | infinity sign =>
      obtain rfl : sign = .positive := nonneg
      rfl
  | finite sign m' q' positive' =>
      obtain rfl : sign = .positive := nonneg
      exact nonneg_roundWithAccuracy _ _ _

/-- A double not below zero times a positive finite double is not below zero. -/
theorem zero_le_mul {z c : Float} (nonneg : (0.0 : Float) ≤ z) (positive : (0.0 : Float) < c)
    (finite : Binary.isFinite c = true) : (0.0 : Float) ≤ z * c := by
  obtain ⟨m, q, positiveM, shapeC⟩ := (FloatShape.of_pos positive).resolve_right fun infinite => by
    simp [Binary.isFinite, infinite] at finite
  rw [zero_le_iff_nonneg] at nonneg ⊢
  change NonnegUnpacked (Float.Model.pack (UnpackedFloat.mul Format.binary64 z.toModel.unpack c.toModel.unpack)).unpack
  rw [unpack_of_positive shapeC positiveM]
  exact nonneg_pack (nonneg_mul nonneg positiveM)

end Difference

end LoadHarness
