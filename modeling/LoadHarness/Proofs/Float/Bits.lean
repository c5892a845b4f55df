import Mathlib
import LoadHarness.Number.Binary

/-!
# The bit pattern of a double

`FloatShape.of` reads a double's sign, biased exponent and fraction off its bit pattern with
shifts and masks; the logical model of doubles reads the same fields with bit-vector slices.
This module shows that the two readings agree (`FloatShape.unpacked_of`), that a valid bit
pattern is rebuilt by packing what it unpacks to (`pack_unpack`), so that a double is the
double of its own bits (`ofBits_toBits`), and that the shape of a finite double is canonical:
a mantissa below `2^53` whose leading bit is set unless the exponent is the least one
(`FloatShape.of_eq_finite`).  The bit pattern of a finite double is then one formula in its
mantissa and exponent, `Dyadic.bits`.
-/

open Float.Model Float.Model.UnpackedFloat

namespace LoadHarness

/-! ### The three fields as numbers -/

section Fields

variable (b : BitVec 64)

theorem toNat_unpackSign : (@unpackSign Format.binary64 b).toNat = b.toNat / 2 ^ 63 := by
  simp only [unpackSign, BitVec.toNat_cast, BitVec.extractLsb_toNat, Nat.shiftRight_eq_div_pow]
  have : b.toNat < 2 ^ 64 := b.isLt
  change b.toNat / 2 ^ 63 % 2 ^ 1 = _
  omega

theorem toNat_unpackExponent :
    (@unpackExponent Format.binary64 b).toNat = b.toNat / 2 ^ 52 % 2 ^ 11 := by
  simp only [unpackExponent, BitVec.toNat_cast, BitVec.extractLsb_toNat, Nat.shiftRight_eq_div_pow]

theorem toNat_unpackMantissa : (@unpackMantissa Format.binary64 b).toNat = b.toNat % 2 ^ 52 := by
  simp only [unpackMantissa, BitVec.toNat_cast, BitVec.extractLsb_toNat, Nat.shiftRight_eq_div_pow]
  change b.toNat / 2 ^ 0 % 2 ^ 52 = _
  simp

theorem toNat_eq_sign_exponent_fraction :
    b.toNat = b.toNat / 2 ^ 63 * 2 ^ 63 + b.toNat / 2 ^ 52 % 2 ^ 11 * 2 ^ 52 + b.toNat % 2 ^ 52 := by
  have : b.toNat < 2 ^ 64 := b.isLt
  omega

end Fields

theorem toNat_packComponents (sign : Sign) (exponent : BitVec 11) (mantissa : BitVec 52) :
    (packComponents Format.binary64 sign exponent mantissa).toNat =
      sign.toBitVec.toNat * 2 ^ 63 + exponent.toNat * 2 ^ 52 + mantissa.toNat := by
  have hexp : exponent.toNat < 2 ^ 11 := exponent.isLt
  have hman : mantissa.toNat < 2 ^ 52 := mantissa.isLt
  change (sign.toBitVec ++ exponent ++ mantissa).toNat = _
  rw [BitVec.toNat_append, BitVec.toNat_append, ← Nat.shiftLeft_add_eq_or_of_lt hexp,
    ← Nat.shiftLeft_add_eq_or_of_lt hman, Nat.shiftLeft_eq, Nat.shiftLeft_eq, Nat.add_mul, Nat.mul_assoc,
    ← Nat.pow_add]

theorem toNat_one_append {w : Nat} (v : BitVec w) : (1#1 ++ v).toNat = 2 ^ w + v.toNat := by
  rw [BitVec.toNat_append, ← Nat.shiftLeft_add_eq_or_of_lt v.isLt]
  simp [Nat.shiftLeft_eq]

theorem sign_toBitVec_ofBitVec (v : BitVec 1) : (Sign.ofBitVec v).toBitVec = v := by
  unfold Sign.ofBitVec
  split
  · rename_i zero
    exact zero.symm
  · rename_i nonzero
    apply BitVec.eq_of_toNat_eq
    have small : v.toNat < 2 := v.isLt
    have positive : v.toNat ≠ 0 := fun h => nonzero (BitVec.eq_of_toNat_eq h)
    simp only [Sign.toBitVec, BitVec.toNat_ofNat]
    omega

theorem exponentBias_binary64 : Format.binary64.exponentBias = 1023 := rfl

theorem mantissaBits_binary64 : Format.binary64.mantissaBits = 53 := rfl

/-! ### Packing what a bit pattern unpacks to -/

/-- A valid bit pattern is rebuilt by packing what it unpacks to.  Each branch of `unpack`
is checked on the numeric value of the fields; validity rules out a payload on NaN. -/
theorem pack_unpack {b : BitVec 64} (valid : Format.binary64.Valid b) :
    UnpackedFloat.pack Format.binary64 (UnpackedFloat.unpack Format.binary64 b) = b := by
  have fields := toNat_eq_sign_exponent_fraction b
  have sign := toNat_unpackSign b
  have exponent := toNat_unpackExponent b
  have mantissa := toNat_unpackMantissa b
  have signBits := sign_toBitVec_ofBitVec (@unpackSign Format.binary64 b)
  have exponentSmall : b.toNat / 2 ^ 52 % 2 ^ 11 < 2 ^ 11 := Nat.mod_lt _ (by decide)
  have mantissaSmall : b.toNat % 2 ^ 52 < 2 ^ 52 := Nat.mod_lt _ (by decide)
  unfold UnpackedFloat.unpack
  dsimp only
  split
  · rename_i allOnes
    have top : b.toNat / 2 ^ 52 % 2 ^ 11 = 2047 := by
      rw [← exponent, allOnes]
      rfl
    split
    · rename_i empty
      have none : b.toNat % 2 ^ 52 = 0 := by
        rw [← mantissa, empty]
        rfl
      apply BitVec.eq_of_toNat_eq
      simp only [UnpackedFloat.pack, packedInfinity, toNat_packComponents, signBits, sign]
      change b.toNat / 2 ^ 63 * 2 ^ 63 + 2047 * 2 ^ 52 + 0 = _
      omega
    · rename_i payload
      exact (valid.eq_packedNaN allOnes payload).symm
  · rename_i notTop
    split
    · rename_i bottom
      have low : b.toNat / 2 ^ 52 % 2 ^ 11 = 0 := by
        rw [← exponent, bottom]
        rfl
      split
      · rename_i empty
        have none : b.toNat % 2 ^ 52 = 0 := by
          rw [← mantissa, empty]
          rfl
        apply BitVec.eq_of_toNat_eq
        simp only [UnpackedFloat.pack, packedZero, toNat_packComponents, signBits, sign]
        change b.toNat / 2 ^ 63 * 2 ^ 63 + 0 * 2 ^ 52 + 0 = _
        omega
      · rename_i nonempty
        -- subnormal: the biased exponent comes back as 1, and the mantissa is below `2^52`
        have some : b.toNat % 2 ^ 52 ≠ 0 := fun h =>
          nonempty (BitVec.eq_of_toNat_eq (by rw [mantissa, h]; rfl))
        have belowLog :
            (@unpackMantissa Format.binary64 b).toNat.log2 + 1 ≠ Format.binary64.mantissaBits := by
          have : (@unpackMantissa Format.binary64 b).toNat.log2 < 52 :=
            (Nat.log2_lt (by omega)).2 (by omega)
          rw [mantissaBits_binary64]
          omega
        apply BitVec.eq_of_toNat_eq
        simp only [UnpackedFloat.pack, exponent, low]
        rw [if_neg (by decide), if_neg belowLog, toNat_packComponents, signBits, sign, BitVec.ofNat_toNat,
          BitVec.setWidth_eq, mantissa]
        change b.toNat / 2 ^ 63 * 2 ^ 63 + 0 * 2 ^ 52 + b.toNat % 2 ^ 52 = _
        omega
    · rename_i notBottom
      -- normal: the implicit bit puts the mantissa at 53 bits, and the biased exponent is kept
      have notAllOnes : b.toNat / 2 ^ 52 % 2 ^ 11 ≠ 2047 := fun h =>
        notTop (BitVec.eq_of_toNat_eq (by rw [exponent, h]; rfl))
      have notZero : b.toNat / 2 ^ 52 % 2 ^ 11 ≠ 0 := fun h =>
        notBottom (BitVec.eq_of_toNat_eq (by rw [exponent, h]; rfl))
      have leading : (1#1 ++ @unpackMantissa Format.binary64 b).toNat = 2 ^ 52 + b.toNat % 2 ^ 52 := by
        rw [toNat_one_append, mantissa]
      have log : (2 ^ 52 + b.toNat % 2 ^ 52).log2 + 1 = Format.binary64.mantissaBits := by
        have above : 52 ≤ (2 ^ 52 + b.toNat % 2 ^ 52).log2 := (Nat.le_log2 (by omega)).2 (by omega)
        have below : (2 ^ 52 + b.toNat % 2 ^ 52).log2 < 53 := (Nat.log2_lt (by omega)).2 (by omega)
        rw [mantissaBits_binary64]
        omega
      have biased : ((b.toNat / 2 ^ 52 % 2 ^ 11 : Nat) - ((1023 : Nat) + (52 : Nat)) + (1023 : Nat) +
          (52 : Nat) : Int).toNat = b.toNat / 2 ^ 52 % 2 ^ 11 := by omega
      apply BitVec.eq_of_toNat_eq
      simp only [UnpackedFloat.pack, exponent, leading, exponentBias_binary64]
      rw [biased, if_neg (by omega), if_pos log, toNat_packComponents, signBits, sign, BitVec.toNat_ofNat,
        BitVec.toNat_ofNat]
      omega

/-- A double is the double of its own bit pattern. -/
theorem ofBits_toBits (x : Float) : Float.ofBits x.toBits = x := by
  obtain ⟨⟨bits, valid⟩⟩ := x
  change Float.ofModel (Float.Model.pack (UnpackedFloat.unpack Format.binary64 bits.toBitVec)) = _
  simp only [Float.Model.pack, pack_unpack valid, UInt64.ofBitVec_toBitVec]

namespace FloatShape

/-- The sign of the logical model for a sign bit. -/
def signOf (negative : Bool) : Sign := if negative then .negative else .positive

/-- The shape as the logical model of doubles unpacks it: a zero mantissa is a signed zero. -/
def unpacked : FloatShape → UnpackedFloat
  | .finite ⟨negative, mantissa, exponent⟩ =>
      if h : mantissa = 0 then .zero (signOf negative)
      else .finite (signOf negative) mantissa exponent (Nat.pos_of_ne_zero h)
  | .infinite negative => .infinity (signOf negative)
  | .nan => .notANumber

/-! ### Shifts and masks against slices -/

section Fields

variable (x : Float)

theorem toNat_toModel_toBits : x.toModel.toBits.toBitVec.toNat = x.toBits.toNat := rfl

theorem sign_bit_eq : ((x.toBits >>> 63) == 1) = decide (x.toBits.toNat / 2 ^ 63 = 1) := by
  rw [Bool.eq_iff_iff, beq_iff_eq, decide_eq_true_iff, ← UInt64.toNat_inj, UInt64.toNat_shiftRight]
  simp [Nat.shiftRight_eq_div_pow]

theorem biased_exponent_eq :
    ((x.toBits >>> 52) &&& 0x7FF).toNat = x.toBits.toNat / 2 ^ 52 % 2 ^ 11 := by
  rw [UInt64.toNat_and, UInt64.toNat_shiftRight]
  simp only [Nat.shiftRight_eq_div_pow]
  exact Nat.and_two_pow_sub_one_eq_mod _ 11

theorem fraction_eq : (x.toBits &&& 0xFFFFFFFFFFFFF).toNat = x.toBits.toNat % 2 ^ 52 := by
  rw [UInt64.toNat_and]
  exact Nat.and_two_pow_sub_one_eq_mod _ 52

theorem signOf_unpackSign :
    Sign.ofBitVec (@unpackSign Format.binary64 x.toModel.toBits.toBitVec) =
      signOf (decide (x.toBits.toNat / 2 ^ 63 = 1)) := by
  have sign := toNat_unpackSign x.toModel.toBits.toBitVec
  rw [toNat_toModel_toBits] at sign
  have small : x.toBits.toNat < 2 ^ 64 := x.toBits.toNat_lt
  unfold Sign.ofBitVec signOf
  by_cases one : x.toBits.toNat / 2 ^ 63 = 1
  · have nonzero : ¬ @unpackSign Format.binary64 x.toModel.toBits.toBitVec = 0#1 := fun h => by
      have := congrArg BitVec.toNat h
      rw [sign, one] at this
      exact absurd this (by decide)
    rw [if_neg nonzero, decide_eq_true one, if_pos rfl]
  · have zero : @unpackSign Format.binary64 x.toModel.toBits.toBitVec = 0#1 := by
      apply BitVec.eq_of_toNat_eq
      rw [sign]
      change _ = 0
      omega
    rw [if_pos zero, decide_eq_false one]
    rfl

/-- The shape read with shifts and masks is the value the logical model unpacks. -/
theorem unpacked_of : (FloatShape.of x).unpacked = x.toModel.unpack := by
  have exponent := toNat_unpackExponent x.toModel.toBits.toBitVec
  have mantissa := toNat_unpackMantissa x.toModel.toBits.toBitVec
  rw [toNat_toModel_toBits] at exponent mantissa
  have leading := toNat_one_append (@unpackMantissa Format.binary64 x.toModel.toBits.toBitVec)
  have biased := biased_exponent_eq x
  have fraction := fraction_eq x
  have negative := sign_bit_eq x
  have sign := signOf_unpackSign x
  -- the three fields as opaque numbers, so that no simplification reads them apart
  generalize x.toBits.toNat / 2 ^ 52 % 2 ^ 11 = e at *
  generalize x.toBits.toNat % 2 ^ 52 = f at *
  generalize decide (x.toBits.toNat / 2 ^ 63 = 1) = s at *
  unfold FloatShape.of Float.Model.unpack UnpackedFloat.unpack
  simp only [negative, biased, fraction, sign, ← BitVec.toNat_inj, exponent, mantissa, BitVec.neg_one_eq_allOnes,
    BitVec.toNat_allOnes, BitVec.toNat_ofNat, leading, exponentBias_binary64]
  by_cases top : e = 2047
  · by_cases empty : f = 0
    · simp [top, empty, FloatShape.unpacked]
    · simp [top, empty, FloatShape.unpacked]
  · by_cases bottom : e = 0
    · by_cases empty : f = 0
      · simp [bottom, empty, FloatShape.unpacked]
      · simp [bottom, empty, FloatShape.unpacked]
    · simp [top, bottom, FloatShape.unpacked, Nat.pow_eq, Nat.add_comm]

end Fields

end FloatShape

/-! ### Finite doubles -/

/-- A finite double's mantissa and exponent as its bit pattern stores them: a mantissa of at
most 53 bits, with its leading bit at `2^52` unless the exponent is the least one. -/
structure Dyadic.Canonical (value : Dyadic) : Prop where
  mantissa_lt : value.mantissa < 2 ^ 53
  least_le : -1074 ≤ value.exponent
  le_greatest : value.exponent ≤ 971
  normal : 2 ^ 52 ≤ value.mantissa ∨ value.exponent = -1074

/-- The bit pattern of a finite double of this shape: the biased exponent less one, above a
mantissa that brings its own leading bit. -/
def Dyadic.bits (value : Dyadic) : Nat :=
  (if value.negative then 2 ^ 63 else 0) + (value.exponent + 1074).toNat * 2 ^ 52 + value.mantissa

namespace FloatShape

theorem of_eq_finite {x : Float} {value : Dyadic} (shape : FloatShape.of x = .finite value) :
    value.Canonical ∧ x.toBits.toNat = value.bits := by
  have fields := toNat_eq_sign_exponent_fraction x.toBits.toBitVec
  have small : x.toBits.toNat / 2 ^ 63 < 2 := by have := x.toBits.toNat_lt; omega
  have exponentSmall : x.toBits.toNat / 2 ^ 52 % 2 ^ 11 < 2048 := Nat.mod_lt _ (by decide)
  have fractionSmall : x.toBits.toNat % 2 ^ 52 < 2 ^ 52 := Nat.mod_lt _ (by decide)
  have biased := biased_exponent_eq x
  have fraction := fraction_eq x
  have negative := sign_bit_eq x
  unfold FloatShape.of at shape
  rw [UInt64.toNat_toBitVec] at fields
  simp only [negative, biased, fraction, beq_iff_eq, Nat.pow_eq] at shape
  generalize x.toBits.toNat / 2 ^ 52 % 2 ^ 11 = e at *
  generalize x.toBits.toNat % 2 ^ 52 = f at *
  generalize x.toBits.toNat / 2 ^ 63 = s at *
  by_cases top : e = 2047
  · by_cases empty : f = 0 <;> simp [top, empty] at shape
  · by_cases bottom : e = 0
    · simp only [bottom, if_true, if_neg (by decide : ¬ (0 : Nat) = 2047), FloatShape.finite.injEq] at shape
      subst shape
      refine ⟨⟨by simp only; omega, by simp, by simp, .inr rfl⟩, ?_⟩
      simp only [Dyadic.bits, show ((-1074 : Int) + 1074).toNat = 0 from rfl]
      by_cases one : s = 1
      · rw [if_pos (decide_eq_true one)]
        omega
      · rw [if_neg (by simpa using one)]
        omega
    · simp only [top, bottom, if_false, FloatShape.finite.injEq] at shape
      subst shape
      refine ⟨⟨by simp only; omega, by simp only; omega, by simp only; omega, .inl (by simp only; omega)⟩, ?_⟩
      have biasedLess : ((e : Int) - 1075 + 1074).toNat = e - 1 := by omega
      simp only [Dyadic.bits, biasedLess]
      by_cases one : s = 1
      · rw [if_pos (decide_eq_true one)]
        omega
      · rw [if_neg (by simpa using one)]
        omega

/-- A double is the double of any word that holds its shape's bit pattern. -/
theorem ofBits_eq {x : Float} {value : Dyadic} (shape : FloatShape.of x = .finite value) {word : UInt64}
    (bits : word.toNat = value.bits) : Float.ofBits word = x := by
  have same : word = x.toBits := UInt64.toNat_inj.1 (by rw [bits, (of_eq_finite shape).2])
  rw [same, ofBits_toBits]

/-- A double above zero is a positive finite double with a nonzero mantissa, or positive
infinity. -/
theorem of_pos {x : Float} (positive : (0.0 : Float) < x) :
    (∃ mantissa exponent, 0 < mantissa ∧ FloatShape.of x = .finite ⟨false, mantissa, exponent⟩) ∨
      FloatShape.of x = .infinite false := by
  have zero : (0.0 : Float).toModel.unpack = .zero .positive := by rfl
  replace positive : (0.0 : Float).toModel.unpack.lt x.toModel.unpack = true :=
    of_decide_eq_true positive
  rw [zero, ← unpacked_of] at positive
  cases shape : FloatShape.of x with
  | finite value =>
      obtain ⟨negative, mantissa, exponent⟩ := value
      rw [shape] at positive
      by_cases empty : mantissa = 0
      · simp [FloatShape.unpacked, empty, UnpackedFloat.lt, UnpackedFloat.compare] at positive
      · cases negative
        · exact .inl ⟨mantissa, exponent, Nat.pos_of_ne_zero empty, rfl⟩
        · simp [FloatShape.unpacked, empty, signOf, UnpackedFloat.lt, UnpackedFloat.compare] at positive
  | infinite negative =>
      rw [shape] at positive
      cases negative
      · exact .inr rfl
      · simp [FloatShape.unpacked, signOf, UnpackedFloat.lt, UnpackedFloat.compare] at positive
  | nan =>
      rw [shape] at positive
      simp [FloatShape.unpacked, UnpackedFloat.lt, UnpackedFloat.compare] at positive

end FloatShape

end LoadHarness
