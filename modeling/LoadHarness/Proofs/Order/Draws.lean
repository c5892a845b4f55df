import Mathlib
import LoadHarness.Proofs.Float.Places
import LoadHarness.Order.Generator

/-!
# Prices and quantities from uniform draws

The generator turns a draw `r` of its random source into a price `30000 + r · 40000` rounded to
cents and a quantity `0.01 + r · 2` rounded to thousandths, each step in doubles.  A draw is a
double in `[0, 1)` (`IsDraw`), and every state of the source draws one (`uniform_draw`).

For every draw, the sum before rounding is the double nearest to a value between the low end and
the low end plus the span (`affine_isNearest`): the product rounds to at most the span, and a
zero draw leaves the low end itself.  Rounding to decimals then keeps the price in
`[30000, 70000]` and the quantity in `[0.01, 2.01]`, and the result is already rounded, since
doubles of that size are far finer than a cent or a thousandth (`price_of_draw`,
`quantity_of_draw`).
-/

namespace LoadHarness

/-! ### The doubles the generator uses -/

section Constants

/-- The bits of the doubles the generator uses, computed once. -/
theorem constant_bits :
    (30000.0 : Float).toBits.toNat = Dyadic.bits ⟨false, 8246337208320000, -38⟩ ∧
      (40000.0 : Float).toBits.toNat = Dyadic.bits ⟨false, 5497558138880000, -37⟩ ∧
      (70000.0 : Float).toBits.toNat = Dyadic.bits ⟨false, 4810363371520000, -36⟩ ∧
      (1.0 : Float).toBits.toNat = Dyadic.bits ⟨false, 2 ^ 52, -52⟩ ∧
      (2.0 : Float).toBits.toNat = Dyadic.bits ⟨false, 2 ^ 52, -51⟩ ∧
      Generator.leastQuantity.toBits.toNat = Dyadic.bits ⟨false, 5764607523034235, -59⟩ ∧
      (Binary.nearest false 2010 1000).toBits = (2.01 : Float).toBits := by
  decide +kernel

theorem shape_thirtyThousand :
    FloatShape.of 30000.0 = .finite ⟨false, 8246337208320000, -38⟩ :=
  FloatShape.of_eq_of_bits ⟨by decide, by decide, by decide, .inl (by decide)⟩ constant_bits.1

theorem shape_fortyThousand :
    FloatShape.of 40000.0 = .finite ⟨false, 5497558138880000, -37⟩ :=
  FloatShape.of_eq_of_bits ⟨by decide, by decide, by decide, .inl (by decide)⟩ constant_bits.2.1

theorem shape_seventyThousand :
    FloatShape.of 70000.0 = .finite ⟨false, 4810363371520000, -36⟩ :=
  FloatShape.of_eq_of_bits ⟨by decide, by decide, by decide, .inl (by decide)⟩ constant_bits.2.2.1

theorem shape_one : FloatShape.of 1.0 = .finite ⟨false, 2 ^ 52, -52⟩ :=
  FloatShape.of_eq_of_bits ⟨by decide, by decide, by decide, .inl (by decide)⟩ constant_bits.2.2.2.1

theorem shape_two : FloatShape.of 2.0 = .finite ⟨false, 2 ^ 52, -51⟩ :=
  FloatShape.of_eq_of_bits ⟨by decide, by decide, by decide, .inl (by decide)⟩ constant_bits.2.2.2.2.1

theorem shape_leastQuantity :
    FloatShape.of Generator.leastQuantity = .finite ⟨false, 5764607523034235, -59⟩ :=
  FloatShape.of_eq_of_bits ⟨by decide, by decide, by decide, .inl (by decide)⟩
    constant_bits.2.2.2.2.2.1

/-- The double `0.01` lies a little above one hundredth. -/
theorem value_leastQuantity :
    (1 : ℚ) / 100 ≤ (5764607523034235 : Nat) * 2 ^ (-59 : Int) ∧
      ((5764607523034235 : Nat) : ℚ) * 2 ^ (-59 : Int) ≤ 1 / 100 + 2 ^ (-60 : Int) := by
  norm_num

theorem nearest_thirtyThousand : Binary.nearest false 3000000 100 = 30000.0 :=
  nearest_eq_of_shape shape_thirtyThousand (by norm_num) (by norm_num) (by norm_num) (by norm_num)
    (by norm_num)

theorem nearest_seventyThousand : Binary.nearest false 7000000 100 = 70000.0 :=
  nearest_eq_of_shape shape_seventyThousand (by norm_num) (by norm_num) (by norm_num) (by norm_num)
    (by norm_num)

/-- Ten thousandths and one hundredth are one value, and round to one double. -/
theorem nearest_leastQuantity : Binary.nearest false 10 1000 = Generator.leastQuantity := by
  have low : (2 : ℚ) ^ (-1074 : Int) ≤ (1 : Nat) / (100 : Nat) :=
    (zpow_le_zpow_right₀ one_le_two (by norm_num : (-1074 : Int) ≤ -7)).trans (by norm_num)
  have high : ((1 : Nat) : ℚ) / (100 : Nat) < 2 ^ 1023 :=
    (by norm_num : ((1 : Nat) : ℚ) / (100 : Nat) < 1).trans_le (one_le_pow₀ one_le_two)
  have same : ((10 : Nat) : ℚ) / (1000 : Nat) = (1 : Nat) / (100 : Nat) := by norm_num
  have tenThousandths := isNearest_nearest (by norm_num : 0 < 10) (by norm_num : 0 < 1000)
    (same ▸ low) (same ▸ high)
  rw [same] at tenThousandths
  exact IsNearest.eq tenThousandths (isNearest_nearest (by norm_num) (by norm_num) low high)

/-- `2.01` is not a double; the literal is the double nearest to it. -/
theorem nearest_mostQuantity : Binary.nearest false 2010 1000 = 2.01 := by
  rw [← ofBits_toBits (Binary.nearest false 2010 1000), constant_bits.2.2.2.2.2.2, ofBits_toBits]

end Constants

/-! ### Draws -/

/-- A draw of the random source: a double in `[0, 1)`. -/
def IsDraw (draw : Float) : Prop := (0.0 : Float) ≤ draw ∧ draw < 1.0

section Draws

theorem zero_le_of_shape {x : Float} {m : Nat} {q : Int}
    (shape : FloatShape.of x = .finite ⟨false, m, q⟩) (positive : 0 < m) : (0.0 : Float) ≤ x := by
  rw [le_iff_unpack_le, unpack_of_positive shape positive]
  rfl

theorem zero_lt_of_shape {x : Float} {m : Nat} {q : Int}
    (shape : FloatShape.of x = .finite ⟨false, m, q⟩) (positive : 0 < m) : (0.0 : Float) < x := by
  rw [lt_iff_unpack_lt, unpack_of_positive shape positive]
  rfl

/-- A positive double below one: its value is below one. -/
theorem lt_one_iff {x : Float} {m : Nat} {q : Int} (shape : FloatShape.of x = .finite ⟨false, m, q⟩)
    (positive : 0 < m) : x < 1.0 ↔ (m : ℚ) * 2 ^ q < 1 := by
  rw [lt_iff_value_lt shape shape_one positive (by positivity)]
  norm_num

/-- Every state of the random source draws a double in `[0, 1)`: the double nearest to a ratio
of 53 random bits over `2^53`. -/
theorem uniform_draw (twister : Twister) : IsDraw twister.uniform.1 := by
  unfold Twister.uniform
  simp only [Nat.pow_eq]
  generalize twister.next = first
  obtain ⟨a, rest⟩ := first
  generalize rest.next = second
  obtain ⟨b, -⟩ := second
  simp only
  -- 27 bits of the first word above 26 of the second
  have high : (a >>> 5).toNat < 2 ^ 27 := by
    rw [UInt32.toNat_shiftRight]
    have := a.toNat_lt
    simp [Nat.shiftRight_eq_div_pow]
    omega
  have low : (b >>> 6).toNat < 2 ^ 26 := by
    rw [UInt32.toNat_shiftRight]
    have := b.toNat_lt
    simp [Nat.shiftRight_eq_div_pow]
    omega
  generalize (a >>> 5).toNat = upper at high
  generalize (b >>> 6).toNat = lower at low
  have bits : upper * 2 ^ 26 + lower < 2 ^ 53 := by omega
  generalize upper * 2 ^ 26 + lower = numerator at bits
  rcases Nat.eq_zero_or_pos numerator with zero | positive
  · subst zero
    exact ⟨by decide +kernel, by decide +kernel⟩
  · -- the draw is the double nearest to `numerator / 2^53`, at most the double below one
    have ratioLe : (numerator : ℚ) / ((2 ^ 53 : Nat) : ℚ) ≤ ((2 ^ 53 - 1 : Nat) : ℚ) * 2 ^ (-53 : Int) := by
      rw [show ((2 ^ 53 - 1 : Nat) : ℚ) * 2 ^ (-53 : Int) = ((2 ^ 53 - 1 : Nat) : ℚ) / ((2 ^ 53 : Nat) : ℚ) by
        norm_num]
      gcongr
      exact_mod_cast (by omega : numerator ≤ 2 ^ 53 - 1)
    have low : (2 : ℚ) ^ (-1074 : Int) ≤ (numerator : ℚ) / ((2 ^ 53 : Nat) : ℚ) :=
      calc (2 : ℚ) ^ (-1074 : Int) ≤ 2 ^ (-53 : Int) := zpow_le_zpow_right₀ one_le_two (by norm_num)
        _ = 1 / ((2 ^ 53 : Nat) : ℚ) := by norm_num
        _ ≤ (numerator : ℚ) / ((2 ^ 53 : Nat) : ℚ) := by
            gcongr
            exact_mod_cast positive
    have belowOne : ((2 ^ 53 - 1 : Nat) : ℚ) * 2 ^ (-53 : Int) < 1 := by norm_num
    have nearest := isNearest_nearest positive (by positivity) low
      (lt_of_le_of_lt ratioLe (belowOne.trans_le (one_le_pow₀ one_le_two)))
    obtain ⟨⟨negative, m, q⟩, shape, sign, mantissaPos, within⟩ := nearest
    simp only at sign mantissaPos
    subst sign
    -- the double below one is `(2^53 - 1) · 2^-53`, and it bounds the draw
    have topCanonical : Dyadic.Canonical ⟨false, 2 ^ 53 - 1, -53⟩ :=
      ⟨by decide, by decide, by decide, .inl (by decide)⟩
    have topWithin : Dyadic.Within ⟨false, 2 ^ 53 - 1, -53⟩ (((2 ^ 53 - 1 : Nat) : ℚ) * 2 ^ (-53 : Int)) :=
      Dyadic.within_self (by decide)
    have below := Dyadic.value_le_of_within (FloatShape.of_eq_finite shape).1 topCanonical mantissaPos
      (by decide) within topWithin ratioLe
    refine ⟨zero_le_of_shape shape mantissaPos, (lt_one_iff shape mantissaPos).2 ?_⟩
    exact lt_of_le_of_lt below belowOne

/-- A draw is a signed zero, or a positive double below one. -/
theorem draw_cases {draw : Float} (isDraw : IsDraw draw) :
    (∃ sign, draw.toModel.unpack = .zero sign) ∨
      ∃ m q, 0 < m ∧ FloatShape.of draw = .finite ⟨false, m, q⟩ ∧ (m : ℚ) * 2 ^ q < 1 := by
  obtain ⟨nonneg, below⟩ := isDraw
  have unpacked := FloatShape.unpacked_of draw
  -- the other shapes fail one of the two comparisons, read on the unpacked model
  have nonneg' := le_iff_unpack_le.1 nonneg
  have below' := lt_iff_unpack_lt.1 below
  have zero : (0.0 : Float).toModel.unpack = .zero .positive := rfl
  rw [unpack_of_positive shape_one (by positivity)] at below'
  rw [zero] at nonneg'
  cases shape : FloatShape.of draw with
  | finite value =>
      obtain ⟨negative, m, q⟩ := value
      rcases Nat.eq_zero_or_pos m with empty | positive
      · left
        refine ⟨FloatShape.signOf negative, ?_⟩
        rw [← unpacked, shape]
        simp [FloatShape.unpacked, empty]
      · cases negative
        · exact .inr ⟨m, q, positive, rfl, (lt_one_iff shape positive).1 below⟩
        · -- a negative double is below zero
          rw [← unpacked, shape] at nonneg'
          simp [FloatShape.unpacked, positive.ne', FloatShape.signOf, Float.Model.UnpackedFloat.le,
            Float.Model.UnpackedFloat.compare] at nonneg'
  | infinite negative =>
      rw [← unpacked, shape] at nonneg' below'
      cases negative <;>
        simp [FloatShape.unpacked, FloatShape.signOf, Float.Model.UnpackedFloat.le,
          Float.Model.UnpackedFloat.lt, Float.Model.UnpackedFloat.compare] at nonneg' below'
  | nan =>
      rw [← unpacked, shape] at nonneg'
      simp [FloatShape.unpacked, Float.Model.UnpackedFloat.le,
        Float.Model.UnpackedFloat.compare] at nonneg'

/-- A nearest double to a positive ratio is positive. -/
theorem IsNearest.zero_lt {x : Float} {r : ℚ} (nearest : IsNearest x r) : (0.0 : Float) < x := by
  obtain ⟨⟨negative, m, q⟩, shape, sign, positive, -⟩ := nearest
  simp only at sign positive
  subst sign
  exact zero_lt_of_shape shape positive

theorem IsNearest.isFinite {x : Float} {r : ℚ} (nearest : IsNearest x r) : Binary.isFinite x = true := by
  obtain ⟨d, shape, -⟩ := nearest
  simp [Binary.isFinite, shape]

/-- A zero draw scales any positive double to a zero, which adds nothing. -/
theorem add_mul_of_zero {x y z : Float} {mx mz : Nat} {ex ez : Int} {sign : Float.Model.UnpackedFloat.Sign}
    (shapeX : FloatShape.of x = .finite ⟨false, mx, ex⟩) (positiveX : 0 < mx)
    (zero : y.toModel.unpack = .zero sign) (shapeZ : FloatShape.of z = .finite ⟨false, mz, ez⟩)
    (positiveZ : 0 < mz) : x + y * z = x := by
  have product : (y * z).toModel.unpack = .zero sign := by
    change (Float.Model.pack (Float.Model.UnpackedFloat.mul Float.Model.Format.binary64 y.toModel.unpack
      z.toModel.unpack)).unpack = _
    rw [zero, unpack_of_positive shapeZ positiveZ]
    simp only [Float.Model.UnpackedFloat.mul]
    cases sign <;> rfl
  change Float.ofModel (Float.Model.pack (Float.Model.UnpackedFloat.add Float.Model.Format.binary64 x.toModel.unpack
    (y * z).toModel.unpack)) = x
  rw [product, unpack_of_positive shapeX positiveX]
  simp only [Float.Model.UnpackedFloat.add]
  rw [← unpack_of_positive shapeX positiveX]
  exact ofBits_toBits x

end Draws

/-! ### A low end plus a drawn share of a span -/

section Affine

variable {low span draw : Float} {ml ms : Nat} {el es : Int}

/-- The double `low + draw * span`, for positive `low` and a span of at least one, is the
double nearest to a value between `low` and `low + span`: the product is rounded to at most the
span, and the sum of the two doubles is rounded once more. -/
theorem affine_isNearest (shapeLow : FloatShape.of low = .finite ⟨false, ml, el⟩)
    (shapeSpan : FloatShape.of span = .finite ⟨false, ms, es⟩) (positiveLow : 0 < ml)
    (positiveSpan : 0 < ms) (isDraw : IsDraw draw) (wide : 1 ≤ (ms : ℚ) * 2 ^ es)
    (high : (ml : ℚ) * 2 ^ el + ms * 2 ^ es < 2 ^ 1023) :
    ∃ r : ℚ, ml * 2 ^ el ≤ r ∧ r ≤ ml * 2 ^ el + ms * 2 ^ es ∧ IsNearest (low + draw * span) r := by
  have lowNonneg : (0 : ℚ) ≤ ml * 2 ^ el := by positivity
  rcases draw_cases isDraw with ⟨sign, zero⟩ | ⟨m, q, positive, shape, below⟩
  · -- a zero draw leaves the low end
    rw [add_mul_of_zero shapeLow positiveLow zero shapeSpan positiveSpan]
    exact ⟨_, le_rfl, le_add_of_nonneg_right (by positivity), isNearest_of_shape shapeLow positiveLow⟩
  · have canonical := (FloatShape.of_eq_finite shape).1
    have drawLow := Dyadic.least_le_value canonical positive
    -- the exact product lies between the draw and the span
    have productLow : (m : ℚ) * 2 ^ q ≤ m * 2 ^ q * (ms * 2 ^ es) := le_mul_of_one_le_right (by positivity) wide
    have productBelow : (m : ℚ) * 2 ^ q * (ms * 2 ^ es) ≤ ms * 2 ^ es := by
      calc (m : ℚ) * 2 ^ q * (ms * 2 ^ es) ≤ 1 * (ms * 2 ^ es) := by gcongr
        _ = ms * 2 ^ es := one_mul _
    have productHigh : (m : ℚ) * 2 ^ q * (ms * 2 ^ es) < 2 ^ 1023 :=
      lt_of_le_of_lt (by linarith) high
    have product := isNearest_mul shape shapeSpan positive positiveSpan (drawLow.trans productLow)
      productHigh
    obtain ⟨⟨negative, mp, qp⟩, shapeProduct, sign, positiveProduct, within⟩ := product
    simp only at sign positiveProduct
    subst sign
    -- the rounded product is still at most the span, itself a double
    have rounded : (mp : ℚ) * 2 ^ qp ≤ ms * 2 ^ es :=
      Dyadic.value_le_of_within (FloatShape.of_eq_finite shapeProduct).1
        (FloatShape.of_eq_finite shapeSpan).1 positiveProduct positiveSpan within
        (Dyadic.within_self positiveSpan) productBelow
    have sumHigh : (ml : ℚ) * 2 ^ el + mp * 2 ^ qp < 2 ^ 1023 := lt_of_le_of_lt (by linarith) high
    exact ⟨_, le_add_of_nonneg_right (by positivity), by linarith,
      isNearest_add shapeLow shapeProduct positiveLow positiveProduct sumHigh⟩

/-- A double in `[least, most]` that rounding to `places` decimals leaves as it is. -/
structure DecimalIn (x least most : Float) (places : Nat) : Prop where
  least_le : least ≤ x
  le_most : x ≤ most
  rounded : Fixed.toPlaces x places = x
  positive : (0.0 : Float) < x
  finite : Binary.isFinite x = true

/-- Rounding `low + draw * span` to `places` decimals gives a decimal between the doubles
nearest to `a` and `b` units, where the doubles near `low + span` are finer than a unit
(`fine`) and every value within one last place of `[low, low + span]` rounds to between `a`
and `b` units. -/
theorem decimalIn_toPlaces_affine (shapeLow : FloatShape.of low = .finite ⟨false, ml, el⟩)
    (shapeSpan : FloatShape.of span = .finite ⟨false, ms, es⟩) (positiveLow : 0 < ml)
    (positiveSpan : 0 < ms) (isDraw : IsDraw draw) (wide : 1 ≤ (ms : ℚ) * 2 ^ es)
    (places : Nat) {a b : Nat} {k : Int} (bound : (ml : ℚ) * 2 ^ el + ms * 2 ^ es ≤ 2 ^ k)
    (least : -1022 ≤ k) (most : k ≤ 1022) (fine : (10 : ℚ) ^ places * 2 ^ (k - 52) < 1)
    (lower : (a : ℚ) - 1 / 2 < (ml * 2 ^ el - 2 ^ (k - 53)) * 10 ^ places)
    (upper : ((ml : ℚ) * 2 ^ el + ms * 2 ^ es + 2 ^ (k - 53)) * 10 ^ places < b + 1 / 2)
    (positiveA : 0 < a) (tiny : (2 : ℚ) ^ (-1074 : Int) ≤ a / 10 ^ places)
    (boundB : (b : ℚ) / 10 ^ places ≤ 2 ^ k) :
    DecimalIn (Fixed.toPlaces (low + draw * span) places) (Binary.nearest false a (10 ^ places))
      (Binary.nearest false b (10 ^ places)) places := by
  have belowTop : (2 : ℚ) ^ k < 2 ^ 1023 := by
    rw [show (2 : ℚ) ^ 1023 = 2 ^ ((1023 : Nat) : Int) from (zpow_natCast 2 1023).symm]
    exact zpow_lt_zpow_right₀ one_lt_two (by omega)
  obtain ⟨r, lowR, highR, nearest⟩ :=
    affine_isNearest shapeLow shapeSpan positiveLow positiveSpan isDraw wide (bound.trans_lt belowTop)
  obtain ⟨⟨negative, m, q⟩, shape, sign, positive, within⟩ := id nearest
  simp only at sign positive
  subst sign
  -- the sum is within one last place of `r`, a last place at `2^k` being `2^(k - 52)`
  obtain ⟨-, close⟩ := IsNearest.close nearest shape (highR.trans bound) least (by omega)
  obtain ⟨closeLow, closeHigh⟩ := abs_le.1 close
  have tenPos : (0 : ℚ) < 10 ^ places := by positivity
  have lowerSum : (a : ℚ) - 1 / 2 < m * 2 ^ q * 10 ^ places :=
    lower.trans_le (mul_le_mul_of_nonneg_right (by linarith) tenPos.le)
  have upperSum : (m : ℚ) * 2 ^ q * 10 ^ places < b + 1 / 2 :=
    (mul_le_mul_of_nonneg_right (by linarith) tenPos.le).trans_lt upper
  obtain ⟨atLeast, atMost, fixed, units, nearestUnits⟩ :=
    Fixed.toPlaces_between shape lowerSum upperSum positiveA tiny boundB least most fine
  exact ⟨atLeast, atMost, fixed, nearestUnits.zero_lt, nearestUnits.isFinite⟩

/-- Every draw gives a price in `[30000, 70000]` that is already rounded to cents. -/
theorem price_of_draw (isDraw : IsDraw draw) :
    DecimalIn (Fixed.toPlaces (30000.0 + draw * 40000.0) 2) 30000.0 70000.0 2 := by
  have decimal := decimalIn_toPlaces_affine (a := 3000000) (b := 7000000) (k := 17) shape_thirtyThousand
    shape_fortyThousand (by decide) (by decide) isDraw (by norm_num) 2 (by norm_num) (by norm_num)
    (by norm_num) (by norm_num) (by norm_num) (by norm_num) (by norm_num)
    ((zpow_le_zpow_right₀ one_le_two (by norm_num : (-1074 : Int) ≤ 0)).trans (by norm_num))
    (by norm_num)
  rwa [show (10 : Nat) ^ 2 = 100 from rfl, nearest_thirtyThousand, nearest_seventyThousand] at decimal

/-- Every draw gives a quantity in `[0.01, 2.01]` that is already rounded to thousandths. -/
theorem quantity_of_draw (isDraw : IsDraw draw) :
    DecimalIn (Fixed.toPlaces (Generator.leastQuantity + draw * 2.0) 3) Generator.leastQuantity 2.01 3 := by
  have decimal := decimalIn_toPlaces_affine (a := 10) (b := 2010) (k := 2) shape_leastQuantity
    shape_two (by decide) (by decide) isDraw (by norm_num) 3 (by norm_num) (by norm_num)
    (by norm_num) (by norm_num) (by norm_num) (by norm_num) (by norm_num)
    ((zpow_le_zpow_right₀ one_le_two (by norm_num : (-1074 : Int) ≤ -7)).trans (by norm_num))
    (by norm_num)
  rwa [show (10 : Nat) ^ 3 = 1000 from rfl, nearest_leastQuantity, nearest_mostQuantity] at decimal

end Affine

end LoadHarness
