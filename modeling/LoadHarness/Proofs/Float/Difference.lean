import Mathlib
import LoadHarness.Proofs.Float.Sign

/-!
# Differences of positive doubles

Subtracting a double from a positive finite one, as the logical model of doubles does it.

* A difference is not above zero once the subtrahend reaches the minuend: the exact difference
  is zero or negative, rounds with a negative sign or to `+0`, and packing writes the sign bit
  (`not_pos_sub_of_le`).  Infinity reaches every finite double.
* A difference of positive doubles that are at most a factor of two apart is exact
  (Sterbenz): it is a double of 53 bits or fewer at the smaller exponent, so rounding it at its
  binade loses nothing (`Dyadic.rounds_exact`), and adding the subtrahend back gives the minuend
  again (`add_sub_of_half_le`).
* A difference whose exact value is at least half the minuend rounds to at least half of it
  (`half_le_sub`), and a sum of positive doubles is positive infinity or a double at least its
  second term (`add_cases`).
-/

open Float.Model Float.Model.UnpackedFloat

namespace LoadHarness

/-- An unpacked double not above zero: a zero of either sign, a negative finite double or
infinity, or NaN, which is above nothing. -/
def NotAboveUnpacked : UnpackedFloat → Prop
  | .zero _ => True
  | .finite sign _ _ _ => sign = .negative
  | .infinity sign => sign = .negative
  | .notANumber => True

/-! ### Reading a set sign bit -/

section Sign

theorem not_pos_of_notAbove {x : Float} (notAbove : NotAboveUnpacked x.toModel.unpack) :
    ¬ (0.0 : Float) < x := by
  rw [lt_iff_unpack_lt, show (0.0 : Float).toModel.unpack = .zero .positive from rfl]
  generalize x.toModel.unpack = u at notAbove
  cases u with
  | zero sign => simp [UnpackedFloat.lt, UnpackedFloat.compare]
  | finite sign =>
      obtain rfl : sign = .negative := notAbove
      simp [UnpackedFloat.lt, UnpackedFloat.compare]
  | infinity sign =>
      obtain rfl : sign = .negative := notAbove
      simp [UnpackedFloat.lt, UnpackedFloat.compare]
  | notANumber => simp [UnpackedFloat.lt, UnpackedFloat.compare]

/-- A bit pattern with its sign bit set unpacks to a double not above zero. -/
theorem notAbove_of_bits {x : Float} (sign : 2 ^ 63 ≤ x.toBits.toNat) :
    NotAboveUnpacked x.toModel.unpack := by
  have set : decide (x.toBits.toNat / 2 ^ 63 = 1) = true :=
    decide_eq_true (by have := x.toBits.toNat_lt; omega)
  rw [← FloatShape.unpacked_of]
  unfold FloatShape.of
  simp only [FloatShape.sign_bit_eq, FloatShape.biased_exponent_eq, FloatShape.fraction_eq, set]
  -- the exponent and fraction fields as opaque numbers
  generalize x.toBits.toNat / 2 ^ 52 % 2 ^ 11 = e
  generalize x.toBits.toNat % 2 ^ 52 = f
  by_cases top : e = 2047
  · by_cases empty : f = 0 <;> simp [top, empty, FloatShape.unpacked, FloatShape.signOf, NotAboveUnpacked]
  · by_cases bottom : e = 0
    · simp only [bottom]
      simp [FloatShape.unpacked, FloatShape.signOf]
      split <;> simp [NotAboveUnpacked]
    · simp [top, bottom, FloatShape.unpacked, FloatShape.signOf, NotAboveUnpacked]

/-- Packing with a negative sign sets the sign bit, whatever the exponent and mantissa. -/
theorem sign_le_packComponents (exponent : BitVec 11) (mantissa : BitVec 52) :
    2 ^ 63 ≤ (packComponents Format.binary64 .negative exponent mantissa).toNat := by
  rw [toNat_packComponents]
  simp [Sign.toBitVec]
  omega

/-- Packing keeps a double not above zero. -/
theorem notAbove_pack {u : UnpackedFloat} (notAbove : NotAboveUnpacked u) :
    NotAboveUnpacked (Float.Model.pack u).unpack := by
  -- a set sign bit is read back as a sign not above zero
  have fromBits : ∀ bits : BitVec 64, 2 ^ 63 ≤ bits.toNat →
      UnpackedFloat.pack Format.binary64 u = bits → NotAboveUnpacked (Float.Model.pack u).unpack := by
    intro bits sign packed
    change NotAboveUnpacked (Float.ofModel (Float.Model.pack u)).toModel.unpack
    apply notAbove_of_bits
    rw [toNat_toBits_ofModel_pack, packed]
    exact sign
  cases u with
  | notANumber =>
      rw [show (Float.Model.pack .notANumber).unpack = .notANumber by rfl]
      trivial
  | zero sign =>
      cases sign with
      | positive =>
          rw [show (Float.Model.pack (.zero .positive)).unpack = .zero .positive by rfl]
          trivial
      | negative => exact fromBits _ (sign_le_packComponents _ _) rfl
  | infinity sign =>
      obtain rfl : sign = .negative := notAbove
      exact fromBits _ (sign_le_packComponents _ _) rfl
  | finite sign m e positive =>
      obtain rfl : sign = .negative := notAbove
      apply fromBits _ _ rfl
      simp only [UnpackedFloat.pack]
      split_ifs <;> exact sign_le_packComponents _ _

/-- Rounding with a negative sign gives a negative zero or a negative finite double. -/
theorem notAbove_round (M : Nat) (E : Int) :
    NotAboveUnpacked (UnpackedFloat.round Format.binary64 .negative M E) := by
  simp only [UnpackedFloat.round, roundWithAccuracy]
  split <;> trivial

end Sign

/-! ### Rounding at the binade, in the whole range -/

namespace Dyadic

section Rounded

variable {r : ℚ} {s : Int} {n : Nat}

/-- The rounded double stands for `n · 2^s`, a carry included. -/
theorem value_roundedAt (n : Nat) (s : Int) :
    ((roundedAt n s).mantissa : ℚ) * 2 ^ (roundedAt n s).exponent = n * 2 ^ s := by
  unfold roundedAt
  split
  · rename_i carried
    subst carried
    rw [zpow_add₀ two_ne_zero, zpow_one]
    push_cast
    ring
  · rfl

/-- The binade of `r` lies at or below the exponent of any value of at most 53 bits that reaches
`r`. -/
theorem AtBinade.le_exponent (binade : AtBinade r s) {M : Nat} {E : Int} (small : M < 2 ^ 53)
    (least : -1074 ≤ E) (le : r ≤ M * 2 ^ E) : s ≤ E := by
  by_contra above
  have smallQ : (M : ℚ) < 2 ^ 53 := by exact_mod_cast small
  -- above the exponent of `M`, fewer than `2^52` units of the binade would be reached
  have few : r / 2 ^ s < 2 ^ 52 :=
    calc r / 2 ^ s ≤ M * 2 ^ E / 2 ^ s := by gcongr
      _ = M * 2 ^ (E - s) := by rw [zpow_sub₀ two_ne_zero]; ring
      _ ≤ M * 2 ^ (-1 : Int) := by gcongr <;> [norm_num; omega]
      _ < 2 ^ 52 := by rw [zpow_neg_one]; linarith
  rcases binade.reaches with reaches | bottom
  · linarith
  · omega

/-- Rounding at an exponent at or below that of an exact value `M · 2^E` loses nothing. -/
theorem rounds_exact (rounds : RoundsTo (r / 2 ^ s) n) {M : Nat} {E : Int} (exact : r = M * 2 ^ E)
    (aligned : s ≤ E) : (n : ℚ) * 2 ^ s = r := by
  have whole : r / 2 ^ s = ((M * 2 ^ (E - s).toNat : Nat) : ℚ) := by
    rw [exact]
    push_cast
    rw [← zpow_natCast, Int.toNat_of_nonneg (by omega), zpow_sub₀ two_ne_zero]
    field_simp
  rw [whole] at rounds
  rw [(RoundsTo.of_natCast _).unique rounds |>.symm, ← whole]
  field_simp

/-- A value of at least `k · 2^e` rounds at its binade to at least `k · 2^e`: exactly so when
`e` is on the grid of the binade, and with room to spare below a binade above the least one. -/
theorem le_rounded (binade : AtBinade r s) (rounds : RoundsTo (r / 2 ^ s) n) {k : Nat} {e : Int}
    (small : k < 2 ^ 53) (grid : s ≤ e ∨ -1074 < s) (le : (k : ℚ) * 2 ^ e ≤ r) :
    (k : ℚ) * 2 ^ e ≤ n * 2 ^ s := by
  by_cases onGrid : s ≤ e
  · -- a whole number of units of the binade, which rounding keeps
    have units : ((k * 2 ^ (e - s).toNat : Nat) : ℚ) = k * 2 ^ e / 2 ^ s := by
      push_cast
      rw [← zpow_natCast, Int.toNat_of_nonneg (by omega), zpow_sub₀ two_ne_zero]
      field_simp
    have atMost : k * 2 ^ (e - s).toNat ≤ n :=
      (RoundsTo.of_natCast _).mono rounds (by rw [units]; gcongr)
    calc (k : ℚ) * 2 ^ e = ((k * 2 ^ (e - s).toNat : Nat) : ℚ) * 2 ^ s := by
          rw [units]
          field_simp
      _ ≤ n * 2 ^ s := by gcongr
  · have leading := roundedAt_normal binade rounds (grid.resolve_left onGrid)
    have smallQ : (k : ℚ) < 2 ^ 53 := by exact_mod_cast small
    refine le_of_lt ?_
    calc (k : ℚ) * 2 ^ e < 2 ^ 53 * 2 ^ e := by gcongr
      _ ≤ 2 ^ 53 * 2 ^ (s - 1) := by gcongr <;> [norm_num; omega]
      _ = 2 ^ 52 * 2 ^ s := by rw [zpow_sub₀ two_ne_zero, zpow_one]; ring
      _ ≤ n * 2 ^ s := by gcongr; exact_mod_cast leading

/-- A value at most a positive canonical double rounds at its binade to an exponent at most that
double's: a carry into the next binade needs room below it. -/
theorem roundedAt_exponent_le (binade : AtBinade r s) (rounds : RoundsTo (r / 2 ^ s) n) {m : Nat} {q : Int}
    (canonical : Canonical ⟨false, m, q⟩) (le : r ≤ m * 2 ^ q) : (roundedAt n s).exponent ≤ q := by
  have below : s ≤ q := binade.le_exponent canonical.mantissa_lt canonical.least_le le
  rcases below.lt_or_eq with lower | same
  · exact (roundedAt_exponent_le_succ n s).trans (by omega)
  · -- in the binade of the double, rounding stays at or below its mantissa
    subst same
    have units : r / 2 ^ s ≤ m := by
      rw [div_le_iff₀ (by positivity)]
      exact le
    have atMost : n ≤ m := rounds.mono (RoundsTo.of_natCast m) units
    have notCarried : n ≠ 2 ^ 53 := by have := canonical.mantissa_lt; simp only at this; omega
    rw [roundedAt, if_neg notCarried]

end Rounded

end Dyadic

/-! ### Packing a rounding, overflow included -/

section Pack

variable {r : ℚ} {s : Int} {n : Nat}

theorem pos_of_le_rounded {v : ℚ} (positive : 0 < v) (le : v ≤ n * 2 ^ s) : 0 < n :=
  Nat.pos_of_ne_zero fun zero => by
    rw [zero, Nat.cast_zero, zero_mul] at le
    linarith

/-- The double packed from a positive rounding at the binade, while its exponent is in range, is
a positive double of value `n · 2^s`. -/
theorem pack_roundedAt_shape (binade : Dyadic.AtBinade r s) (rounds : RoundsTo (r / 2 ^ s) n)
    (positive : 0 < n) (inRange : (Dyadic.roundedAt n s).exponent ≤ 971) :
    ∃ m q, 0 < m ∧ FloatShape.of (Float.ofModel (Float.Model.pack
        (FloatShape.finite (Dyadic.roundedAt n s)).unpacked)) = .finite ⟨false, m, q⟩ ∧
      (m : ℚ) * 2 ^ q = n * 2 ^ s := by
  obtain ⟨mantissaPos, sign⟩ := Dyadic.roundedAt_positive positive (s := s)
  have shape := of_ofModel_pack (Dyadic.canonical_roundedAt binade rounds inRange) mantissaPos sign
  have value := Dyadic.value_roundedAt n s
  generalize Dyadic.roundedAt n s = d at shape value mantissaPos sign ⊢
  obtain ⟨negative, m, q⟩ := d
  simp only at sign value mantissaPos
  subst sign
  exact ⟨m, q, mantissaPos, shape, value⟩

/-- Above the greatest exponent, packing a positive rounding writes positive infinity. -/
theorem pack_roundedAt_overflow (positive : 0 < n) (beyond : 971 < (Dyadic.roundedAt n s).exponent) :
    (Float.ofModel (Float.Model.pack (FloatShape.finite (Dyadic.roundedAt n s)).unpacked)).toModel.unpack =
      .infinity .positive := by
  obtain ⟨mantissaPos, sign⟩ := Dyadic.roundedAt_positive positive (s := s)
  generalize Dyadic.roundedAt n s = d at *
  obtain ⟨negative, m, q⟩ := d
  simp only at mantissaPos sign beyond
  subst sign
  have unpacked : (FloatShape.finite ⟨false, m, q⟩).unpacked = .finite .positive m q mantissaPos := by
    simp [FloatShape.unpacked, mantissaPos.ne', FloatShape.signOf]
  have overflow : 2 ^ Format.binary64.exponentBits ≤
      (q + Format.binary64.exponentBias + Format.binary64.mantissaBitsWithoutImplicit).toNat + 1 := by
    rw [exponentBias_binary64]
    simp only
    omega
  have packed : Float.Model.pack (.finite .positive m q mantissaPos) = Float.Model.pack (.infinity .positive) := by
    simp only [Float.Model.pack, UnpackedFloat.pack, if_pos overflow]
  rw [unpacked]
  change (Float.Model.pack _).unpack = _
  rw [packed]
  rfl

end Pack

/-! ### Sums and differences as packed roundings -/

section Rounded

variable {x y : Float} {mx my : Nat} {ex ey : Int}

/-- Mantissas shifted to a common exponent below both keep a strict order of their values. -/
theorem shiftLeft_lt_of_value_lt {m m' : Nat} {e e' E : Int} (lt : (m : ℚ) * 2 ^ e < m' * 2 ^ e')
    (below : E ≤ e) (below' : E ≤ e') : m <<< (e - E).toNat < m' <<< (e' - E).toNat := by
  have scaled : ((m <<< (e - E).toNat : Nat) : ℚ) * 2 ^ E < ((m' <<< (e' - E).toNat : Nat) : ℚ) * 2 ^ E := by
    rw [shiftLeft_value m below, shiftLeft_value m' below']
    exact lt
  exact_mod_cast lt_of_mul_lt_mul_right scaled (by positivity)

/-- The exact difference of two doubles, the first the larger, in units of an exponent below
both. -/
theorem value_sub_shiftLeft {m m' : Nat} {e e' E : Int} (lt : (m : ℚ) * 2 ^ e < m' * 2 ^ e')
    (below : E ≤ e) (below' : E ≤ e') :
    ((m' <<< (e' - E).toNat - m <<< (e - E).toNat : Nat) : ℚ) * 2 ^ E = m' * 2 ^ e' - m * 2 ^ e := by
  rw [Nat.cast_sub (shiftLeft_lt_of_value_lt lt below below').le, sub_mul, shiftLeft_value m' below',
    shiftLeft_value m below]

/-- The difference of two positive doubles is the difference of their mantissas at the smaller
exponent, normalized. -/
theorem sub_eq_normalize (shapeX : FloatShape.of x = .finite ⟨false, mx, ex⟩)
    (shapeY : FloatShape.of y = .finite ⟨false, my, ey⟩) (positiveX : 0 < mx) (positiveY : 0 < my) :
    x - y = Float.ofModel (Float.Model.pack (UnpackedFloat.normalize Format.binary64
      (((mx <<< (ex - min ex ey).toNat : Nat) : Int) - ((my <<< (ey - min ex ey).toNat : Nat) : Int))
      (min ex ey) .positive)) := by
  have difference : x - y = Float.ofModel (Float.Model.pack
      (UnpackedFloat.sub Format.binary64 x.toModel.unpack y.toModel.unpack)) := rfl
  rw [difference, unpack_of_positive shapeX positiveX, unpack_of_positive shapeY positiveY]
  simp only [UnpackedFloat.sub, decreaseExponent, Sign.apply]

/-- A difference of positive doubles, the subtrahend the smaller, is the packed rounding of its
exact value at the binade of that value. -/
theorem sub_rounded (shapeX : FloatShape.of x = .finite ⟨false, mx, ex⟩)
    (shapeY : FloatShape.of y = .finite ⟨false, my, ey⟩) (positiveX : 0 < mx) (positiveY : 0 < my)
    (less : (my : ℚ) * 2 ^ ey < mx * 2 ^ ex) :
    ∃ s n, Dyadic.AtBinade (mx * 2 ^ ex - my * 2 ^ ey) s ∧ RoundsTo ((mx * 2 ^ ex - my * 2 ^ ey) / 2 ^ s) n ∧
      x - y = Float.ofModel (Float.Model.pack (FloatShape.finite (Dyadic.roundedAt n s)).unpacked) := by
  rw [sub_eq_normalize shapeX shapeY positiveX positiveY]
  -- at the smaller exponent the mantissas are in the order of the values
  have ordered := shiftLeft_lt_of_value_lt less (min_le_right ex ey) (min_le_left ex ey)
  have positive : 0 < mx <<< (ex - min ex ey).toNat - my <<< (ey - min ex ey).toNat := by omega
  have exact : ((mx <<< (ex - min ex ey).toNat : Nat) : Int) - ((my <<< (ey - min ex ey).toNat : Nat) : Int) =
      ((mx <<< (ex - min ex ey).toNat - my <<< (ey - min ex ey).toNat : Nat) : Int) := by omega
  have greater : compare ((mx <<< (ex - min ex ey).toNat - my <<< (ey - min ex ey).toNat : Nat) : Int) 0 =
      .gt := by
    rw [compare_gt_iff_gt]
    exact_mod_cast positive
  rw [exact]
  simp only [UnpackedFloat.normalize, greater, Int.toNat_natCast]
  obtain ⟨n, rounds, rounded⟩ := round_exact (E := min ex ey) positive
  rw [rounded]
  rw [← value_sub_shiftLeft less (min_le_right ex ey) (min_le_left ex ey)]
  exact ⟨_, n, atBinade_target positive _, rounds, rfl⟩

end Rounded

/-! ### Zeros, infinity and the order of positive doubles -/

section Order

variable {x y : Float} {mx my : Nat} {ex ey : Int}

theorem ofModel_pack_unpack (x : Float) : Float.ofModel (Float.Model.pack x.toModel.unpack) = x :=
  ofBits_toBits x

/-- A positive double less a zero is itself. -/
theorem sub_of_zero {sign : Sign} (shapeX : FloatShape.of x = .finite ⟨false, mx, ex⟩) (positiveX : 0 < mx)
    (zero : y.toModel.unpack = .zero sign) : x - y = x := by
  have difference : x - y = Float.ofModel (Float.Model.pack
      (UnpackedFloat.sub Format.binary64 x.toModel.unpack y.toModel.unpack)) := rfl
  rw [difference, zero, unpack_of_positive shapeX positiveX]
  simp only [UnpackedFloat.sub]
  rw [← unpack_of_positive shapeX positiveX, ofModel_pack_unpack]

/-- A zero plus a positive double is that double. -/
theorem add_of_zero {sign : Sign} (shapeY : FloatShape.of y = .finite ⟨false, my, ey⟩) (positiveY : 0 < my)
    (zero : x.toModel.unpack = .zero sign) : x + y = y := by
  have sum : x + y = Float.ofModel (Float.Model.pack
      (UnpackedFloat.add Format.binary64 x.toModel.unpack y.toModel.unpack)) := rfl
  rw [sum, zero, unpack_of_positive shapeY positiveY]
  simp only [UnpackedFloat.add]
  rw [← unpack_of_positive shapeY positiveY, ofModel_pack_unpack]

/-- A sum of doubles not below zero is not below zero: at the smaller exponent the exact sum of
two positive mantissas is positive, and rounds with a positive sign. -/
theorem nonneg_add {u v : UnpackedFloat} (nonnegU : NonnegUnpacked u) (nonnegV : NonnegUnpacked v) :
    NonnegUnpacked (UnpackedFloat.add Format.binary64 u v) := by
  cases u with
  | notANumber => exact nonnegU.elim
  | infinity sign =>
      obtain rfl : sign = .positive := nonnegU
      cases v with
      | notANumber => exact nonnegV.elim
      | infinity sign' =>
          obtain rfl : sign' = .positive := nonnegV
          rfl
      | zero => rfl
      | finite => rfl
  | zero sign =>
      cases v with
      | notANumber => exact nonnegV.elim
      | zero sign' => simp only [UnpackedFloat.add]; split <;> trivial
      | _ => exact nonnegV
  | finite sign m e positive =>
      obtain rfl : sign = .positive := nonnegU
      cases v with
      | notANumber => exact nonnegV.elim
      | infinity sign' => exact nonnegV
      | zero => rfl
      | finite sign' m' e' positive' =>
          obtain rfl : sign' = .positive := nonnegV
          simp only [UnpackedFloat.add, decreaseExponent, Sign.apply]
          generalize m <<< (e - min e e').toNat = a
          generalize m' <<< (e' - min e e').toNat = b
          unfold UnpackedFloat.normalize
          split
          · rename_i negative
            have := Int.compare_eq_lt.1 negative
            omega
          · trivial
          · exact nonneg_round _ _

theorem zero_le_of_pos (positive : (0.0 : Float) < x) : (0.0 : Float) ≤ x := by
  rw [zero_le_iff_nonneg, ← FloatShape.unpacked_of]
  rcases FloatShape.of_pos positive with ⟨m, q, positiveM, shape⟩ | infinite
  · rw [shape]
    simp [FloatShape.unpacked, positiveM.ne', FloatShape.signOf, NonnegUnpacked]
  · rw [infinite]
    rfl

theorem zero_le_add (nonnegX : (0.0 : Float) ≤ x) (nonnegY : (0.0 : Float) ≤ y) : (0.0 : Float) ≤ x + y := by
  rw [zero_le_iff_nonneg] at nonnegX nonnegY ⊢
  exact nonneg_pack (nonneg_add nonnegX nonnegY)

/-- Every double not below zero is at most itself; NaN is the one double that is not. -/
theorem le_refl_of_nonneg (nonneg : (0.0 : Float) ≤ x) : x ≤ x := by
  rw [zero_le_iff_nonneg] at nonneg
  rw [le_iff_unpack_le]
  generalize x.toModel.unpack = u at nonneg ⊢
  cases u with
  | notANumber => exact nonneg.elim
  | zero => rfl
  | finite sign m e positive =>
      obtain rfl : sign = .positive := nonneg
      simp [UnpackedFloat.le, UnpackedFloat.compare]
  | infinity sign =>
      obtain rfl : sign = .positive := nonneg
      rfl

/-- A double not below zero is a zero, a positive double or positive infinity. -/
theorem nonneg_cases (nonneg : (0.0 : Float) ≤ x) :
    (∃ sign, x.toModel.unpack = .zero sign) ∨ (∃ m q, 0 < m ∧ FloatShape.of x = .finite ⟨false, m, q⟩) ∨
      x.toModel.unpack = .infinity .positive := by
  rw [zero_le_iff_nonneg, ← FloatShape.unpacked_of] at nonneg
  rw [← FloatShape.unpacked_of]
  rcases shape : FloatShape.of x with ⟨negative, m, q⟩ | negative | _ <;> rw [shape] at nonneg
  · by_cases zero : m = 0
    · exact .inl ⟨FloatShape.signOf negative, by simp [FloatShape.unpacked, zero]⟩
    · cases negative
      · exact .inr (.inl ⟨m, q, Nat.pos_of_ne_zero zero, rfl⟩)
      · simp [FloatShape.unpacked, zero, FloatShape.signOf, NonnegUnpacked] at nonneg
  · cases negative
    · exact .inr (.inr rfl)
    · simp [FloatShape.unpacked, FloatShape.signOf, NonnegUnpacked] at nonneg
  · simp [FloatShape.unpacked, NonnegUnpacked] at nonneg

/-- A double at least a positive double is positive infinity, or a positive double of at least
its value. -/
theorem ge_cases (shapeX : FloatShape.of x = .finite ⟨false, mx, ex⟩) (positiveX : 0 < mx) (le : x ≤ y) :
    y.toModel.unpack = .infinity .positive ∨
      ∃ m q, 0 < m ∧ FloatShape.of y = .finite ⟨false, m, q⟩ ∧ (mx : ℚ) * 2 ^ ex ≤ m * 2 ^ q := by
  have compared := le
  rw [le_iff_unpack_le, unpack_of_positive shapeX positiveX, ← FloatShape.unpacked_of] at compared
  rw [← FloatShape.unpacked_of]
  rcases shape : FloatShape.of y with ⟨negative, m, q⟩ | negative | _ <;> rw [shape] at compared
  · by_cases zero : m = 0
    · simp [FloatShape.unpacked, zero, UnpackedFloat.le, UnpackedFloat.compare] at compared
    · cases negative
      · have positive := Nat.pos_of_ne_zero zero
        exact .inr ⟨m, q, positive, rfl, (le_iff_value_le shapeX shape positiveX positive).1 le⟩
      · simp [FloatShape.unpacked, zero, FloatShape.signOf, UnpackedFloat.le, UnpackedFloat.compare] at compared
  · cases negative
    · exact .inl rfl
    · simp [FloatShape.unpacked, FloatShape.signOf, UnpackedFloat.le, UnpackedFloat.compare] at compared
  · simp [FloatShape.unpacked, UnpackedFloat.le, UnpackedFloat.compare] at compared

/-- Only positive infinity is at least positive infinity. -/
theorem eq_infinity_of_le (infinite : x.toModel.unpack = .infinity .positive) (le : x ≤ y) :
    y.toModel.unpack = .infinity .positive := by
  rw [le_iff_unpack_le, infinite] at le
  generalize y.toModel.unpack = u at le ⊢
  cases u with
  | infinity sign =>
      cases sign with
      | negative => exact absurd le (by decide)
      | positive => rfl
  | zero sign => simp [UnpackedFloat.le, UnpackedFloat.compare] at le
  | finite sign => simp [UnpackedFloat.le, UnpackedFloat.compare] at le
  | notANumber => simp [UnpackedFloat.le, UnpackedFloat.compare] at le

/-- A positive double less a positive double at least as large is not above zero: the exact
difference is zero or negative. -/
theorem not_pos_sub_of_value_le (shapeX : FloatShape.of x = .finite ⟨false, mx, ex⟩)
    (shapeY : FloatShape.of y = .finite ⟨false, my, ey⟩) (positiveX : 0 < mx) (positiveY : 0 < my)
    (le : (mx : ℚ) * 2 ^ ex ≤ my * 2 ^ ey) : ¬ (0.0 : Float) < x - y := by
  rw [sub_eq_normalize shapeX shapeY positiveX positiveY]
  apply not_pos_of_notAbove
  apply notAbove_pack
  have ordered := shiftLeft_le_of_value_le le (min_le_left ex ey) (min_le_right ex ey)
  generalize mx <<< (ex - min ex ey).toNat = a at ordered ⊢
  generalize my <<< (ey - min ex ey).toNat = b at ordered ⊢
  unfold UnpackedFloat.normalize
  split
  · exact notAbove_round _ _
  · trivial
  · rename_i above
    have := Int.compare_eq_gt.1 above
    omega

/-- A positive double less positive infinity is negative infinity. -/
theorem not_pos_sub_of_infinity (shapeX : FloatShape.of x = .finite ⟨false, mx, ex⟩) (positiveX : 0 < mx)
    (infinite : y.toModel.unpack = .infinity .positive) : ¬ (0.0 : Float) < x - y := by
  apply not_pos_of_notAbove
  change NotAboveUnpacked (Float.Model.pack
    (UnpackedFloat.sub Format.binary64 x.toModel.unpack y.toModel.unpack)).unpack
  apply notAbove_pack
  rw [unpack_of_positive shapeX positiveX, infinite]
  rfl

/-- A positive double less a double at least as large is not above zero. -/
theorem not_pos_sub_of_le (shapeX : FloatShape.of x = .finite ⟨false, mx, ex⟩) (positiveX : 0 < mx)
    (le : x ≤ y) : ¬ (0.0 : Float) < x - y := by
  rcases ge_cases shapeX positiveX le with infinite | ⟨m, q, positive, shape, reach⟩
  · exact not_pos_sub_of_infinity shapeX positiveX infinite
  · exact not_pos_sub_of_value_le shapeX shape positiveX positive reach

theorem not_infinity_of_isFinite (finite : Binary.isFinite x = true) :
    x.toModel.unpack ≠ .infinity .positive := by
  obtain ⟨⟨negative, m, q⟩, shape⟩ := FloatShape.exists_of_isFinite finite
  rw [← FloatShape.unpacked_of, shape]
  by_cases zero : m = 0 <;> simp [FloatShape.unpacked, zero]

/-- A sum of doubles not below zero, one of them positive infinity, is positive infinity. -/
theorem add_eq_infinity (nonnegX : NonnegUnpacked x.toModel.unpack) (nonnegY : NonnegUnpacked y.toModel.unpack)
    (infinite : x.toModel.unpack = .infinity .positive ∨ y.toModel.unpack = .infinity .positive) :
    (x + y).toModel.unpack = .infinity .positive := by
  have unpacked : UnpackedFloat.add Format.binary64 x.toModel.unpack y.toModel.unpack = .infinity .positive := by
    generalize x.toModel.unpack = u at *
    generalize y.toModel.unpack = v at *
    rcases infinite with rfl | rfl
    · cases v with
      | notANumber => exact nonnegY.elim
      | infinity sign =>
          obtain rfl : sign = .positive := nonnegY
          rfl
      | zero sign => rfl
      | finite sign => rfl
    · cases u with
      | notANumber => exact nonnegX.elim
      | infinity sign =>
          obtain rfl : sign = .positive := nonnegX
          rfl
      | zero sign => rfl
      | finite sign => rfl
  change (Float.Model.pack (UnpackedFloat.add Format.binary64 x.toModel.unpack y.toModel.unpack)).unpack = _
  rw [unpacked]
  rfl

/-- A sum of positive doubles is positive infinity, or a positive double of at least the value
of its second term. -/
theorem add_cases (shapeX : FloatShape.of x = .finite ⟨false, mx, ex⟩)
    (shapeY : FloatShape.of y = .finite ⟨false, my, ey⟩) (positiveX : 0 < mx) (positiveY : 0 < my) :
    (x + y).toModel.unpack = .infinity .positive ∨
      ∃ m q, 0 < m ∧ FloatShape.of (x + y) = .finite ⟨false, m, q⟩ ∧ (my : ℚ) * 2 ^ ey ≤ m * 2 ^ q := by
  obtain ⟨s, n, binade, rounds, sum⟩ := add_rounded shapeX shapeY positiveX positiveY
  have canonicalY := (FloatShape.of_eq_finite shapeY).1
  have valueY : (0 : ℚ) < my * 2 ^ ey := by positivity
  -- rounding keeps the exact sum at least `y`
  have reach : (my : ℚ) * 2 ^ ey ≤ n * 2 ^ s := by
    apply Dyadic.le_rounded binade rounds canonicalY.mantissa_lt
    · have := canonicalY.least_le
      have := binade.least_le
      simp only at *
      omega
    · have : (0 : ℚ) ≤ mx * 2 ^ ex := by positivity
      linarith
  have positive := pos_of_le_rounded valueY reach
  rw [sum]
  by_cases inRange : (Dyadic.roundedAt n s).exponent ≤ 971
  · obtain ⟨m, q, mantissaPos, shape, value⟩ := pack_roundedAt_shape binade rounds positive inRange
    exact .inr ⟨m, q, mantissaPos, shape, value ▸ reach⟩
  · exact .inl (pack_roundedAt_overflow positive (by omega))

/-- A finite sum of a double not below zero and a double above zero is a positive double. -/
theorem add_pos_of_isFinite (nonneg : (0.0 : Float) ≤ x) (positive : (0.0 : Float) < y)
    (finite : Binary.isFinite (x + y) = true) : ∃ m q, 0 < m ∧ FloatShape.of (x + y) = .finite ⟨false, m, q⟩ := by
  have bounded := not_infinity_of_isFinite finite
  have nonnegX := (zero_le_iff_nonneg x).1 nonneg
  rcases FloatShape.of_pos positive with ⟨my, ey, positiveY, shapeY⟩ | infiniteY
  · rcases nonneg_cases nonneg with ⟨sign, zero⟩ | ⟨mx, ex, positiveX, shapeX⟩ | infiniteX
    · rw [add_of_zero shapeY positiveY zero]
      exact ⟨my, ey, positiveY, shapeY⟩
    · rcases add_cases shapeX shapeY positiveX positiveY with infinite | ⟨m, q, positiveSum, shape, -⟩
      · exact absurd infinite bounded
      · exact ⟨m, q, positiveSum, shape⟩
    · have nonnegY : NonnegUnpacked y.toModel.unpack := by
        rw [unpack_of_positive shapeY positiveY]
        rfl
      exact absurd (add_eq_infinity nonnegX nonnegY (.inl infiniteX)) bounded
  · have infinite : y.toModel.unpack = .infinity .positive := by
      rw [← FloatShape.unpacked_of, infiniteY]
      rfl
    have nonnegY : NonnegUnpacked y.toModel.unpack := by
      rw [infinite]
      rfl
    exact absurd (add_eq_infinity nonnegX nonnegY (.inr infinite)) bounded

end Order

/-! ### Exact sums and differences -/

section Exact

variable {x y : Float} {mx my : Nat} {ex ey : Int}

/-- A sum of positive doubles whose exact value is the value of a positive double is that
double. -/
theorem add_eq_of_value {z : Float} {mz : Nat} {ez : Int} (shapeX : FloatShape.of x = .finite ⟨false, mx, ex⟩)
    (shapeY : FloatShape.of y = .finite ⟨false, my, ey⟩) (shapeZ : FloatShape.of z = .finite ⟨false, mz, ez⟩)
    (positiveX : 0 < mx) (positiveY : 0 < my) (positiveZ : 0 < mz)
    (exact : (mx : ℚ) * 2 ^ ex + my * 2 ^ ey = mz * 2 ^ ez) : x + y = z := by
  obtain ⟨s, n, binade, rounds, sum⟩ := add_rounded shapeX shapeY positiveX positiveY
  have canonicalZ := (FloatShape.of_eq_finite shapeZ).1
  rw [exact] at binade rounds
  have aligned : s ≤ ez := binade.le_exponent canonicalZ.mantissa_lt canonicalZ.least_le le_rfl
  have value := Dyadic.rounds_exact rounds rfl aligned
  have positive := pos_of_le_rounded (by positivity) value.ge
  have inRange := (Dyadic.roundedAt_exponent_le binade rounds canonicalZ le_rfl).trans canonicalZ.le_greatest
  obtain ⟨m, q, -, shape, value'⟩ := pack_roundedAt_shape binade rounds positive inRange
  -- one value, so one canonical shape
  obtain ⟨rfl, rfl⟩ := Dyadic.eq_of_value_eq (FloatShape.of_eq_finite shape).1 canonicalZ (value'.trans value)
  rw [sum]
  exact eq_of_shape shape shapeZ

/-- Sterbenz: the difference of two positive doubles at most a factor of two apart, the
subtrahend the smaller, is exact. -/
theorem sub_exact_of_half_le (shapeX : FloatShape.of x = .finite ⟨false, mx, ex⟩)
    (shapeY : FloatShape.of y = .finite ⟨false, my, ey⟩) (positiveX : 0 < mx) (positiveY : 0 < my)
    (less : (my : ℚ) * 2 ^ ey < mx * 2 ^ ex) (half : (mx : ℚ) * 2 ^ ex ≤ 2 * (my * 2 ^ ey)) :
    ∃ m q, 0 < m ∧ FloatShape.of (x - y) = .finite ⟨false, m, q⟩ ∧
      (m : ℚ) * 2 ^ q = mx * 2 ^ ex - my * 2 ^ ey := by
  obtain ⟨s, n, binade, rounds, difference⟩ := sub_rounded shapeX shapeY positiveX positiveY less
  have canonicalX := (FloatShape.of_eq_finite shapeX).1
  have canonicalY := (FloatShape.of_eq_finite shapeY).1
  have valueY : (0 : ℚ) < my * 2 ^ ey := by positivity
  have exact := value_sub_shiftLeft less (min_le_right ex ey) (min_le_left ex ey)
  generalize mx <<< (ex - min ex ey).toNat - my <<< (ey - min ex ey).toNat = M at exact
  -- at the smaller exponent the exact difference has at most 53 bits: it is below `x` and at
  -- most `y`
  have small : M < 2 ^ 53 := by
    have mantissaX := canonicalX.mantissa_lt
    have mantissaY := canonicalY.mantissa_lt
    simp only at mantissaX mantissaY
    rcases min_choice ex ey with first | second
    · rw [first] at exact
      have below : (M : ℚ) < mx := lt_of_mul_lt_mul_right (by rw [exact]; linarith) (by positivity)
      have : M < mx := by exact_mod_cast below
      omega
    · rw [second] at exact
      have atMost : (M : ℚ) ≤ my := le_of_mul_le_mul_right (by rw [exact]; linarith) (by positivity)
      have : M ≤ my := by exact_mod_cast atMost
      omega
  have aligned : s ≤ min ex ey :=
    binade.le_exponent small (le_min canonicalX.least_le canonicalY.least_le) exact.symm.le
  have value := Dyadic.rounds_exact rounds exact.symm aligned
  have positive := pos_of_le_rounded (sub_pos.2 less) value.ge
  have inRange := (Dyadic.roundedAt_exponent_le binade rounds canonicalX (by linarith)).trans
    canonicalX.le_greatest
  obtain ⟨m, q, mantissaPos, shape, value'⟩ := pack_roundedAt_shape binade rounds positive inRange
  exact ⟨m, q, mantissaPos, by rw [difference]; exact shape, value'.trans value⟩

/-- Adding the subtrahend back to a difference of positive doubles at most a factor of two apart
gives the minuend again. -/
theorem add_sub_of_half_le (shapeX : FloatShape.of x = .finite ⟨false, mx, ex⟩)
    (shapeY : FloatShape.of y = .finite ⟨false, my, ey⟩) (positiveX : 0 < mx) (positiveY : 0 < my)
    (less : (my : ℚ) * 2 ^ ey < mx * 2 ^ ex) (half : (mx : ℚ) * 2 ^ ex ≤ 2 * (my * 2 ^ ey)) :
    y + (x - y) = x := by
  obtain ⟨m, q, positive, shape, value⟩ := sub_exact_of_half_le shapeX shapeY positiveX positiveY less half
  exact add_eq_of_value shapeY shape shapeX positiveY positive positiveX (by rw [value]; ring)

/-- A difference of positive doubles whose subtrahend is at most half the minuend is a positive
double of at least half the minuend: rounding keeps that bound, and in the least binade the
difference is exact. -/
theorem half_le_sub (shapeX : FloatShape.of x = .finite ⟨false, mx, ex⟩)
    (shapeY : FloatShape.of y = .finite ⟨false, my, ey⟩) (positiveX : 0 < mx) (positiveY : 0 < my)
    (half : 2 * ((my : ℚ) * 2 ^ ey) ≤ mx * 2 ^ ex) :
    ∃ m q, 0 < m ∧ FloatShape.of (x - y) = .finite ⟨false, m, q⟩ ∧ (mx : ℚ) * 2 ^ ex ≤ 2 * (m * 2 ^ q) := by
  have valueY : (0 : ℚ) < my * 2 ^ ey := by positivity
  have less : (my : ℚ) * 2 ^ ey < mx * 2 ^ ex := by linarith
  obtain ⟨s, n, binade, rounds, difference⟩ := sub_rounded shapeX shapeY positiveX positiveY less
  have canonicalX := (FloatShape.of_eq_finite shapeX).1
  have canonicalY := (FloatShape.of_eq_finite shapeY).1
  have halved : (mx : ℚ) * 2 ^ ex = 2 * (mx * 2 ^ (ex - 1)) := by
    rw [zpow_sub₀ two_ne_zero, zpow_one]
    ring
  have reach : (mx : ℚ) * 2 ^ (ex - 1) ≤ n * 2 ^ s := by
    by_cases bottom : s = -1074
    · have exact := value_sub_shiftLeft less (min_le_right ex ey) (min_le_left ex ey)
      have aligned : s ≤ min ex ey := by
        rw [bottom]
        exact le_min canonicalX.least_le canonicalY.least_le
      rw [Dyadic.rounds_exact rounds exact.symm aligned]
      linarith
    · have least := binade.least_le
      exact Dyadic.le_rounded binade rounds canonicalX.mantissa_lt (.inr (by omega)) (by linarith)
  have positive := pos_of_le_rounded (by positivity) reach
  have inRange := (Dyadic.roundedAt_exponent_le binade rounds canonicalX (by linarith)).trans
    canonicalX.le_greatest
  obtain ⟨m, q, mantissaPos, shape, value⟩ := pack_roundedAt_shape binade rounds positive inRange
  refine ⟨m, q, mantissaPos, by rw [difference]; exact shape, ?_⟩
  rw [value]
  linarith

end Exact

end LoadHarness
