import Mathlib
import LoadHarness.Proofs.Float.Bits
import LoadHarness.Number.Shortest

/-!
# Correct rounding of ratios

`Binary.nearest false num den` is the positive double nearest to `num / den`, a tie going to
the even mantissa.  The main result, `Binary.nearest_eq_of_within`, says it the way a reader
of decimal text needs it: every ratio inside the rounding interval of a positive double
(`Dyadic.Within`, the interval `Digits.interval` describes, ends included for an even
mantissa) is read as that double.

The proof follows `nearest` step by step: `scaledQuotient` divides exactly
(`scaledQuotient_spec`), `leadingShift` finds the binade of the ratio (`leadingShift_spec`),
the shift is the double's own exponent, or one less a quarter unit below a power of two
(`shift_of_within`, `shift_of_boundary`), half-to-even rounding at that shift gives the
double's mantissa (`roundHalfEven_eq`), and the bits written are the double's
(`assemble_normal`, `assemble_subnormal`).  The sign takes no part in the rounding: it is set
last, above the magnitude's bits (`assemble_eq`), so `nearest true num den` is the same double
with its sign bit set.
-/

namespace LoadHarness

/-- A quotient and remainder put back together, over the rationals. -/
theorem quotient_add_remainder (a d : Nat) (positive : 0 < d) :
    ((a / d : Nat) : ℚ) + ((a % d : Nat) : ℚ) / d = a / d := by
  have denPos : (d : ℚ) ≠ 0 := by exact_mod_cast positive.ne'
  have split : ((a / d * d + a % d : Nat) : ℚ) = a := by rw [Nat.div_add_mod']
  push_cast at split
  field_simp
  linarith

namespace Binary

/-- `scaledQuotient` divides exactly: the quotient plus the remainder over the divisor is
`num / den / 2^shift`. -/
theorem scaledQuotient_spec (num den : Nat) (shift : Int) (positive : 0 < den) :
    0 < (scaledQuotient num den shift).2.2 ∧
      (scaledQuotient num den shift).2.1 < (scaledQuotient num den shift).2.2 ∧
      ((scaledQuotient num den shift).1 : ℚ) +
          (scaledQuotient num den shift).2.1 / (scaledQuotient num den shift).2.2 =
        num / den / 2 ^ shift := by
  unfold scaledQuotient
  by_cases low : shift ≤ 0
  · simp only [low, if_true, Nat.pow_eq]
    refine ⟨positive, Nat.mod_lt _ positive, ?_⟩
    have scale : (2 : ℚ) ^ shift = ((2 : ℚ) ^ (-shift).toNat)⁻¹ := by
      rw [← zpow_natCast, Int.toNat_of_nonneg (by omega), zpow_neg, inv_inv]
    rw [quotient_add_remainder _ _ positive, scale, div_inv_eq_mul]
    push_cast
    ring
  · simp only [low, if_false, Nat.pow_eq]
    have bottom : 0 < den * 2 ^ shift.toNat := Nat.mul_pos positive (Nat.two_pow_pos _)
    refine ⟨bottom, Nat.mod_lt _ bottom, ?_⟩
    have scale : (2 : ℚ) ^ shift = 2 ^ shift.toNat := by
      rw [← zpow_natCast, Int.toNat_of_nonneg (by omega)]
    rw [quotient_add_remainder _ _ bottom, scale, div_div]
    push_cast
    rfl

/-- A positive number lies in `[2^log2, 2^(log2 + 1))`: its leading bit, over the rationals. -/
theorem log2_bounds {n : Nat} (positive : 0 < n) :
    (2 : ℚ) ^ n.log2 ≤ n ∧ (n : ℚ) < 2 ^ n.log2 * 2 := by
  constructor
  · exact_mod_cast Nat.log2_self_le positive.ne'
  · rw [← pow_succ]
    exact_mod_cast Nat.lt_log2_self

/-- `leadingShift` finds the binade of the ratio: divided by two to that power it lies in
`[2^52, 2^53)`.  The guess from the two leading bits is off by at most one, downwards. -/
theorem leadingShift_spec {num den : Nat} (hnum : 0 < num) (hden : 0 < den) :
    (2 : ℚ) ^ 52 ≤ num / den / 2 ^ leadingShift num den ∧
      (num : ℚ) / den / 2 ^ leadingShift num den < 2 ^ 53 := by
  obtain ⟨numLow, numHigh⟩ := log2_bounds hnum
  obtain ⟨denLow, denHigh⟩ := log2_bounds hden
  have guessed : (num : ℚ) / den / 2 ^ ((num.log2 : Int) - den.log2 - 52) =
      num / 2 ^ num.log2 / (den / 2 ^ den.log2) * 2 ^ 52 := by
    rw [zpow_sub₀ two_ne_zero, zpow_sub₀ two_ne_zero, zpow_natCast, zpow_natCast]
    field_simp
  -- the guess puts the ratio in `(2^51, 2^53)`
  have twoPos : (0 : ℚ) < 2 ^ num.log2 := by positivity
  have twoPos' : (0 : ℚ) < 2 ^ den.log2 := by positivity
  have numRatio : 1 ≤ (num : ℚ) / 2 ^ num.log2 ∧ (num : ℚ) / 2 ^ num.log2 < 2 := by
    constructor
    · rw [le_div_iff₀ twoPos]; linarith
    · rw [div_lt_iff₀ twoPos]; linarith
  have denRatio : 1 ≤ (den : ℚ) / 2 ^ den.log2 ∧ (den : ℚ) / 2 ^ den.log2 < 2 := by
    constructor
    · rw [le_div_iff₀ twoPos']; linarith
    · rw [div_lt_iff₀ twoPos']; linarith
  have guessLow : (2 : ℚ) ^ 51 < num / den / 2 ^ ((num.log2 : Int) - den.log2 - 52) := by
    rw [guessed]
    have : (1 : ℚ) / 2 < num / 2 ^ num.log2 / (den / 2 ^ den.log2) := by
      rw [lt_div_iff₀ (by linarith)]
      linarith
    nlinarith
  have guessHigh : (num : ℚ) / den / 2 ^ ((num.log2 : Int) - den.log2 - 52) < 2 ^ 53 := by
    rw [guessed]
    have : (num : ℚ) / 2 ^ num.log2 / (den / 2 ^ den.log2) < 2 := by
      rw [div_lt_iff₀ (by linarith)]
      linarith
    nlinarith
  unfold leadingShift
  simp only [Nat.pow_eq]
  obtain ⟨divisorPos, remainderLt, parts⟩ := scaledQuotient_spec num den ((num.log2 : Int) - den.log2 - 52) hden
  generalize scaledQuotient num den ((num.log2 : Int) - den.log2 - 52) = triple at *
  obtain ⟨low, remainder, divisor⟩ := triple
  simp only at divisorPos remainderLt parts ⊢
  have fraction : (0 : ℚ) ≤ remainder / divisor ∧ (remainder : ℚ) / divisor < 1 := by
    constructor
    · positivity
    · rw [div_lt_one (by exact_mod_cast divisorPos)]
      exact_mod_cast remainderLt
  generalize ((num.log2 : Int) - den.log2 - 52) = guess at *
  generalize (num : ℚ) / den = ratio at *
  by_cases beyond : low ≥ 2 ^ 53
  · -- the floor of a ratio below `2^53` is below `2^53`
    have : (2 : ℚ) ^ 53 ≤ low := by exact_mod_cast beyond
    linarith
  · by_cases under : low < 2 ^ 52
    · -- the ratio is below `2^52`, so one binade down it lies in `[2^52, 2^53)`
      have : (low : ℚ) + 1 ≤ 2 ^ 52 := by exact_mod_cast under
      have halved : ratio / 2 ^ (guess - 1) = ratio / 2 ^ guess * 2 := by
        rw [zpow_sub₀ two_ne_zero, zpow_one]
        field_simp
      rw [if_neg beyond, if_pos under, halved]
      constructor <;> nlinarith
    · have : (2 : ℚ) ^ 52 ≤ low := by exact_mod_cast Nat.le_of_not_lt under
      rw [if_neg beyond, if_neg under]
      constructor <;> linarith

/-- Rounding `quotient + remainder / divisor` half to even, as `nearest` does, gives `m`
whenever that number lies within half a unit of `m`, the half reached only for an even `m`. -/
theorem roundHalfEven_eq {quotient remainder divisor m : Nat} (divisorPos : 0 < divisor)
    (remainderLt : remainder < divisor)
    (above : (m : ℚ) - 1 / 2 ≤ quotient + remainder / divisor)
    (below : (quotient : ℚ) + remainder / divisor ≤ m + 1 / 2)
    (tie : ((quotient : ℚ) + remainder / divisor = m - 1 / 2 ∨
      (quotient : ℚ) + remainder / divisor = m + 1 / 2) → m % 2 = 0) :
    (if (2 * remainder > divisor || (2 * remainder == divisor && quotient % 2 == 1)) = true then
      quotient + 1 else quotient) = m := by
  have divisorPos' : (0 : ℚ) < divisor := by exact_mod_cast divisorPos
  have fractionLt : (remainder : ℚ) / divisor < 1 := by
    rw [div_lt_one divisorPos']
    exact_mod_cast remainderLt
  have fractionNonneg : (0 : ℚ) ≤ remainder / divisor := by positivity
  -- the half unit, read on the remainder
  have half : (remainder : ℚ) / divisor = 1 / 2 ↔ 2 * remainder = divisor := by
    rw [div_eq_iff divisorPos'.ne']
    constructor
    · intro h
      exact_mod_cast (by linarith : (2 * remainder : ℚ) = divisor)
    · intro h
      have : (2 * remainder : ℚ) = divisor := by exact_mod_cast h
      linarith
  have belowHalf : (remainder : ℚ) / divisor < 1 / 2 ↔ 2 * remainder < divisor := by
    rw [div_lt_iff₀ divisorPos']
    constructor
    · intro h
      exact_mod_cast (by linarith : (2 * remainder : ℚ) < divisor)
    · intro h
      have : (2 * remainder : ℚ) < divisor := by exact_mod_cast h
      linarith
  have notAbove : quotient ≤ m := by
    have : (quotient : ℚ) < m + 1 := by linarith
    exact_mod_cast Nat.lt_succ_iff.1 (by exact_mod_cast this)
  have notBelow : m ≤ quotient + 1 := by
    have : (m : ℚ) < quotient + 2 := by linarith
    exact Nat.lt_succ_iff.1 (by exact_mod_cast this)
  rcases Nat.eq_or_lt_of_le notAbove with same | less
  · -- the quotient is `m`: at most half a unit is left over, and a half only for even `m`
    subst same
    have atMostHalf : 2 * remainder ≤ divisor := by
      by_contra more
      have : (1 : ℚ) / 2 < remainder / divisor := by
        rcases lt_or_eq_of_le (le_of_not_gt (mt belowHalf.1 (by omega))) with h | h
        · exact h
        · exact absurd (half.1 h.symm) (by omega)
      linarith
    rcases Nat.eq_or_lt_of_le atMostHalf with exact | short
    · have even : quotient % 2 = 0 := tie (.inr (by rw [half.2 exact]))
      simp [exact, even]
    · simp [Nat.ne_of_lt short, atMostHalf]
  · -- the quotient is `m - 1`: at least half a unit is left over, and a half only for even `m`
    have previous : quotient + 1 = m := by omega
    subst previous
    have atLeastHalf : divisor ≤ 2 * remainder := by
      by_contra fewer
      have := belowHalf.2 (by omega)
      push_cast at above
      linarith
    rcases Nat.eq_or_lt_of_le atLeastHalf with exact | more
    · have even : (quotient + 1) % 2 = 0 := tie (.inl (by rw [half.2 exact.symm]; push_cast; ring))
      have odd : quotient % 2 = 1 := by omega
      simp [← exact, odd]
    · simp [more]

/-- Two binades of the same ratio: one whose quotient reaches `2^52` lies at or below any
whose quotient stays below `2^53`. -/
theorem binade_le {ratio : ℚ} {a b : Int} (reaches : (2 : ℚ) ^ 52 ≤ ratio / 2 ^ a)
    (stays : ratio / 2 ^ b < 2 ^ 53) : a ≤ b := by
  by_contra higher
  have step : ratio / 2 ^ b = ratio / 2 ^ a * 2 ^ (a - b) := by
    rw [zpow_sub₀ two_ne_zero]
    field_simp
  have doubled : (2 : ℚ) ≤ 2 ^ (a - b) := by
    calc (2 : ℚ) = 2 ^ (1 : Int) := by norm_num
      _ ≤ 2 ^ (a - b) := zpow_le_zpow_right₀ (by norm_num) (by omega)
  have : (2 : ℚ) ^ 53 ≤ ratio / 2 ^ b := by
    rw [step]
    calc (2 : ℚ) ^ 53 = 2 ^ 52 * 2 := by norm_num
      _ ≤ ratio / 2 ^ a * 2 ^ (a - b) := by gcongr
  linarith

/-- A ratio whose quotient by `2^b` is below `2^52`, and by `2^a` is not, has `a < b`. -/
theorem binade_lt {ratio : ℚ} {a b : Int} (reaches : (2 : ℚ) ^ 52 ≤ ratio / 2 ^ a)
    (short : ratio / 2 ^ b < 2 ^ 52) : a < b := by
  by_contra notBelow
  have positive : 0 < ratio := by
    have : (0 : ℚ) < ratio / 2 ^ a := lt_of_lt_of_le (by norm_num) reaches
    exact (div_pos_iff_of_pos_right (by positivity)).1 this
  have : ratio / 2 ^ a ≤ ratio / 2 ^ b :=
    div_le_div_of_nonneg_left positive.le (by positivity) (zpow_le_zpow_right₀ (by norm_num) (by omega))
  linarith

/-- `assemble` writes a double from the bits of its magnitude and its sign: below the sign bit
the magnitude of a finite double is `Dyadic.bits` of its unsigned shape. -/
theorem assemble_eq {x : Float} {negative : Bool} {m : Nat} {q : Int}
    (shape : FloatShape.of x = .finite ⟨negative, m, q⟩) {magnitude : UInt64}
    (bits : magnitude.toNat = Dyadic.bits ⟨false, m, q⟩) : assemble negative magnitude = x := by
  obtain ⟨canonical, -⟩ := FloatShape.of_eq_finite shape
  have mantissaLt : m < 2 ^ 53 := canonical.mantissa_lt
  have exponentLe : q ≤ 971 := canonical.le_greatest
  simp only [Dyadic.bits, Bool.false_eq_true, if_false, zero_add] at bits
  apply FloatShape.ofBits_eq shape
  cases negative
  · simpa [assemble, Dyadic.bits] using bits
  · -- the sign bit lies above the magnitude, so setting it adds `2^63`
    have below : magnitude.toNat < 2 ^ 63 := by omega
    simp only [if_true, UInt64.toNat_or, show ((1 : UInt64) <<< 63).toNat = 2 ^ 63 from rfl,
      Nat.or_two_pow_eq_add_of_lt below, Dyadic.bits]
    omega

/-- The bits `nearest` writes for a normal mantissa `m` at exponent `q` are those of the
double of that shape. -/
theorem assemble_normal {x : Float} {negative : Bool} {m : Nat} {q : Int}
    (shape : FloatShape.of x = .finite ⟨negative, m, q⟩) (normal : 2 ^ 52 ≤ m) :
    assemble negative (((q + 1075).toNat.toUInt64 <<< 52) ||| (m - Nat.pow 2 52).toUInt64) = x := by
  obtain ⟨canonical, -⟩ := FloatShape.of_eq_finite shape
  have mantissaLt : m < 2 ^ 53 := canonical.mantissa_lt
  have exponentLe : q ≤ 971 := canonical.le_greatest
  have exponentGe : -1074 ≤ q := canonical.least_le
  apply assemble_eq shape
  have fractionLt : m - 2 ^ 52 < 2 ^ 52 := by omega
  have biasedLt : (q + 1075).toNat < 2 ^ 12 := by omega
  rw [UInt64.toNat_or, UInt64.toNat_shiftLeft, UInt64.toNat_ofNat', UInt64.toNat_ofNat', Nat.pow_eq,
    Nat.mod_eq_of_lt (by omega : m - 2 ^ 52 < 2 ^ 64), Nat.mod_eq_of_lt (by omega : (q + 1075).toNat < 2 ^ 64),
    show UInt64.toNat 52 % 64 = 52 from rfl,
    Nat.mod_eq_of_lt (by rw [Nat.shiftLeft_eq]; omega : (q + 1075).toNat <<< 52 < 2 ^ 64),
    ← Nat.shiftLeft_add_eq_or_of_lt fractionLt, Nat.shiftLeft_eq]
  simp only [Dyadic.bits, Bool.false_eq_true, if_false]
  omega

/-- The bits `nearest` writes for a mantissa below `2^52` are those of the subnormal double
of that shape. -/
theorem assemble_subnormal {x : Float} {negative : Bool} {m : Nat} {q : Int}
    (shape : FloatShape.of x = .finite ⟨negative, m, q⟩) (subnormal : m < 2 ^ 52) :
    assemble negative m.toUInt64 = x := by
  obtain ⟨canonical, -⟩ := FloatShape.of_eq_finite shape
  have least : q = -1074 := canonical.normal.resolve_left (by simp only; omega)
  apply assemble_eq shape
  rw [UInt64.toNat_ofNat', Nat.mod_eq_of_lt (by omega)]
  simp [Dyadic.bits, least]

end Binary

namespace Dyadic

/-- The exact value of a finite double. -/
def value (value : Dyadic) : ℚ :=
  (if value.negative then -1 else 1) * (value.mantissa * 2 ^ value.exponent)

/-- `r` lies in the rounding interval of the double `value`, as `Digits.interval` gives its
ends in units of `2^(q-2)`: the ends belong to it when the mantissa is even. -/
def Within (value : Dyadic) (r : ℚ) : Prop :=
  let unit : ℚ := 2 ^ (value.exponent - 2)
  let ends := Digits.interval value
  if ends.2.2 = true then ends.1 * unit ≤ r ∧ r ≤ ends.2.1 * unit
  else ends.1 * unit < r ∧ r < ends.2.1 * unit

/-- How far below a positive double its rounding interval reaches, in units of its last
place: a quarter at a power of two above the least binade, a half elsewhere. -/
def lowerReach (m : Nat) (q : Int) : ℚ := if m = 2 ^ 52 ∧ -1074 < q then 1 / 4 else 1 / 2

/-- The lower end of the rounding interval of a positive double, in units of `2^q`. -/
theorem interval_low {m : Nat} {q : Int} (positive : 0 < m) :
    ((Digits.interval ⟨false, m, q⟩).1 : ℚ) * 2 ^ (q - 2) = (m - lowerReach m q) * 2 ^ q := by
  unfold Digits.interval lowerReach
  simp only [Nat.pow_eq]
  rw [zpow_sub₀ two_ne_zero]
  by_cases closer : m = 2 ^ 52 ∧ -1074 < q
  · have closerBool : (m == 2 ^ 52 && decide (q > -1074)) = true := by simp [closer.1, closer.2]
    rw [closerBool, if_pos rfl, if_pos closer, Nat.cast_sub (by omega)]
    push_cast
    field_simp
  · have closerBool : (m == 2 ^ 52 && decide (q > -1074)) = false := by
      simpa [Bool.and_eq_false_iff] using closer
    rw [closerBool, if_neg (by simp), if_neg closer, Nat.cast_sub (by omega)]
    push_cast
    field_simp
    ring

/-- The upper end of the rounding interval of a positive double, in units of `2^q`. -/
theorem interval_high (m : Nat) (q : Int) :
    ((Digits.interval ⟨false, m, q⟩).2.1 : ℚ) * 2 ^ (q - 2) = (m + 1 / 2) * 2 ^ q := by
  unfold Digits.interval
  rw [zpow_sub₀ two_ne_zero]
  push_cast
  field_simp
  ring

/-- The rounding interval of a positive double `m · 2^q`, measured in units of `2^q`. -/
theorem within_bounds {m : Nat} {q : Int} {r : ℚ} (positive : 0 < m)
    (within : Within ⟨false, m, q⟩ r) :
    (m : ℚ) - lowerReach m q ≤ r / 2 ^ q ∧ r / 2 ^ q ≤ m + 1 / 2 ∧
      (r / 2 ^ q = m - lowerReach m q ∨ r / 2 ^ q = m + 1 / 2 → m % 2 = 0) := by
  have scalePos : (0 : ℚ) < 2 ^ q := by positivity
  unfold Within at within
  dsimp only at within
  rw [interval_low positive, interval_high] at within
  by_cases even : m % 2 = 0
  · have inclusive : (Digits.interval ⟨false, m, q⟩).2.2 = true := by simp [Digits.interval, even]
    rw [if_pos inclusive] at within
    exact ⟨(le_div_iff₀ scalePos).2 within.1, (div_le_iff₀ scalePos).2 within.2, fun _ => even⟩
  · -- an odd mantissa: the ends are left out, so no tie reaches them
    have exclusive : (Digits.interval ⟨false, m, q⟩).2.2 = false := by simpa [Digits.interval] using even
    rw [if_neg (by simp [exclusive])] at within
    have lowS := (lt_div_iff₀ scalePos).2 within.1
    have highS := (div_lt_iff₀ scalePos).2 within.2
    refine ⟨lowS.le, highS.le, fun tie => ?_⟩
    rcases tie with tie | tie <;> linarith

theorem lowerReach_le (m : Nat) (q : Int) : lowerReach m q ≤ 1 / 2 := by
  unfold lowerReach
  split <;> norm_num

end Dyadic

namespace Binary

/-- Away from the quarter unit below a power of two, the shift of `nearest` is the exponent
of the double whose rounding interval holds the ratio. -/
theorem shift_of_within {m : Nat} {q : Int} (canonical : Dyadic.Canonical ⟨false, m, q⟩)
    {num den : Nat} (hnum : 0 < num) (hden : 0 < den)
    (lower : (m : ℚ) - Dyadic.lowerReach m q ≤ num / den / 2 ^ q)
    (upper : (num : ℚ) / den / 2 ^ q ≤ m + 1 / 2)
    (notBoundary : ¬ (m = 2 ^ 52 ∧ -1074 < q ∧ (num : ℚ) / den / 2 ^ q < 2 ^ 52)) :
    max (leadingShift num den) (-1074) = q := by
  obtain ⟨reaches, stays⟩ := leadingShift_spec hnum hden
  have mantissaLt : m < 2 ^ 53 := canonical.mantissa_lt
  have exponentGe : -1074 ≤ q := canonical.least_le
  have reach := Dyadic.lowerReach_le m q
  have below : (num : ℚ) / den / 2 ^ q < 2 ^ 53 := by
    have : (m : ℚ) + 1 ≤ 2 ^ 53 := by exact_mod_cast mantissaLt
    linarith
  by_cases high : (2 : ℚ) ^ 52 ≤ num / den / 2 ^ q
  · -- the ratio lies in the binade of `q`
    have same : leadingShift num den = q := le_antisymm (binade_le reaches below) (binade_le high stays)
    rw [same]
    exact max_eq_left exponentGe
  · -- below the binade of `q`: only the subnormal range, where the shift stops at `-1074`
    have lower' := binade_lt reaches (lt_of_not_ge high)
    have least : q = -1074 := by
      rcases canonical.normal with normal | least
      · by_contra notLeast
        have mEq : m = 2 ^ 52 := by
          by_contra other
          have : (2 : ℚ) ^ 52 + 1 ≤ m := by exact_mod_cast (by simp only at normal; omega : 2 ^ 52 + 1 ≤ m)
          exact high (by linarith)
        exact notBoundary ⟨mEq, by omega, lt_of_not_ge high⟩
      · exact least
    rw [least] at lower' ⊢
    exact max_eq_right lower'.le

/-- A quarter unit below a power of two `2^52 · 2^q`, above the least binade, `nearest`
works one binade down. -/
theorem shift_of_boundary {q : Int} (above : -1074 < q) {num den : Nat} (hnum : 0 < num)
    (hden : 0 < den) (lower : (2 : ℚ) ^ 52 - 1 / 4 ≤ num / den / 2 ^ q)
    (short : (num : ℚ) / den / 2 ^ q < 2 ^ 52) :
    max (leadingShift num den) (-1074) = q - 1 := by
  obtain ⟨reaches, stays⟩ := leadingShift_spec hnum hden
  have doubled : (num : ℚ) / den / 2 ^ (q - 1) = num / den / 2 ^ q * 2 := by
    rw [zpow_sub₀ two_ne_zero, zpow_one]
    field_simp
  have reachesDown : (2 : ℚ) ^ 52 ≤ num / den / 2 ^ (q - 1) := by rw [doubled]; linarith
  have staysDown : (num : ℚ) / den / 2 ^ (q - 1) < 2 ^ 53 := by rw [doubled]; linarith
  have same : leadingShift num den = q - 1 :=
    le_antisymm (binade_le reaches staysDown) (binade_le reachesDown stays)
  rw [same]
  exact max_eq_left (by omega)

/-- `nearest` reads every ratio of the rounding interval of a double's magnitude as that double,
of the sign it is asked for: the shift is the double's exponent (one less just below a power of two, where rounding
carries back up), and half-to-even rounding at that shift gives the double's mantissa. -/
theorem nearest_eq_of_within {x : Float} {negative : Bool} {m : Nat} {q : Int}
    (shape : FloatShape.of x = .finite ⟨negative, m, q⟩) (positive : 0 < m) {num den : Nat}
    (hden : 0 < den) (within : Dyadic.Within ⟨false, m, q⟩ ((num : ℚ) / den)) :
    nearest negative num den = x := by
  obtain ⟨⟨mantissaLt, least, greatest, normal⟩, -⟩ := FloatShape.of_eq_finite shape
  -- the magnitude is rounded alone; the sign only reaches the bits `assemble` writes
  have canonical : Dyadic.Canonical ⟨false, m, q⟩ := ⟨mantissaLt, least, greatest, normal⟩
  obtain ⟨lower, upper, tie⟩ := Dyadic.within_bounds positive within
  have mantissaLt : m < 2 ^ 53 := canonical.mantissa_lt
  have exponentLe : q ≤ 971 := canonical.le_greatest
  have reach := Dyadic.lowerReach_le m q
  have hnum : 0 < num := by
    -- the interval lies above zero
    rcases Nat.eq_zero_or_pos num with zero | pos
    · subst zero
      have : (1 : ℚ) ≤ m := by exact_mod_cast positive
      simp only [Nat.cast_zero, zero_div] at lower
      linarith
    · exact pos
  have denNe : (den == 0) = false := by simpa using hden.ne'
  have numNe : (num == 0) = false := by simpa using hnum.ne'
  unfold nearest
  simp only [denNe, numNe, Bool.false_eq_true, if_false, Nat.pow_eq]
  by_cases boundary : m = 2 ^ 52 ∧ -1074 < q ∧ (num : ℚ) / den / 2 ^ q < 2 ^ 52
  · -- just below a power of two: the mantissa rounds up to `2^53` and carries into the binade of `q`
    obtain ⟨mEq, above, short⟩ := boundary
    have closer : Dyadic.lowerReach m q = 1 / 4 := by simp [Dyadic.lowerReach, mEq, above]
    rw [closer, mEq] at lower
    push_cast at lower
    rw [shift_of_boundary above hnum hden lower short]
    obtain ⟨divisorPos, remainderLt, parts⟩ := scaledQuotient_spec num den (q - 1) hden
    generalize scaledQuotient num den (q - 1) = triple at *
    obtain ⟨quotient, remainder, divisor⟩ := triple
    simp only at divisorPos remainderLt parts ⊢
    have doubled : (num : ℚ) / den / 2 ^ (q - 1) = num / den / 2 ^ q * 2 := by
      rw [zpow_sub₀ two_ne_zero, zpow_one]
      field_simp
    rw [doubled] at parts
    have rounded := @roundHalfEven_eq quotient remainder divisor (2 ^ 53) divisorPos remainderLt
      (by push_cast; linarith) (by push_cast; linarith) (fun _ => by norm_num)
    rw [rounded]
    simp only [beq_self_eq_true, if_true, sub_add_cancel]
    rw [if_neg (by omega), if_neg (lt_irrefl _)]
    subst mEq
    exact assemble_normal shape le_rfl
  · -- the shift is `q`, and half-to-even rounding gives back `m`
    rw [shift_of_within canonical hnum hden lower upper boundary]
    obtain ⟨divisorPos, remainderLt, parts⟩ := scaledQuotient_spec num den q hden
    generalize scaledQuotient num den q = triple at *
    obtain ⟨quotient, remainder, divisor⟩ := triple
    simp only at divisorPos remainderLt parts ⊢
    -- a tie below `m` is a tie of the interval unless the interval stops a quarter unit short
    have lowerHalf : (m : ℚ) - 1 / 2 ≤ quotient + remainder / divisor := by linarith
    have tieEven : ((quotient : ℚ) + remainder / divisor = m - 1 / 2 ∨
        (quotient : ℚ) + remainder / divisor = m + 1 / 2) → m % 2 = 0 := by
      rintro (low | high)
      · have reachHalf : Dyadic.lowerReach m q = 1 / 2 := by
          unfold Dyadic.lowerReach at lower ⊢
          split
          · rename_i closer
            rw [if_pos closer] at lower
            linarith
          · rfl
        exact tie (.inl (by rw [reachHalf]; linarith))
      · exact tie (.inr (by linarith))
    rw [@roundHalfEven_eq quotient remainder divisor m divisorPos remainderLt lowerHalf (by linarith) tieEven]
    have noCarry : (m == 2 ^ 53) = false := by simpa using mantissaLt.ne
    simp only [noCarry, Bool.false_eq_true, if_false]
    rw [if_neg (by omega)]
    by_cases subnormal : m < 2 ^ 52
    · rw [if_pos subnormal]
      exact assemble_subnormal shape subnormal
    · rw [if_neg subnormal]
      exact assemble_normal shape (by omega)

end Binary

end LoadHarness
