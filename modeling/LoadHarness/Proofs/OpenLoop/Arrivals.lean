import Mathlib
import LoadHarness.Proofs.Settings
import LoadHarness.Proofs.Float.Signed
import LoadHarness.Proofs.Value.Order

/-!
# The arrivals an open loop counts

An open-loop run makes arrival `k` at `k / rate` after its start and stops at `duration`, so the
arrivals due are those with `k / rate < duration`: the whole numbers below `rate · duration`.
`expectedArrivals` counts them in doubles, as the least integer not below the rounded product
less a slack of `10⁻⁹`, itself rounded.

That count is right up to the last due arrival (`expectedArrivals_due`): for a finite rate and
duration whose exact product is at most `2^53`, it is defined and not negative, every arrival it
counts is due, and every due arrival but the last is counted.  Both halves rest on one fact:
each whole number up to `2^53` is a double, so rounding to nearest never passes over one.  The
rounded product stays on the same side of every whole number as the exact one, and taking the
slack off, rounded again, moves it down by less than one.  The last due arrival is lost when the
exact product lies within the slack above a whole number.

The bound on the product is needed: above `2^53` not every whole number is a double, and the
product can round up past one.  At rate 5 for 1801439850948199 s the exact product is `2^53 + 3`,
rounded to `2^53 + 4`, and one arrival more than are due is counted.
-/

namespace LoadHarness

/-! ### Rounding up the product less the slack -/

section Count

variable {r σ : ℚ} {product count : Dyadic}

/-- Every whole number below the count lies below `r`: neither rounding carries the value past a
whole number at least `r`. -/
theorem counted_lt (canonicalP : product.Canonical) (canonicalC : count.Canonical)
    (productRounds : product.RoundsOrUnderflows r)
    (countRounds : count.Rounds (product.value - σ)) (small : r ≤ 2 ^ 53) (slackNonneg : 0 ≤ σ)
    {k : Nat} (counted : (k : Int) < ⌈count.value⌉) : (k : ℚ) < r := by
  have below : (k : ℚ) < count.value := by exact_mod_cast Int.lt_ceil.1 counted
  -- the count is at most the product, and the product at most `2^53`
  have countLe : count.value ≤ product.value :=
    countRounds.value_le canonicalC canonicalP (Dyadic.rounds_value canonicalP) (by linarith)
  have productTop : product.value ≤ ((2 ^ 53 : Nat) : ℚ) :=
    productRounds.le_natCast canonicalP le_rfl (by push_cast; exact small)
  have kSmall : k ≤ 2 ^ 53 := by
    have : (k : ℚ) ≤ ((2 ^ 53 : Nat) : ℚ) := by linarith
    exact_mod_cast this
  by_contra notBelow
  have productLe := productRounds.le_natCast canonicalP kSmall (not_lt.1 notBelow)
  have countLeK := countRounds.le_natCast canonicalC kSmall (by linarith)
  linarith

/-- Every whole number `k` with `k + 1` below `r` lies below the count: the product rounds to at
least `k + 1`, and the slack, rounded, takes less than one off. -/
theorem lt_counted (canonicalP : product.Canonical) (canonicalC : count.Canonical)
    (productRounds : product.RoundsOrUnderflows r)
    (countRounds : count.Rounds (product.value - σ)) (small : r ≤ 2 ^ 53) (slackSmall : σ < 1 / 2)
    {k : Nat} (due : (k : ℚ) + 1 < r) : (k : Int) < ⌈count.value⌉ := by
  have kNonneg : (0 : ℚ) ≤ k := k.cast_nonneg
  -- `r` is above one, so the product did not underflow
  have tiny : (2 : ℚ) ^ (-1074 : Int) ≤ 1 := zpow_le_one_of_nonpos₀ one_le_two (by norm_num)
  have rounds : product.Rounds r := productRounds.rounds (by linarith)
  have succSmall : k + 1 ≤ 2 ^ 53 := by
    have : ((k + 1 : Nat) : ℚ) ≤ ((2 ^ 53 : Nat) : ℚ) := by push_cast; linarith
    exact_mod_cast this
  have productGe : ((k + 1 : Nat) : ℚ) ≤ product.value :=
    rounds.natCast_le canonicalP succSmall (by push_cast; linarith)
  push_cast at productGe
  apply Int.lt_ceil.2
  push_cast
  by_cases top : count.value < 2 ^ 53
  · have near := countRounds.le_add_half canonicalC (by linarith) top
    linarith
  · have : ((k + 1 : Nat) : ℚ) ≤ ((2 ^ 53 : Nat) : ℚ) := by exact_mod_cast succSmall
    push_cast at this
    linarith

/-- The count is not negative: the product less the slack is above `-1/2`, itself a double. -/
theorem count_nonneg (canonicalC : count.Canonical)
    (productRounds : product.RoundsOrUnderflows r)
    (countRounds : count.Rounds (product.value - σ)) (nonneg : 0 ≤ r) (slackSmall : σ < 1 / 2) :
    0 ≤ ⌈count.value⌉ := by
  have productNonneg := productRounds.value_nonneg nonneg
  have half : Dyadic.Canonical ⟨true, 2 ^ 52, -53⟩ := ⟨by norm_num, by norm_num, by norm_num, .inl le_rfl⟩
  have halfValue : Dyadic.value ⟨true, 2 ^ 52, -53⟩ = -1 / 2 := by norm_num [Dyadic.value]
  have above := (Dyadic.rounds_value half).value_le half canonicalC countRounds (by rw [halfValue]; linarith)
  rw [halfValue] at above
  have : (-1 : Int) < ⌈count.value⌉ := Int.lt_ceil.2 (by push_cast; linarith)
  omega

end Count

/-! ### The count of a configuration -/

/-- The least integer not below a finite double is the ceiling of its exact value. -/
theorem Binary.ceilOf_eq_ceil (d : Dyadic) : Binary.ceilOf d = ⌈d.value⌉ := by
  rw [← d.ratio_value, ← neg_neg ((d.ratio.1 : ℚ) / d.ratio.2), Int.ceil_neg, ← neg_div, ← Int.cast_neg,
    Rat.floor_intCast_div_natCast]
  rfl

/-- A positive double at a finite point of the line is a positive finite double of that value. -/
theorem FloatShape.positive_of_position {x : Float} {v : ℚ} (positive : (0.0 : Float) < x)
    (position : (FloatShape.of x).position = ((v : WithTop ℚ) : WithBot (WithTop ℚ))) :
    ∃ m q, 0 < m ∧ FloatShape.of x = .finite ⟨false, m, q⟩ ∧ (m : ℚ) * 2 ^ q = v := by
  rcases FloatShape.of_pos positive with ⟨m, q, mantissaPos, shape⟩ | infinite
  · simp only [shape, FloatShape.position, Dyadic.value_positive] at position
    exact ⟨m, q, mantissaPos, shape, WithTop.coe_inj.1 (WithBot.coe_inj.1 position)⟩
  · rw [infinite] at position
    simp [FloatShape.position] at position

theorem OpenConfig.slack_shape : FloatShape.of OpenConfig.slack = .finite ⟨false, 4835703278458517, -82⟩ := by
  rfl

/-- A validated configuration of finite rate and duration, whose exact product is at most
`2^53`, counts its arrivals: the count is defined and not negative, every arrival it counts is
due before the deadline, and every due arrival but the last is counted. -/
theorem expectedArrivals_due {input : Value} {config : OpenConfig} {rate duration : ℚ}
    (valid : OpenConfig.validate input = .ok config)
    (rateValue : (FloatShape.of config.rate).position = ((rate : WithTop ℚ) : WithBot (WithTop ℚ)))
    (durationValue : (FloatShape.of config.duration).position = ((duration : WithTop ℚ) : WithBot (WithTop ℚ)))
    (small : rate * duration ≤ 2 ^ 53) :
    ∃ n : Int, config.expectedArrivals = .ok n ∧ 0 ≤ n ∧
      (∀ k : Nat, (k : Int) < n → (k : ℚ) / rate < duration) ∧
      (∀ k : Nat, ((k : ℚ) + 1) / rate < duration → (k : Int) < n) := by
  obtain ⟨mx, ex, positiveX, shapeX, rfl⟩ :=
    FloatShape.positive_of_position (OpenConfig.validate_rate valid) rateValue
  obtain ⟨my, ey, positiveY, shapeY, rfl⟩ :=
    FloatShape.positive_of_position (OpenConfig.validate_duration valid) durationValue
  have ratePos : (0 : ℚ) < mx * 2 ^ ex := by positivity
  have productPos : (0 : ℚ) < mx * 2 ^ ex * (my * 2 ^ ey) := by positivity
  -- the product is a rounding of the exact one, or positive zero, and not negative either way
  have top : Dyadic.Canonical ⟨false, 2 ^ 52, 1⟩ := ⟨by norm_num, by norm_num, by norm_num, .inl le_rfl⟩
  obtain ⟨product, productShape, canonicalP, productRounds⟩ :=
    mul_rounds shapeX shapeY positiveX positiveY top (by norm_num; linarith)
  obtain ⟨negative, mp, ep⟩ := product
  obtain rfl : negative = false := productRounds.sign productPos
  obtain ⟨count, countShape, canonicalC, countRounds⟩ :=
    sub_rounds productShape OpenConfig.slack_shape (by norm_num)
  rw [← Dyadic.value_positive] at countRounds
  have slackSmall : ((4835703278458517 : Nat) : ℚ) * 2 ^ (-82 : Int) < 1 / 2 := by norm_num
  have arrivals : config.expectedArrivals = .ok ⌈count.value⌉ := by
    simp only [OpenConfig.expectedArrivals, countShape, Binary.ceilOf_eq_ceil]
  refine ⟨_, arrivals, count_nonneg canonicalC productRounds countRounds productPos.le slackSmall,
    fun k counted => ?_, fun k due => ?_⟩
  · rw [div_lt_iff₀ ratePos, mul_comm ((my : ℚ) * 2 ^ ey)]
    exact counted_lt canonicalP canonicalC productRounds countRounds small (by positivity) counted
  · rw [div_lt_iff₀ ratePos, mul_comm ((my : ℚ) * 2 ^ ey)] at due
    exact lt_counted canonicalP canonicalC productRounds countRounds small slackSmall due

/-- The default configuration, 2000 arrivals a second for 30 s. -/
theorem expectedArrivals_due_by_default :
    OpenConfig.validate (.obj []) = .ok {} ∧
      (FloatShape.of (2000.0 : Float)).position = (((2000 : ℚ) : WithTop ℚ) : WithBot (WithTop ℚ)) ∧
      (FloatShape.of (30.0 : Float)).position = (((30 : ℚ) : WithTop ℚ) : WithBot (WithTop ℚ)) ∧
      (2000 : ℚ) * 30 ≤ 2 ^ 53 ∧
      ∃ n : Int, ({} : OpenConfig).expectedArrivals = .ok n ∧ 0 ≤ n ∧
        (∀ k : Nat, (k : Int) < n → (k : ℚ) / 2000 < 30) ∧
        (∀ k : Nat, ((k : ℚ) + 1) / 2000 < 30 → (k : Int) < n) := by
  have valid : OpenConfig.validate (.obj []) = .ok {} := by rfl
  have rate : (FloatShape.of (2000.0 : Float)).position = (((2000 : ℚ) : WithTop ℚ) : WithBot (WithTop ℚ)) := by
    rw [show FloatShape.of (2000.0 : Float) = .finite ⟨false, 8796093022208000, -42⟩ from rfl]
    norm_num [FloatShape.position, Dyadic.value]
  have duration : (FloatShape.of (30.0 : Float)).position = (((30 : ℚ) : WithTop ℚ) : WithBot (WithTop ℚ)) := by
    rw [show FloatShape.of (30.0 : Float) = .finite ⟨false, 8444249301319680, -48⟩ from rfl]
    norm_num [FloatShape.position, Dyadic.value]
  have small : (2000 : ℚ) * 30 ≤ 2 ^ 53 := by norm_num
  exact ⟨valid, rate, duration, small, expectedArrivals_due valid rate duration small⟩

end LoadHarness
