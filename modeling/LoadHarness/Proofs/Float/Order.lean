import Mathlib
import LoadHarness.Proofs.Float.Sign

/-!
# Doubles on the extended line

A double that is not a NaN stands at a point of the rationals extended by two ends: a finite
double at its exact value, both zeros at zero, an infinity at an end (`FloatShape.position`).
The logical model compares two canonical shapes by sign, then by exponent and mantissa; for the
shapes that bit patterns hold, that is the order of their positions (`compares_position`).  So
`<`, `≤` and `==` of two doubles that are not NaN are the order and equality of their positions
(`lt_iff_position_lt`, `le_iff_position_le`, `beq_iff_position_eq`).
-/

open Float.Model Float.Model.UnpackedFloat

namespace LoadHarness

namespace FloatShape

/-- Where a shape stands on the extended line: a finite double at its exact value, an infinity
at an end.  A NaN stands nowhere; it is put at the bottom. -/
def position : FloatShape → WithBot (WithTop ℚ)
  | .finite value => ((value.value : WithTop ℚ) : WithBot (WithTop ℚ))
  | .infinite negative => if negative then ⊥ else ⊤
  | .nan => ⊥

/-- Every value lies below the upper end. -/
theorem value_lt_top (v : ℚ) : ((v : WithTop ℚ) : WithBot (WithTop ℚ)) < ⊤ := by
  rw [← WithBot.coe_top]
  exact WithBot.coe_lt_coe.2 (WithTop.coe_lt_top v)

end FloatShape

/-! ### Comparisons as orderings of values -/

section Compares

variable {o : Ordering}

/-- Negating both sides turns an ordering around. -/
theorem Ordering.Compares.neg_swap {a b : ℚ} (compares : o.Compares a b) : o.swap.Compares (-a) (-b) := by
  cases o <;> simp only [Ordering.swap, Ordering.Compares] at compares ⊢ <;> linarith

/-- An ordering of two rationals is the ordering of their places on the extended line. -/
theorem Ordering.Compares.coe {a b : ℚ} (compares : o.Compares a b) :
    o.Compares ((a : WithTop ℚ) : WithBot (WithTop ℚ)) ((b : WithTop ℚ) : WithBot (WithTop ℚ)) := by
  cases o <;> simpa [Ordering.Compares] using compares

end Compares

namespace Dyadic

variable {m m' : Nat} {q q' : Int}

/-- The model compares canonical magnitudes by exponent first and mantissa second, which is the
order of their values. -/
theorem compares_then (canonical : Canonical ⟨false, m, q⟩) (canonical' : Canonical ⟨false, m', q'⟩) :
    ((compare q q').then (compare m m')).Compares ((m : ℚ) * 2 ^ q) (m' * 2 ^ q') := by
  rcases lt_trichotomy q q' with lower | rfl | higher
  · rw [Int.compare_eq_lt.2 lower, Ordering.lt_then]
    exact value_lt_of_exponent_lt canonical canonical' lower
  · rw [Int.compare_eq_eq.2 rfl, Ordering.eq_then]
    rcases lt_trichotomy m m' with less | rfl | more
    · rw [Nat.compare_eq_lt.2 less]
      show (m : ℚ) * 2 ^ q < m' * 2 ^ q
      gcongr
    · rw [Nat.compare_eq_eq.2 rfl]
      rfl
    · rw [Nat.compare_eq_gt.2 more]
      show (m' : ℚ) * 2 ^ q < m * 2 ^ q
      gcongr
  · rw [Int.compare_eq_gt.2 higher, Ordering.gt_then]
    exact value_lt_of_exponent_lt canonical' canonical higher

theorem value_zero (negative : Bool) (q : Int) : value ⟨negative, 0, q⟩ = 0 := by
  simp [value]

theorem value_positive (m : Nat) (q : Int) : value ⟨false, m, q⟩ = m * 2 ^ q := by
  simp [value]

theorem value_negative (m : Nat) (q : Int) : value ⟨true, m, q⟩ = -(m * 2 ^ q) := by
  simp [value]

end Dyadic

namespace FloatShape

theorem unpacked_zero (negative : Bool) (q : Int) :
    (FloatShape.finite ⟨negative, 0, q⟩).unpacked = .zero (signOf negative) := by
  simp [unpacked]

theorem unpacked_nonzero {negative : Bool} {m : Nat} (q : Int) (positive : 0 < m) :
    (FloatShape.finite ⟨negative, m, q⟩).unpacked = .finite (signOf negative) m q positive := by
  simp [unpacked, positive.ne']

/-- The model compares two canonical finite shapes as their values: a zero of either sign at
zero, a nonzero one by sign and then magnitude. -/
theorem compares_finite {d d' : Dyadic} (canonical : d.Canonical) (canonical' : d'.Canonical) :
    ∃ o, (FloatShape.finite d).unpacked.compare (FloatShape.finite d').unpacked = some o ∧
      o.Compares d.value d'.value := by
  obtain ⟨negative, m, q⟩ := d
  obtain ⟨negative', m', q'⟩ := d'
  have magnitudes := Dyadic.compares_then canonical.unsigned canonical'.unsigned
  rcases Nat.eq_zero_or_pos m with rfl | positive <;> rcases Nat.eq_zero_or_pos m' with rfl | positive'
  · -- two zeros are equal, whatever their signs
    rw [unpacked_zero, unpacked_zero, Dyadic.value_zero, Dyadic.value_zero]
    exact ⟨.eq, by cases negative <;> cases negative' <;> rfl, rfl⟩
  · have size : (0 : ℚ) < m' * 2 ^ q' := by positivity
    rw [unpacked_zero, unpacked_nonzero q' positive', Dyadic.value_zero]
    cases negative <;> cases negative'
    all_goals
      simp only [signOf, Bool.false_eq_true, if_true, if_false, UnpackedFloat.compare, Option.some.injEq,
        exists_eq_left', Dyadic.value_positive, Dyadic.value_negative, Ordering.Compares]
      linarith
  · have size : (0 : ℚ) < m * 2 ^ q := by positivity
    rw [unpacked_nonzero q positive, unpacked_zero, Dyadic.value_zero]
    cases negative <;> cases negative'
    all_goals
      simp only [signOf, Bool.false_eq_true, if_true, if_false, UnpackedFloat.compare, Option.some.injEq,
        exists_eq_left', Dyadic.value_positive, Dyadic.value_negative, Ordering.Compares]
      linarith
  · have size : (0 : ℚ) < m * 2 ^ q := by positivity
    have size' : (0 : ℚ) < m' * 2 ^ q' := by positivity
    rw [unpacked_nonzero q positive, unpacked_nonzero q' positive']
    cases negative <;> cases negative'
    · -- two positive doubles: by magnitude
      simpa [signOf, UnpackedFloat.compare, Dyadic.value_positive] using magnitudes
    · simp only [signOf, Bool.false_eq_true, if_true, if_false, UnpackedFloat.compare, Option.some.injEq,
        exists_eq_left', Dyadic.value_positive, Dyadic.value_negative, Ordering.Compares]
      linarith
    · simp only [signOf, Bool.false_eq_true, if_true, if_false, UnpackedFloat.compare, Option.some.injEq,
        exists_eq_left', Dyadic.value_positive, Dyadic.value_negative, Ordering.Compares]
      linarith
    · -- two negative doubles: by magnitude, turned around
      simpa [signOf, UnpackedFloat.compare, Dyadic.value_negative] using Ordering.Compares.neg_swap magnitudes

end FloatShape

variable {x y : Float}

/-- Two doubles that are not NaN compare, in the logical model, as their positions. -/
theorem compares_position (numberX : FloatShape.of x ≠ .nan) (numberY : FloatShape.of y ≠ .nan) :
    ∃ o, x.toModel.unpack.compare y.toModel.unpack = some o ∧
      o.Compares (FloatShape.of x).position (FloatShape.of y).position := by
  rw [← FloatShape.unpacked_of x, ← FloatShape.unpacked_of y]
  cases shapeX : FloatShape.of x with
  | nan => exact absurd shapeX numberX
  | finite d =>
      cases shapeY : FloatShape.of y with
      | nan => exact absurd shapeY numberY
      | finite d' =>
          obtain ⟨o, compared, compares⟩ := FloatShape.compares_finite (FloatShape.of_eq_finite shapeX).1
            (FloatShape.of_eq_finite shapeY).1
          exact ⟨o, compared, Ordering.Compares.coe compares⟩
      | infinite negative' =>
          obtain ⟨negative, m, q⟩ := d
          rcases Nat.eq_zero_or_pos m with rfl | positive
          · rw [FloatShape.unpacked_zero]
            cases negative <;> cases negative' <;> simp [FloatShape.unpacked, FloatShape.signOf,
              UnpackedFloat.compare, FloatShape.position, Ordering.Compares, FloatShape.value_lt_top]
          · rw [FloatShape.unpacked_nonzero q positive]
            cases negative <;> cases negative' <;> simp [FloatShape.unpacked, FloatShape.signOf,
              UnpackedFloat.compare, FloatShape.position, Ordering.Compares, FloatShape.value_lt_top]
  | infinite negative =>
      cases shapeY : FloatShape.of y with
      | nan => exact absurd shapeY numberY
      | finite d' =>
          obtain ⟨negative', m', q'⟩ := d'
          rcases Nat.eq_zero_or_pos m' with rfl | positive'
          · rw [FloatShape.unpacked_zero]
            cases negative <;> cases negative' <;> simp [FloatShape.unpacked, FloatShape.signOf,
              UnpackedFloat.compare, FloatShape.position, Ordering.Compares, FloatShape.value_lt_top]
          · rw [FloatShape.unpacked_nonzero q' positive']
            cases negative <;> cases negative' <;> simp [FloatShape.unpacked, FloatShape.signOf,
              UnpackedFloat.compare, FloatShape.position, Ordering.Compares, FloatShape.value_lt_top]
      | infinite negative' =>
          cases negative <;> cases negative' <;> simp [FloatShape.unpacked, FloatShape.signOf,
            UnpackedFloat.compare, FloatShape.position, Ordering.Compares, compare]

/-- Of two doubles that are not NaN, one is below the other exactly when its position is. -/
theorem lt_iff_position_lt (numberX : FloatShape.of x ≠ .nan) (numberY : FloatShape.of y ≠ .nan) :
    x < y ↔ (FloatShape.of x).position < (FloatShape.of y).position := by
  obtain ⟨o, compared, compares⟩ := compares_position numberX numberY
  rw [lt_iff_unpack_lt, UnpackedFloat.lt, compared, ← compares.eq_lt]
  simp

/-- Of two doubles that are not NaN, one is at most the other exactly when its position is. -/
theorem le_iff_position_le (numberX : FloatShape.of x ≠ .nan) (numberY : FloatShape.of y ≠ .nan) :
    x ≤ y ↔ (FloatShape.of x).position ≤ (FloatShape.of y).position := by
  obtain ⟨o, compared, compares⟩ := compares_position numberX numberY
  rw [le_iff_unpack_le, UnpackedFloat.le, compared, Option.any_some]
  cases o <;> simp only [Ordering.Compares] at compares <;> simp [compares, compares.le]

/-- Two doubles that are not NaN are equal as doubles exactly when their positions are: the
two zeros are equal. -/
theorem beq_iff_position_eq (numberX : FloatShape.of x ≠ .nan) (numberY : FloatShape.of y ≠ .nan) :
    (x == y) = true ↔ (FloatShape.of x).position = (FloatShape.of y).position := by
  obtain ⟨o, compared, compares⟩ := compares_position numberX numberY
  change x.toModel.unpack.beq y.toModel.unpack = true ↔ _
  rw [UnpackedFloat.beq, compared, ← compares.eq_eq]
  simp

end LoadHarness
