import Mathlib
import LoadHarness.Value.Compare
import LoadHarness.Proofs.Float.Order
import LoadHarness.Proofs.Sorting.Gallop

/-!
# Numbers in the order of the extended line

Integers, truth values and doubles that are not NaN stand at points of the rationals extended
by two ends (`Number.position`, `Value.position`).  Comparing two such numbers compares those
points (`Number.order_compares`): integers exactly, an integer with a double by the exact value
of the double (`Dyadic.ratio_value`), two doubles as the logical model of doubles does.  So
`Value.less` on such data is `<` of their positions (`Value.less_eq`), and the sort sees a list
of them as ordered by that key (`Value.ordersBy_position`).
-/

namespace LoadHarness

namespace Dyadic

theorem ratio_den_pos (d : Dyadic) : 0 < d.ratio.2 := by
  unfold ratio pow2
  split <;> simp

/-- The numerator and denominator of a finite double are a fraction of its exact value. -/
theorem ratio_value (d : Dyadic) : (d.ratio.1 : ℚ) / d.ratio.2 = d.value := by
  obtain ⟨negative, m, q⟩ := d
  unfold ratio value pow2
  by_cases up : q ≥ 0
  · have power : (2 : ℚ) ^ q = 2 ^ q.toNat := by
      rw [← zpow_natCast, Int.toNat_of_nonneg up]
    cases negative <;> simp [up, power]
  · have power : (2 : ℚ) ^ q = (2 ^ (-q).toNat)⁻¹ := by
      rw [← zpow_natCast, Int.toNat_of_nonneg (by omega), zpow_neg, inv_inv]
    cases negative <;> simp [up, power, div_eq_mul_inv]

end Dyadic

namespace Number

/-- Where a number stands on the extended line; a NaN is put at the bottom. -/
def position : Number → WithBot (WithTop ℚ)
  | .whole value => (((value : ℚ) : WithTop ℚ) : WithBot (WithTop ℚ))
  | .double value => (FloatShape.of value).position

/-- A number that is not NaN. -/
def Ordered : Number → Prop
  | .whole _ => True
  | .double value => FloatShape.of value ≠ .nan

section Compares

variable {o : Ordering}

theorem compares_intCast {a b : Int} (compares : o.Compares a b) : o.Compares (a : ℚ) b := by
  cases o <;> simpa [Ordering.Compares] using compares

/-- An integer and a finite double compare as the integer and the exact value of the double. -/
theorem compares_compareIntDyadic (a : Int) (d : Dyadic) :
    (Binary.compareIntDyadic a d).Compares (a : ℚ) d.value := by
  have positive : (0 : ℚ) < d.ratio.2 := by exact_mod_cast d.ratio_den_pos
  rw [← d.ratio_value]
  -- the comparison cross-multiplies by the denominator, which is positive
  have crossed : (Binary.compareIntDyadic a d).Compares ((a : ℚ) * d.ratio.2) d.ratio.1 := by
    have compared := compares_intCast ((compare_iff (a * d.ratio.2) d.ratio.1).1 rfl)
    simpa [Binary.compareIntDyadic] using compared
  cases h : Binary.compareIntDyadic a d <;> rw [h] at crossed <;> simp only [Ordering.Compares] at crossed ⊢
  · exact (lt_div_iff₀ positive).2 crossed
  · exact (eq_div_iff positive.ne').2 crossed
  · exact (div_lt_iff₀ positive).2 crossed

end Compares

/-- Two numbers that are not NaN compare as their positions. -/
theorem order_compares {a b : Number} (orderedA : a.Ordered) (orderedB : b.Ordered) :
    ∃ o, a.order b = some o ∧ o.Compares a.position b.position := by
  cases a with
  | whole a =>
      cases b with
      | whole b =>
          refine ⟨compare a b, rfl, Ordering.Compares.coe (compares_intCast ((compare_iff a b).1 rfl))⟩
      | double y =>
          simp only [order, Binary.compareIntFloat, position]
          cases shape : FloatShape.of y with
          | finite d => exact ⟨_, rfl, Ordering.Compares.coe (compares_compareIntDyadic a d)⟩
          | infinite negative =>
              cases negative <;> simp [FloatShape.position, Ordering.Compares, FloatShape.value_lt_top]
          | nan => exact absurd shape orderedB
  | double x =>
      cases b with
      | whole b =>
          simp only [order, Binary.compareIntFloat, position]
          cases shape : FloatShape.of x with
          | finite d =>
              refine ⟨_, rfl, ?_⟩
              exact Ordering.compares_swap.2 (Ordering.Compares.coe (compares_compareIntDyadic b d))
          | infinite negative =>
              cases negative <;> simp [FloatShape.position, Ordering.Compares, FloatShape.value_lt_top]
          | nan => exact absurd shape orderedA
      | double y =>
          -- the order tests `<` both ways, then `==`, each of which reads the positions
          have less := lt_iff_position_lt orderedA orderedB
          have greater := lt_iff_position_lt orderedB orderedA
          have same := beq_iff_position_eq orderedA orderedB
          simp only [order, position]
          rcases lt_trichotomy (FloatShape.of x).position (FloatShape.of y).position with below | equal | above
          · exact ⟨.lt, by simp [less.2 below], below⟩
          · exact ⟨.eq, by simp [less, greater, same, equal], equal⟩
          · exact ⟨.gt, by simp [less, greater.2 above, not_lt.2 above.le], above⟩

end Number

namespace Value

/-- Where a datum stands on the extended line as a number; one that is no number, or a NaN, is
put at the bottom. -/
def position (value : Value) : WithBot (WithTop ℚ) :=
  match value.number? with
  | some number => number.position
  | none => ⊥

/-- A datum that orders as a number: a truth value, an integer, or a double that is not NaN. -/
def OrderedNumber (value : Value) : Prop :=
  ∃ number, value.number? = some number ∧ number.Ordered

theorem position_of_number {value : Value} {number : Number} (read : value.number? = some number) :
    value.position = number.position := by
  simp [position, read]

@[simp] theorem position_int (n : Int) : (Value.int n).position = (((n : ℚ) : WithTop ℚ) : WithBot (WithTop ℚ)) :=
  rfl

@[simp] theorem position_float (x : Float) : (Value.float x).position = (FloatShape.of x).position :=
  rfl

theorem orderedNumber_int (n : Int) : (Value.int n).OrderedNumber :=
  ⟨.whole n, rfl, trivial⟩

/-- A double that is not NaN orders as a number. -/
theorem orderedNumber_float {x : Float} (number : Binary.isNan x = false) : (Value.float x).OrderedNumber := by
  refine ⟨.double x, rfl, fun nan => ?_⟩
  simp [Binary.isNan, nan] at number

/-- Two data read as numbers are related as their numbers are ordered. -/
theorem relate_of_order (relation : Relation) {a b : Value} {x y : Number} (readA : a.number? = some x)
    (readB : b.number? = some y) {o : Ordering} (ordered : x.order y = some o) :
    relate relation a b = .ok (relation.holds o) := by
  rw [relate.eq_3 _ _ _ (fun _ _ text _ => by simp [text, number?] at readA)
    (fun _ _ items _ => by simp [items, number?] at readA), readA, readB]
  simp only [ordered]

/-- One number is below another exactly when its position is. -/
theorem less_eq {a b : Value} (numberA : a.OrderedNumber) (numberB : b.OrderedNumber) :
    less a b = .ok (decide (a.position < b.position)) := by
  obtain ⟨x, readA, orderedX⟩ := numberA
  obtain ⟨y, readB, orderedY⟩ := numberB
  obtain ⟨o, ordered, compares⟩ := Number.order_compares orderedX orderedY
  rw [less, relate_of_order .less readA readB ordered, position_of_number readA, position_of_number readB]
  congr 1
  rw [Bool.eq_iff_iff, decide_eq_true_iff, ← compares.eq_lt]
  cases o <;> simp [Relation.holds]

/-- On a pool of numbers that are not NaN, `less` compares by position without failing. -/
theorem ordersBy_position {pool : Value → Prop} (numbers : ∀ a, pool a → a.OrderedNumber) :
    Sorting.OrdersBy less position pool :=
  fun a inA b inB => less_eq (numbers a inA) (numbers b inB)

end Value

end LoadHarness
