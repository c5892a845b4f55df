import Mathlib
import LoadHarness.Proofs.Summary.Order
import LoadHarness.Proofs.Float.Signed
import LoadHarness.Proofs.Order.RoundTrip

/-!
# The percentiles of a summary are in order

`summarizeLatencies` sorts the latencies, takes the items at the indices of the ranks `0.5`,
`0.9` and `0.99`, and reads the first item, those three and the last as doubles.  On latencies
that are numbers other than NaN, each of these steps keeps order:

* the sort puts the latencies in order of position (`sortBy_latencies`);
* a smaller rank gives an index not above a larger one (`rankIndex_le`): the products of the
  ranks with the count are rounded to nearest, which keeps order however large the count is
  (`isNearest_mul_of_finite`), and the floor keeps it too;
* reading a number as a double rounds it to nearest, which keeps order again (`Lax.float_le`).

So the minimum, the three percentiles and the maximum of a report come out in order
(`summarizeLatencies_percentiles_ordered`).  The mean is not among them: it is a running sum of
doubles divided by the count, and its rounding can put it above the maximum.
-/

namespace LoadHarness

open Sorting

/-! ### Numbers read as doubles -/

namespace Lax

/-- Read as a double, a number other than NaN stands where rounding puts its position: a double
as itself, an integer at its rounding, a truth value at one or zero. -/
theorem float_roundsAt {v : Value} (number : v.OrderedNumber) {x : Float} (read : float v = .ok x) :
    RoundsAt x v.position := by
  obtain ⟨n, numbered, ordered⟩ := number
  cases v with
  | bool truth =>
      simp only [float, Except.ok.injEq] at read
      subst read
      cases truth
      · have zero : FloatShape.of 0.0 = .finite ⟨false, 0, -1074⟩ := rfl
        have rounds := RoundsAt.finite zero (show Dyadic.Rounds ⟨false, 0, -1074⟩ 0 by simp [Dyadic.Rounds])
        simpa [Value.position, Value.number?, Number.position] using rounds
      · have one : FloatShape.of 1.0 = .finite ⟨false, 2 ^ 52, -52⟩ := rfl
        have value : Dyadic.value ⟨false, 2 ^ 52, -52⟩ = 1 := by norm_num [Dyadic.value]
        have rounds := RoundsAt.finite one (Dyadic.rounds_value (FloatShape.of_eq_finite one).1)
        rw [value] at rounds
        simpa [Value.position, Value.number?, Number.position] using rounds
  | int k =>
      simp only [float] at read
      split at read
      · cases read
      · rename_i finite
        cases read
        obtain ⟨d, shape, rounds⟩ := Binary.ofInt_rounds k (by simpa using finite)
        simpa using RoundsAt.finite shape rounds
  | float y =>
      simp only [float, Except.ok.injEq] at read
      subst read
      simp only [Value.number?, Option.some.injEq] at numbered
      subst numbered
      rw [Value.position_float]
      cases shape : FloatShape.of y with
      | finite d =>
          have rounds := RoundsAt.finite shape (Dyadic.rounds_value (FloatShape.of_eq_finite shape).1)
          simpa [FloatShape.position] using rounds
      | infinite negative =>
          cases negative
          · exact .top shape
          · exact .bottom shape
      | nan => exact absurd shape ordered
  | null => cases numbered
  | str _ => cases numbered
  | arr _ => cases numbered
  | obj _ => cases numbered

/-- Reading numbers other than NaN as doubles keeps their order. -/
theorem float_le {a b : Value} (numberA : a.OrderedNumber) (numberB : b.OrderedNumber)
    (le : a.position ≤ b.position) {x y : Float} (readA : float a = .ok x) (readB : float b = .ok y) :
    x ≤ y := by
  have roundsA := float_roundsAt numberA readA
  have roundsB := float_roundsAt numberB readB
  exact (le_iff_position_le roundsA.ne_nan roundsB.ne_nan).2 (roundsA.position_le roundsB le)

end Lax

/-! ### Ranks and indices -/

/-- The floor of a finite double is the floor of its exact value. -/
theorem Binary.floorOf_eq_floor (d : Dyadic) : Binary.floorOf d = ⌊d.value⌋ := by
  rw [← d.ratio_value, Rat.floor_intCast_div_natCast]
  rfl

/-- An index from a double rank is the floor of the product of the rank with the count, a
product that is finite. -/
theorem rankIndex_double {rank : Float} {count : Nat} {index : Int}
    (ranked : rankIndex (.double rank) count = .ok index) :
    ∃ d, FloatShape.of (rank * Binary.ofInt count) = .finite d ∧ index = Binary.floorOf d := by
  simp only [rankIndex] at ranked
  split at ranked
  · rename_i d product
    exact ⟨d, product, (Except.ok.inj ranked).symm⟩
  · cases ranked
  · cases ranked

/-- A positive count that converts to a finite double converts to a positive one, of value at
least one: one is itself a double, and rounding keeps order. -/
theorem count_shape {count : Nat} (counted : 0 < count)
    (finite : Binary.isInfinite (Binary.ofInt count) = false) :
    ∃ m e, 0 < m ∧ FloatShape.of (Binary.ofInt count) = .finite ⟨false, m, e⟩ ∧ (1 : ℚ) ≤ m * 2 ^ e := by
  obtain ⟨d, shape, rounds⟩ := Binary.ofInt_rounds count finite
  have atLeast := rounds.natCast_le (FloatShape.of_eq_finite shape).1 (k := 1) (by norm_num)
    (by exact_mod_cast counted)
  obtain ⟨negative, m, e⟩ := d
  have positive : (0 : ℚ) < count := by exact_mod_cast counted
  simp only [Dyadic.Rounds, Int.cast_natCast, positive.ne', if_false, decide_eq_false (not_lt.2 positive.le),
    abs_of_pos positive] at rounds
  obtain ⟨rfl, mantissaPos, -⟩ := rounds
  refine ⟨m, e, mantissaPos, shape, ?_⟩
  simpa [Dyadic.value_positive] using atLeast

/-- Of two positive ranks, the smaller gives an index not above the larger's: the products with
the count are rounded to nearest, which keeps their order, and so does the floor. -/
theorem rankIndex_le {rank rank' : Float} {m m' : Nat} {e e' : Int}
    (shape : FloatShape.of rank = .finite ⟨false, m, e⟩) (shape' : FloatShape.of rank' = .finite ⟨false, m', e'⟩)
    (positive : 0 < m) (le : (m : ℚ) * 2 ^ e ≤ m' * 2 ^ e') {count : Nat} (counted : 0 < count)
    {index index' : Int} (ranked : rankIndex (.double rank) count = .ok index)
    (ranked' : rankIndex (.double rank') count = .ok index') : index ≤ index' := by
  obtain ⟨d, product, rfl⟩ := rankIndex_double ranked
  obtain ⟨d', product', rfl⟩ := rankIndex_double ranked'
  -- the count is finite: a positive rank times an infinity is infinite
  have finite : Binary.isInfinite (Binary.ofInt count) = false := by
    unfold Binary.isInfinite
    split
    · rename_i negative infinite
      rw [mul_infinite shape positive infinite] at product
      cases product
    · rfl
  obtain ⟨mc, ec, countPos, countShape, atLeastOne⟩ := count_shape counted finite
  have size : (0 : ℚ) < m * 2 ^ e := by positivity
  have positive' : 0 < m' := Nat.pos_of_ne_zero fun zero => by
    rw [zero, Nat.cast_zero, zero_mul] at le
    linarith
  -- the exact products reach the least positive double: the rank does, and the count is at least one
  have low : (2 : ℚ) ^ (-1074 : Int) ≤ m * 2 ^ e * (mc * 2 ^ ec) :=
    calc (2 : ℚ) ^ (-1074 : Int) ≤ m * 2 ^ e := Dyadic.least_le_value (FloatShape.of_eq_finite shape).1 positive
      _ ≤ m * 2 ^ e * (mc * 2 ^ ec) := le_mul_of_one_le_right size.le atLeastOne
  have exact : (m : ℚ) * 2 ^ e * (mc * 2 ^ ec) ≤ m' * 2 ^ e' * (mc * 2 ^ ec) :=
    mul_le_mul_of_nonneg_right le (by positivity)
  have nearest := isNearest_mul_of_finite shape countShape positive countPos low (by rw [product]; exact nofun)
  have nearest' := isNearest_mul_of_finite shape' countShape positive' countPos (low.trans exact)
    (by rw [product']; exact nofun)
  have ordered := nearest.le_of_le nearest' exact
  rw [le_iff_position_le (by rw [product]; exact nofun) (by rw [product']; exact nofun), product,
    product'] at ordered
  have values : d.value ≤ d'.value := by simpa [FloatShape.position] using ordered
  rw [Binary.floorOf_eq_floor, Binary.floorOf_eq_floor]
  exact Int.floor_le_floor values

/-! ### What a summary reads -/

/-- A percentile of a list at a double rank is the item at the index of that rank, capped at
the last one. -/
theorem percentile_item {items : List Value} {rank : Float} {item : Value}
    (read : percentile (.arr items) (.float rank) = .ok item) :
    ∃ index, rankIndex (.double rank) items.length = .ok index ∧
      ∃ inside : min index.toNat (items.length - 1) < items.length,
        items[min index.toNat (items.length - 1)] = item := by
  unfold percentile at read
  simp only [sequenceLength, bind, Except.bind, Value.number?] at read
  split at read
  · cases read
  rename_i nonempty
  have counted : 0 < items.length := by simpa [Nat.pos_iff_ne_zero] using nonempty
  -- past the checks of the rank, every path that does not throw reads the item at the capped index
  repeat' (split at read)
  all_goals try cases read
  all_goals
    rename_i index ranked
    have inside : min index.toNat (items.length - 1) < items.length := by omega
    rw [sequenceItem_arr inside] at read
    exact ⟨index, ranked, inside, Except.ok.inj read⟩

/-- A report validated from an object reads its percentiles and extremes from the fields of
those names, as doubles. -/
theorem Report.validate_reads {fields : List (String × Value)} {report : Report}
    (valid : Report.validate (.obj fields) = .ok report) :
    FieldRead.required (.obj fields) fields (.plain "p50") Lax.float = .ok report.p50 ∧
      FieldRead.required (.obj fields) fields (.plain "p90") Lax.float = .ok report.p90 ∧
      FieldRead.required (.obj fields) fields (.plain "p99") Lax.float = .ok report.p99 ∧
      FieldRead.required (.obj fields) fields (.plain "min") Lax.float = .ok report.minimum ∧
      FieldRead.required (.obj fields) fields (.plain "max") Lax.float = .ok report.maximum := by
  unfold Report.validate at valid
  simp only [objectFields, bind, Except.bind] at valid
  split at valid
  · rename_i count failures p50 p90 p99 low high mean countRead failuresRead p50Read p90Read p99Read
      lowRead highRead meanRead surplus
    cases valid
    exact ⟨p50Read, p90Read, p99Read, lowRead, highRead⟩
  · cases valid

/-- A required field found under its own name is read from the value stored there. -/
theorem FieldRead.required_found {α : Type} {fields : List (String × Value)} {name : String}
    {value : Value} {read : Value → Except Problem α} {result : α}
    (found : (FieldKey.plain name).find fields = some (name, value))
    (required : FieldRead.required (.obj fields) fields (.plain name) read = .ok result) :
    read value = .ok result := by
  obtain ⟨_, _, found', readOk⟩ := FieldRead.required_ok required
  rw [found, Option.some.injEq, Prod.mk.injEq] at found'
  obtain ⟨-, rfl⟩ := found'
  exact readOk

/-- A summary is made in steps: the sort, the three percentiles of the sorted list, and the
validation of the report built from them, its extremes the first and last sorted latency. -/
theorem summarizeLatencies_steps {latencies : List Value} {failures : Value} {report : Report}
    (summarized : summarizeLatencies latencies failures = .ok report) :
    ∃ ordered, sortBy Value.less latencies = .ok ordered ∧ ordered ≠ [] ∧
      ∃ p50 p90 p99 mean, percentile (.arr ordered) (.float 0.5) = .ok p50 ∧
        percentile (.arr ordered) (.float 0.9) = .ok p90 ∧
        percentile (.arr ordered) (.float 0.99) = .ok p99 ∧
        Report.validate (.obj [("count", .int ordered.length), ("failures", failures),
          ("min", ordered.head?.getD .null), ("max", ordered.getLast?.getD .null), ("mean", mean),
          ("p50", p50), ("p90", p90), ("p99", p99)]) = .ok report := by
  unfold summarizeLatencies at summarized
  obtain ⟨ordered, sorted, summarized⟩ := bind_eq_ok summarized
  dsimp only at summarized
  split at summarized
  · cases summarized
  rename_i nonempty
  obtain ⟨p50, p50Read, summarized⟩ := bind_eq_ok summarized
  obtain ⟨p90, p90Read, summarized⟩ := bind_eq_ok summarized
  obtain ⟨p99, p99Read, summarized⟩ := bind_eq_ok summarized
  obtain ⟨total, -, summarized⟩ := bind_eq_ok summarized
  obtain ⟨mean, -, summarized⟩ := bind_eq_ok summarized
  exact ⟨ordered, mapError_eq_ok sorted, by simpa using nonempty, p50, p90, p99, mean, p50Read, p90Read,
    p99Read, mapError_eq_ok summarized⟩

/-! ### The order of the report -/

/-- In a list sorted by a key, an item at a smaller index has a key not above. -/
theorem key_le_of_index_le {α β : Type} [Preorder β] {key : α → β} {items : List α}
    (sorted : items.Pairwise fun a b => key a ≤ key b) {i j : Nat} (le : i ≤ j) (inside : j < items.length) :
    key items[i] ≤ key items[j] := by
  rcases le.lt_or_eq with less | rfl
  · exact List.pairwise_iff_getElem.1 sorted i j (by omega) inside less
  · exact le_rfl

/-- A summary reads, as doubles, the first of the sorted latencies, the items at the indices of
the ranks `0.5`, `0.9` and `0.99`, which come in that order whatever the latencies, and the last.
-/
theorem summarizeLatencies_reads {latencies : List Value} {failures : Value} {report : Report}
    (summarized : summarizeLatencies latencies failures = .ok report) :
    ∃ ordered, sortBy Value.less latencies = .ok ordered ∧
      ∃ i50 i90 i99 : Nat, ∃ (_ : i50 ≤ i90) (_ : i90 ≤ i99) (_ : i99 < ordered.length),
        Lax.float ordered[0] = .ok report.minimum ∧ Lax.float ordered[i50] = .ok report.p50 ∧
        Lax.float ordered[i90] = .ok report.p90 ∧ Lax.float ordered[i99] = .ok report.p99 ∧
        Lax.float ordered[ordered.length - 1] = .ok report.maximum := by
  obtain ⟨ordered, sorted, nonempty, p50, p90, p99, mean, read50, read90, read99, valid⟩ :=
    summarizeLatencies_steps summarized
  have counted : 0 < ordered.length := List.length_pos_iff.2 nonempty
  -- the percentiles are items at indices in the order of their ranks
  obtain ⟨index50, ranked50, inside50, item50⟩ := percentile_item read50
  obtain ⟨index90, ranked90, inside90, item90⟩ := percentile_item read90
  obtain ⟨index99, ranked99, inside99, item99⟩ := percentile_item read99
  have shape50 : FloatShape.of 0.5 = .finite ⟨false, 4503599627370496, -53⟩ := rfl
  have shape90 : FloatShape.of 0.9 = .finite ⟨false, 8106479329266893, -53⟩ := rfl
  have shape99 : FloatShape.of 0.99 = .finite ⟨false, 8917127262193582, -53⟩ := rfl
  have le5090 := Int.toNat_le_toNat (rankIndex_le shape50 shape90 (by norm_num) (by norm_num) counted ranked50 ranked90)
  have le9099 := Int.toNat_le_toNat (rankIndex_le shape90 shape99 (by norm_num) (by norm_num) counted ranked90 ranked99)
  -- the report reads the first item, the three percentiles and the last item as doubles
  obtain ⟨field50, field90, field99, fieldLow, fieldHigh⟩ := Report.validate_reads valid
  have float50 : Lax.float p50 = .ok report.p50 :=
    FieldRead.required_found (by simp [FieldKey.find, FieldKey.plain, Value.lookup]) field50
  have float90 : Lax.float p90 = .ok report.p90 :=
    FieldRead.required_found (by simp [FieldKey.find, FieldKey.plain, Value.lookup]) field90
  have float99 : Lax.float p99 = .ok report.p99 :=
    FieldRead.required_found (by simp [FieldKey.find, FieldKey.plain, Value.lookup]) field99
  have floatLow : Lax.float (ordered.head?.getD .null) = .ok report.minimum :=
    FieldRead.required_found (by simp [FieldKey.find, FieldKey.plain, Value.lookup]) fieldLow
  have floatHigh : Lax.float (ordered.getLast?.getD .null) = .ok report.maximum :=
    FieldRead.required_found (by simp [FieldKey.find, FieldKey.plain, Value.lookup]) fieldHigh
  rw [List.head?_eq_getElem?, List.getElem?_eq_getElem counted] at floatLow
  rw [List.getLast?_eq_getElem?, List.getElem?_eq_getElem (by omega)] at floatHigh
  rw [← item50] at float50
  rw [← item90] at float90
  rw [← item99] at float99
  exact ⟨ordered, sorted, _, _, _, by omega, by omega, inside99, floatLow, float50, float90,
    float99, floatHigh⟩

/-- The minimum, the three percentiles and the maximum of a summary of latencies that are numbers
other than NaN are in order. -/
theorem summarizeLatencies_percentiles_ordered {latencies : List Value} {failures : Value}
    {report : Report} (numbers : ∀ a ∈ latencies, a.OrderedNumber)
    (summarized : summarizeLatencies latencies failures = .ok report) :
    report.minimum ≤ report.p50 ∧ report.p50 ≤ report.p90 ∧ report.p90 ≤ report.p99 ∧
      report.p99 ≤ report.maximum := by
  obtain ⟨ordered, sorted, i50, i90, i99, le5090, le9099, inside, floatLow, float50, float90, float99,
    floatHigh⟩ := summarizeLatencies_reads summarized
  -- the sorted latencies are in order of position, and reading them as doubles keeps that order
  rw [sortBy_latencies numbers, Except.ok.injEq] at sorted
  have inOrder : ordered.Pairwise fun a b => a.position ≤ b.position := sorted ▸ pairwise_mergeSort_byKey latencies
  have numbered : ∀ a ∈ ordered, a.OrderedNumber := fun a member =>
    numbers a (List.mem_mergeSort.1 (sorted ▸ member))
  have reads : ∀ {i j : Nat} {x y : Float} (iInside : i < ordered.length) (jInside : j < ordered.length),
      i ≤ j → Lax.float ordered[i] = .ok x → Lax.float ordered[j] = .ok y → x ≤ y :=
    fun iInside jInside le readI readJ => Lax.float_le (numbered _ (List.getElem_mem iInside))
      (numbered _ (List.getElem_mem jInside)) (key_le_of_index_le inOrder le jInside) readI readJ
  exact ⟨reads (by omega) (by omega) (Nat.zero_le _) floatLow float50,
    reads (by omega) (by omega) le5090 float50 float90, reads (by omega) inside le9099 float90 float99,
    reads inside (by omega) (by omega) float99 floatHigh⟩

/-- Latencies of every kind a number comes in, an integer below zero and a truth value among them,
summarize to a report whose percentiles are in order. -/
theorem summary_of_mixed_latencies_percentiles_ordered :
    (∀ a ∈ [Value.int 7, .float 2.5, .int (-1), .bool true], a.OrderedNumber) ∧
      ∃ report, summarizeLatencies [.int 7, .float 2.5, .int (-1), .bool true] (.int 0) = .ok report ∧
        report.minimum ≤ report.p50 ∧ report.p50 ≤ report.p90 ∧ report.p90 ≤ report.p99 ∧
          report.p99 ≤ report.maximum := by
  have numbers : ∀ a ∈ [Value.int 7, .float 2.5, .int (-1), .bool true], a.OrderedNumber := by
    intro a member
    simp only [List.mem_cons, List.not_mem_nil, or_false] at member
    rcases member with rfl | rfl | rfl | rfl
    · exact Value.orderedNumber_int 7
    · exact Value.orderedNumber_float (by decide +kernel)
    · exact Value.orderedNumber_int (-1)
    · exact ⟨.whole 1, rfl, trivial⟩
  have ok : (summarizeLatencies [.int 7, .float 2.5, .int (-1), .bool true] (.int 0)).toBool = true := by
    decide +kernel
  cases summarized : summarizeLatencies [.int 7, .float 2.5, .int (-1), .bool true] (.int 0) with
  | error failure =>
      rw [summarized] at ok
      cases ok
  | ok report => exact ⟨numbers, report, rfl, summarizeLatencies_percentiles_ordered numbers summarized⟩

end LoadHarness
