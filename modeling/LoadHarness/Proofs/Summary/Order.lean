import Mathlib
import LoadHarness.Proofs.Summary
import LoadHarness.Proofs.Sorting.Stable
import LoadHarness.Proofs.Value.Order

/-!
# Summaries read the latencies in sorted order

The summary sorts its latencies with `less`.  On latencies that are numbers other than NaN, that
sort is the stable sort by position (`sortBy_latencies`): the summary reads the latencies in
order of their values, and those of one value in the order they came in.  So when no two
different latencies share a value, the order they came in is lost, and every reordering has the
same summary (`summarizeLatencies_perm`).  Only latencies of one value that are not the same
datum, such as `0.0` and `-0.0`, or `1` and `1.0`, let the order show through.
-/

namespace LoadHarness

open Sorting

/-- Latencies that are numbers other than NaN sort to their stable sort by position. -/
theorem sortBy_latencies {latencies : List Value} (numbers : ∀ a ∈ latencies, a.OrderedNumber) :
    sortBy Value.less latencies = .ok (latencies.mergeSort (byKey Value.position)) :=
  sortBy_eq_mergeSort latencies (Value.ordersBy_position numbers)

/-- When no two different latencies share a value, the summary does not depend on the order the
latencies came in. -/
theorem summarizeLatencies_perm {latencies latencies' : List Value} (failures : Value)
    (numbers : ∀ a ∈ latencies, a.OrderedNumber)
    (distinct : ∀ a ∈ latencies, ∀ b ∈ latencies, a.position = b.position → a = b)
    (reordered : latencies.Perm latencies') :
    summarizeLatencies latencies' failures = summarizeLatencies latencies failures := by
  have numbers' : ∀ a ∈ latencies', a.OrderedNumber := fun a member =>
    numbers a (reordered.symm.subset member)
  unfold summarizeLatencies
  rw [sortBy_latencies numbers, sortBy_latencies numbers', mergeSort_eq_of_perm distinct reordered]

/-- Three latencies of three values, one of them a double, summarize alike in any order. -/
theorem summary_of_distinct_latencies_ignores_order :
    (∀ a ∈ [Value.int 3, .float 1.5, .int 2], a.OrderedNumber) ∧
      (∀ a ∈ [Value.int 3, .float 1.5, .int 2], ∀ b ∈ [Value.int 3, .float 1.5, .int 2],
        a.position = b.position → a = b) ∧
      [Value.int 3, .float 1.5, .int 2].Perm [.int 2, .int 3, .float 1.5] ∧
      summarizeLatencies [.int 2, .int 3, .float 1.5] (.int 0) =
        summarizeLatencies [.int 3, .float 1.5, .int 2] (.int 0) := by
  have shape : FloatShape.of 1.5 = .finite ⟨false, 6755399441055744, -52⟩ := by rfl
  have half : (Value.float 1.5).position = (((3 / 2 : ℚ) : WithTop ℚ) : WithBot (WithTop ℚ)) := by
    rw [Value.position_float, shape]
    norm_num [FloatShape.position, Dyadic.value]
  have numbers : ∀ a ∈ [Value.int 3, .float 1.5, .int 2], a.OrderedNumber := by
    intro a member
    simp only [List.mem_cons, List.not_mem_nil, or_false] at member
    rcases member with rfl | rfl | rfl
    · exact Value.orderedNumber_int 3
    · exact Value.orderedNumber_float (by decide +kernel)
    · exact Value.orderedNumber_int 2
  have distinct : ∀ a ∈ [Value.int 3, .float 1.5, .int 2], ∀ b ∈ [Value.int 3, .float 1.5, .int 2],
      a.position = b.position → a = b := by
    intro a memberA b memberB
    simp only [List.mem_cons, List.not_mem_nil, or_false] at memberA memberB
    rcases memberA with rfl | rfl | rfl <;> rcases memberB with rfl | rfl | rfl <;> norm_num [half]
  have reordered : List.Perm ([Value.int 3, .float 1.5] ++ [.int 2]) ([.int 2] ++ [.int 3, .float 1.5]) :=
    List.perm_append_comm
  exact ⟨numbers, distinct, reordered, summarizeLatencies_perm (.int 0) numbers distinct reordered⟩

end LoadHarness
