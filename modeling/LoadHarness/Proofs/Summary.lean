import Mathlib
import LoadHarness.Measure.Recorder
import LoadHarness.Proofs.Sorting
namespace LoadHarness

section Except

variable {ε ε' α β : Type}

/-- A bind fails with `e` only if its first step does, or the rest does on its result. -/
theorem bind_ne_error {x : Except ε α} {f : α → Except ε β} {e : ε} (first : x ≠ .error e)
    (rest : ∀ a, x = .ok a → f a ≠ .error e) : (x >>= f) ≠ .error e := by
  cases x with
  | error e' =>
      intro failed
      cases failed
      exact first rfl
  | ok a => exact rest a rfl

theorem mapError_eq_ok {x : Except ε α} {g : ε → ε'} {a : α} (mapped : x.mapError g = .ok a) :
    x = .ok a := by
  cases x with
  | error e' => cases mapped
  | ok a' => exact Except.ok.inj mapped ▸ rfl

theorem mapError_ne_error {x : Except ε α} {g : ε → ε'} {e : ε'} (never : ∀ e', g e' ≠ e) :
    x.mapError g ≠ .error e := by
  cases x with
  | error e' => exact fun failed => never e' (Except.error.inj failed)
  | ok a => exact nofun

end Except

/-- Turning a rank into a position fails only on an infinite or NaN product. -/
theorem rankIndex_ne_noSamples (rank : Number) (count : Nat) : rankIndex rank count ≠ .error .noSamples := by
  unfold rankIndex
  split
  · exact nofun
  · split <;> exact nofun

theorem sequenceItem_arr {items : List Value} {position : Nat} (inside : position < items.length) :
    sequenceItem (.arr items) position = .ok items[position] := by
  simp [sequenceItem, inside]

/-- A percentile of a nonempty list never lacks samples: its position is capped at the last item. -/
theorem percentile_ne_noSamples {ordered : List Value} (nonempty : ordered ≠ []) (rank : Value) :
    percentile (.arr ordered) rank ≠ .error .noSamples := by
  have counted : 0 < ordered.length := List.length_pos_iff.2 nonempty
  unfold percentile
  refine bind_ne_error nofun fun count length => ?_
  obtain rfl : count = ordered.length := (Except.ok.inj length).symm
  dsimp only
  rw [if_neg (by simpa using counted.ne')]
  refine bind_ne_error (mapError_ne_error nofun) fun atLeastZero _ => ?_
  split
  · exact nofun
  refine bind_ne_error (mapError_ne_error nofun) fun belowOne _ => ?_
  split
  · exact nofun
  split
  · exact nofun
  refine bind_ne_error (rankIndex_ne_noSamples _ _) fun index _ => ?_
  rw [sequenceItem_arr (by omega)]
  exact nofun

theorem summarizeLatencies_ne_noSamples {latencies : List Value} (nonempty : latencies ≠ [])
    (failures : Value) : summarizeLatencies latencies failures ≠ .error .noSamples := by
  unfold summarizeLatencies
  refine bind_ne_error (mapError_ne_error nofun) fun ordered sorted => ?_
  have filled : ordered ≠ [] := Sorting.sortBy_ne_nil _ nonempty (mapError_eq_ok sorted)
  dsimp only
  rw [if_neg (by simpa using filled)]
  refine bind_ne_error (percentile_ne_noSamples filled _) fun p50 _ => ?_
  refine bind_ne_error (percentile_ne_noSamples filled _) fun p90 _ => ?_
  refine bind_ne_error (percentile_ne_noSamples filled _) fun p99 _ => ?_
  refine bind_ne_error (mapError_ne_error nofun) fun total _ => ?_
  refine bind_ne_error (mapError_ne_error nofun) fun mean _ => ?_
  exact mapError_ne_error nofun

theorem summarize_eq_noSamples_iff {samples : List Sample} :
    summarize samples = .error .noSamples ↔ samples = [] := by
  constructor
  · intro failed
    by_contra nonempty
    exact summarizeLatencies_ne_noSamples (by simpa using nonempty) _ failed
  · rintro rfl
    rfl

/-- A recorder reports none exactly when it holds no sample, otherwise the summary of its samples. -/
theorem Recorder.report_eq (samples : List Sample) :
    (Recorder.mk samples.toArray).report =
      if samples = [] then .ok none else (summarize samples).map some := by
  unfold Recorder.report Recorder.samples
  rw [List.toList_toArray]
  split_ifs with empty
  · rw [summarize_eq_noSamples_iff.2 empty]
  · have other : summarize samples ≠ .error .noSamples := fun failed => empty (summarize_eq_noSamples_iff.1 failed)
    -- the match of the report reads the summary back, unless it failed for want of samples
    split
    · rename_i report summarized
      rw [summarized]
      rfl
    · rename_i summarized
      exact absurd summarized other
    · rename_i failure _ summarized
      rw [summarized]
      rfl

/-- The sort keeps latencies that compare equal in the order they came in, and `0.0` and `-0.0`
compare equal: the same two latencies recorded the other way round give percentiles of the other
sign, and other printed lines. -/
theorem summary_depends_on_order_of_signed_zeros :
    [Value.float 0.0, .float (-0.0)].Perm [.float (-0.0), .float 0.0] ∧
    Report.lines (summarizeLatencies [.float 0.0, .float (-0.0)] (.int 0)).toOption =
      ["Completed 2 orders", "Failures 0", "p50 latency ms: -0.00", "p90 latency ms: -0.00",
        "p99 latency ms: -0.00"] ∧
    Report.lines (summarizeLatencies [.float (-0.0), .float 0.0] (.int 0)).toOption =
      ["Completed 2 orders", "Failures 0", "p50 latency ms: 0.00", "p90 latency ms: 0.00",
        "p99 latency ms: 0.00"] := by
  refine ⟨.swap _ _ [], ?_, ?_⟩
  · rw [summarizeLatencies, Sorting.sortBy_pair rfl]
    decide +kernel
  · rw [summarizeLatencies, Sorting.sortBy_pair rfl]
    decide +kernel

/-- The mean is the running sum of the sorted latencies divided by their count, both in doubles:
three latencies of `0.1` sum to `0.30000000000000004`, and the mean lies above the largest
latency. -/
theorem mean_exceeds_maximum_of_equal_latencies :
    (summarizeLatencies [.float 0.1, .float 0.1, .float 0.1] (.int 0)).toOption.map
        (fun report => (report.minimum, report.maximum, report.mean)) =
      some (0.1, 0.1, 0.10000000000000002) ∧
      (0.1 : Float) < 0.10000000000000002 := by
  decide +kernel

end LoadHarness
