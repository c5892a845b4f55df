import LoadHarness.Proofs.ClosedLoop.Progress
import LoadHarness.Proofs.ClosedLoop.Calls
import LoadHarness.Proofs.Summary

/-!
# What a closed-loop run returns

The contracts of a closed loop of `c ≥ 1` slots, for every sequence of turns
(every order in which the target ends its calls, with samples, exceptions or
cancellations) and for `closedLoop` itself, whose target answers at once:
`slots_conserved` about its slots, `closed_loop_contract` about its calls,
keys, samples and report.  Below one slot, `closedLoop` refuses to run.
-/

namespace LoadHarness

open Closed

/-- A closed loop of `c ≥ 1` slots, in every state any sequence of turns
reaches: the free slots, the submissions in flight and a slot handed to the
waiting driver add up to `c`, since every completion callback frees exactly
one slot whatever its outcome; the submissions in flight are those whose
completion callback has not run, so at most `c` are outstanding.  A finished
run, and the run `closedLoop` returns, report `min n c` as the most
submissions ever outstanding. -/
theorem slots_conserved {c : Int} (atLeastOne : 1 ≤ c) (keyPrefix : Value) (source : OrderSource)
    (turns : List Turn) :
    let loop := (ClosedLoop.start (some c.toNat) keyPrefix source).replay turns
    slotLimit (.int c) = .ok (some c.toNat) ∧
      loop.free + loop.inFlight + (if loop.phase = .handed then 1 else 0) = c.toNat ∧
      loop.inFlight = (loop.submissions.countP fun submission => !submission.isSettled) ∧
      loop.inFlight ≤ loop.maxInFlight ∧ loop.maxInFlight ≤ c.toNat ∧
      (loop.phase = .finished → loop.result.maxInFlight = min source.orders.length c.toNat) ∧
      (source.breaksOff = false → ∀ respond, ∃ run, closedLoop (.int c) keyPrefix source respond = .ok run ∧
        run.maxInFlight = min source.orders.length c.toNat) := by
  intro loop
  have sound := (ClosedLoop.slots_sound_start c.toNat keyPrefix source).replay turns
  refine ⟨slotLimit_int_of_one_le atLeastOne, sound.conserved, sound.outstanding, sound.peak, sound.peakBound,
    sound.finished_peak, ?_⟩
  intro steady respond
  obtain ⟨run, ran⟩ := closedLoop_finishes atLeastOne keyPrefix source steady respond
  -- the run returned is the report of a finished sequence of turns
  obtain ⟨answered, finished, reported⟩ := closedLoop_ok_replay atLeastOne ran
  refine ⟨run, ran, ?_⟩
  rw [reported]
  exact ((ClosedLoop.slots_sound_start c.toNat keyPrefix source).replay answered).finished_peak finished

theorem slots_conserved_three_orders :
    (1 : Int) ≤ 2 ∧ ∃ run, closedLoop (.int 2) (.str "load") ⟨[default, default, default], false⟩
      (fun _ _ _ => default) = .ok run ∧ run.maxInFlight = 2 :=
  ⟨by decide, (slots_conserved (by decide) (.str "load") ⟨[default, default, default], false⟩ []).2.2.2.2.2.2
    rfl _⟩

/-- The report of samples, one per order: none exactly when there are no orders. -/
theorem report_of_length {run : ClosedRun} {n : Nat} (counted : run.samples.length = n) :
    run.report = if n = 0 then .ok none else (summarize run.samples).map some := by
  simp only [ClosedRun.report, Recorder.report_eq, ← counted, List.length_eq_zero_iff]

/-- What `closedLoop` returns with whole slots: the keys of its orders, their
clients in call order, and the samples the target answered its calls with. -/
theorem closedLoop_ok_run {c : Int} (atLeastOne : 1 ≤ c) {keyPrefix : Value} {source : OrderSource}
    {respond : Nat → Order → String → Sample} {run : ClosedRun}
    (ran : closedLoop (.int c) keyPrefix source respond = .ok run) :
    run.keys = (List.range source.orders.length).map (fun (i : Nat) => idempotencyKey keyPrefix (.int (i + 1))) ∧
      run.clients = source.orders.map Order.clientId ∧
      run.samples.Perm
        (source.orders.mapIdx fun i order => respond i order (idempotencyKey keyPrefix (.int (i + 1)))) := by
  obtain ⟨finished, reported⟩ := closedLoop_ok_answered atLeastOne ran
  obtain ⟨turns, same⟩ := ClosedLoop.runAnswered_replay respond (3 * source.orders.length + 1)
    (ClosedLoop.start (some c.toNat) keyPrefix source)
  have records := ClosedLoop.Records.runAnswered respond (3 * source.orders.length + 1)
    (ClosedLoop.records_start (some c.toNat) keyPrefix source)
  generalize ClosedLoop.runAnswered respond (3 * source.orders.length + 1)
    (ClosedLoop.start (some c.toNat) keyPrefix source) = loop at finished reported same records
  subst reported
  -- the run is also a sequence of turns, so its calls and slots are sound
  have prefixed : loop.keyPrefix = keyPrefix := by rw [same, ClosedLoop.replay_keyPrefix]; rfl
  have sound := (ClosedLoop.calls_sound_start (some c.toNat) keyPrefix source).replay turns
  have slots := (ClosedLoop.slots_sound_start c.toNat keyPrefix source).replay turns
  rw [← same] at sound slots
  obtain ⟨-, keyed, clients, samples, outcomes⟩ :=
    records.finished sound (slots.pulledAll (.inr (.inr finished))) finished
  rw [prefixed] at keyed outcomes
  rw [ClosedLoop.filterMap_responded outcomes] at samples
  exact ⟨keyed, clients, samples⟩

end LoadHarness
