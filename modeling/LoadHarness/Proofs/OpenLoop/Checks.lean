import LoadHarness.Proofs.OpenLoop.Ledger
import LoadHarness.Endpoint

/-!
# The status check against the failures of an open loop

Two tallies classify every finished submission of an open loop: the status check passes the
samples of status 200, and the report counts as failures the samples that are not successes.
They are computed apart, one from the status and one from the success flag, so they agree only
when every recorded sample counts as a success exactly at status 200
(`Sample.AgreesWithCheck`).  Then the check fails exactly the recorder's failures and passes
the rest (`check_counts_of_agreeing`).

An order endpoint that expects status 200 records only agreeing samples
(`Endpoint.record_agrees`): a response succeeds by its status, and every fault, a timeout or
any other exception, is a failure without a status.  The attempt the loop records for an
exception that escapes the endpoint agrees as well.  The samples a run records come from its
completions or are such attempts (`mem_collect_recordedBy`), so a run served by that endpoint
keeps the two tallies equal.  No other expectation does: expecting a status other than 200, a
response of 200 is a failure the check passes, and expecting none, a 201 is a success the
check fails.
-/

namespace LoadHarness

namespace Sample

/-- A sample counts as a success exactly when its status is 200, the status the check
passes. -/
def AgreesWithCheck (sample : Sample) : Prop := sample.ok = (sample.statusCode == some 200)

end Sample

theorem failureCount_eq_countP (samples : List Sample) :
    failureCount samples = samples.countP fun sample => !sample.ok := by
  simp [failureCount, List.countP_eq_length_filter]

/-- Where every sample agrees with the check, the check fails exactly the failures. -/
theorem countP_check_fails_of_agreeing {samples : List Sample}
    (agreeing : ∀ sample ∈ samples, sample.AgreesWithCheck) :
    samples.countP (fun sample => !(sample.statusCode == some 200)) = failureCount samples := by
  rw [failureCount_eq_countP]
  apply List.countP_congr
  intro sample member
  rw [agreeing sample member]

/-- Where every sample agrees with the check, the check passes exactly the successes. -/
theorem countP_check_passes_of_agreeing {samples : List Sample}
    (agreeing : ∀ sample ∈ samples, sample.AgreesWithCheck) :
    samples.countP (fun sample => sample.statusCode == some 200) + failureCount samples =
      samples.length := by
  rw [← countP_check_fails_of_agreeing agreeing]
  have whole := List.length_eq_countP_add_countP (fun sample : Sample => sample.statusCode == some 200)
    (l := samples)
  simp only [decide_not, Bool.decide_eq_true] at whole
  exact whole.symm

theorem Value.equals_int (a b : Int) : Value.equals (.int a) (.int b) = (a == b) := by
  simp [Value.equals, Value.number?, Number.order]

theorem Cue.failedAttempt_agrees (failure : Failure) (latency : Float) :
    (Cue.failedAttempt failure latency).AgreesWithCheck := rfl

namespace Endpoint

/-- An endpoint that expects status 200 records only samples that agree with the check: a
response by its status, a fault as a failure without one. -/
theorem record_agrees {endpoint : Endpoint} (expects : endpoint.success = .exactly (.int 200))
    (outcome : Except SendFault Int) (latency : Float) :
    (endpoint.record outcome latency).AgreesWithCheck := by
  cases outcome with
  | ok code =>
      simp [record, Sample.AgreesWithCheck, isSuccess, expects, SuccessRule.acceptsCode,
        Value.equals_int]
  | error fault => rfl

/-- Among the endpoints that expect a status given as a number, only those expecting 200
record agreeing samples for every response. -/
theorem record_agrees_iff {endpoint : Endpoint} {expected : Int}
    (expects : endpoint.success = .exactly (.int expected)) :
    (∀ code latency, (endpoint.record (.ok code) latency).AgreesWithCheck) ↔ expected = 200 := by
  constructor
  · intro agreeing
    -- a response of the expected status is a success, so that status is 200
    have atExpected := agreeing expected 0.0
    simpa [record, Sample.AgreesWithCheck, isSuccess, expects, SuccessRule.acceptsCode,
      Value.equals_int] using atExpected.symm
  · rintro rfl code latency
    exact record_agrees expects (.ok code) latency

/-- Expecting no particular status, a response of 201 is a success that the check fails. -/
theorem record_created_disagrees {endpoint : Endpoint} (anyOk : endpoint.success = .anyOk)
    (latency : Float) :
    (endpoint.record (.ok 201) latency).ok = true ∧
      ¬ (endpoint.record (.ok 201) latency).AgreesWithCheck := by
  simp [record, Sample.AgreesWithCheck, isSuccess, anyOk, SuccessRule.acceptsCode]

end Endpoint

namespace OpenSession

/-- A recorded sample is the sample of a completion among the events, or the failed attempt
of an exception. -/
theorem mem_collect_recordedBy {session : OpenSession} {events : List SessionEvent}
    {sample : Sample} (member : sample ∈ collect recordedBy session events) :
    (∃ key, SessionEvent.complete key sample ∈ events) ∨
      ∃ kind message, sample = Cue.failedAttempt (.raised kind message) := by
  induction events generalizing session with
  | nil => simp at member
  | cons event rest induction =>
      rw [collect_cons, List.mem_append] at member
      rcases member with now | later
      · -- the event itself recorded the sample
        cases event with
        | complete key recordedSample =>
            simp only [recordedBy] at now
            split at now
            · rw [List.mem_singleton] at now
              subst now
              exact .inl ⟨key, List.mem_cons_self⟩
            · simp at now
        | raise key kind message =>
            simp only [recordedBy] at now
            split at now
            · exact .inr ⟨kind, message, List.mem_singleton.mp now⟩
            · simp at now
        | arrive index => simp [recordedBy] at now
        | cancel key => simp [recordedBy] at now
        | drain => simp [recordedBy] at now
      · rcases induction later with ⟨key, completed⟩ | failed
        · exact .inl ⟨key, List.mem_cons_of_mem _ completed⟩
        · exact .inr failed

variable {lost : Nat} {recorded : List Sample} {session : OpenSession}

/-- Where every recorded sample agrees with the check, the check fails exactly the recorded
failures and passes the rest. -/
theorem check_counts_of_agreeing (ledger : LedgerSound lost recorded session)
    (agreeing : ∀ sample ∈ session.pool.recorder.samples, sample.AgreesWithCheck) :
    session.pool.check.fails = session.pool.recorder.failures ∧
      session.pool.check.passes = session.pool.recorder.size - session.pool.recorder.failures := by
  rw [ledger.samples] at agreeing
  have passed := countP_check_passes_of_agreeing agreeing
  have size : session.pool.recorder.size = recorded.length := by
    rw [Recorder.size_eq_length, ledger.samples]
  refine ⟨?_, ?_⟩
  · rw [ledger.fails, countP_check_fails_of_agreeing agreeing, Recorder.failures, ledger.samples]
  · rw [ledger.passes, Recorder.failures, ledger.samples, size, ← passed]
    omega

end OpenSession

open OpenSession in
/-- The status check of an open loop and its recorded failures, over any sequence of events
from a validated configuration.  Whatever the target, the check fails exactly the recorded
failures and passes the other samples as long as every recorded sample is a success exactly at
status 200.  An order endpoint expecting 200 that produced every completion guarantees this;
an endpoint expecting another status does not, and one expecting none counts a 201 as a
success that the check fails. -/
theorem status_check_agrees_with_failures {input : Value} {config : OpenConfig}
    (valid : OpenConfig.validate input = .ok config) (generator : Generator)
    (events : List SessionEvent) :
    let session := (OpenSession.start config generator).replay events
    ((∀ sample ∈ session.pool.recorder.samples, sample.AgreesWithCheck) →
        session.pool.check.fails = session.pool.recorder.failures ∧
          session.pool.check.passes = session.pool.recorder.size - session.pool.recorder.failures) ∧
      (∀ endpoint : Endpoint, endpoint.success = .exactly (.int 200) →
        (∀ key sample, SessionEvent.complete key sample ∈ events →
          ∃ reply order submitted started finished,
            sample = (endpoint.submit reply order submitted started finished).sample) →
        session.pool.check.fails = session.pool.recorder.failures ∧
          session.pool.check.passes = session.pool.recorder.size - session.pool.recorder.failures) ∧
      (∀ (endpoint : Endpoint) (expected : Int), endpoint.success = .exactly (.int expected) →
        ((∀ code latency, (endpoint.record (.ok code) latency).AgreesWithCheck) ↔ expected = 200)) ∧
      (∀ (endpoint : Endpoint) (latency : Float), endpoint.success = .anyOk →
        (endpoint.record (.ok 201) latency).ok = true ∧
          ¬ (endpoint.record (.ok 201) latency).AgreesWithCheck) := by
  intro session
  have withinCeiling := (OpenConfig.validate_callers valid).2
  have started := callers_sound_start generator withinCeiling
  have ledger := (ledger_sound_start config generator).replay started events
  have counts := check_counts_of_agreeing ledger
  refine ⟨counts, fun endpoint expects dispatched => counts ?_, fun endpoint expected expects =>
    Endpoint.record_agrees_iff expects, fun endpoint latency anyOk =>
    Endpoint.record_created_disagrees anyOk latency⟩
  -- every recorded sample is a completion the endpoint produced, or a failed attempt
  intro sample member
  rw [ledger.samples, List.nil_append] at member
  rcases mem_collect_recordedBy member with ⟨key, completed⟩ | ⟨kind, message, rfl⟩
  · obtain ⟨reply, order, submitted, started, finished, rfl⟩ := dispatched key sample completed
    exact Endpoint.record_agrees expects _ _
  · exact Cue.failedAttempt_agrees _ _

/-- Two callers started, at most three: an arrival, then a completion of key `1-0` with the
sample an endpoint expecting 200 records for a response of 200; the check passes the one
sample and fails none. -/
theorem status_check_agrees_with_failures_small_pool :
    OpenConfig.validate (.obj [("pre_allocated_callers", .int 2), ("max_callers", .int 3)]) =
        .ok { preAllocated := 2, maxCallers := 3 } ∧
      let session := (OpenSession.start { preAllocated := 2, maxCallers := 3 } default).replay
        [.arrive (.int 0), .complete "1-0" ⟨0.0, true, some 200, none⟩]
      session.pool.check.fails = session.pool.recorder.failures :=
  have valid : OpenConfig.validate (.obj [("pre_allocated_callers", .int 2), ("max_callers", .int 3)]) =
      .ok { preAllocated := 2, maxCallers := 3 } := by rfl
  ⟨valid, ((status_check_agrees_with_failures valid default
    [.arrive (.int 0), .complete "1-0" ⟨0.0, true, some 200, none⟩]).1 (by
      intro sample member
      -- the one recorded sample is the completion's
      have recorded : ((OpenSession.start { preAllocated := 2, maxCallers := 3 } default).replay
          [.arrive (.int 0), .complete "1-0" ⟨0.0, true, some 200, none⟩]).pool.recorder.samples =
          [⟨0.0, true, some 200, none⟩] := by rfl
      rw [recorded, List.mem_singleton] at member
      rw [member]
      rfl)).1⟩

end LoadHarness
