import LoadHarness.Proofs.OpenLoop.Callers

/-!
# The ledger of an open loop

Every arrival of an open loop is accounted for, whatever order its events
come in.  `LedgerSound` is the bookkeeping every state of a session keeps:

* an arrival is issued or dropped, and every issued arrival has its key;
* an issued submission is recorded, still in flight, or lost (cancelled, or
  broken off because its order could not be made);
* the recorder holds the samples the events recorded, in the order they
  came: a completion records its sample and an exception a failed attempt;
* the status check counts those samples, passing exactly those of status 200.

`LedgerSound.replay` proves it for every sequence of events.  A session
keeps its keys distinct (`CallersSound`), which is what makes a completion
end exactly one submission.  `open_loop_ledger` adds what draining does:
it reports the submissions it cancels, after which none is in flight and
every issued arrival is recorded or lost.
-/

namespace LoadHarness

namespace Tally

@[simp] theorem observe_passes (tally : Tally) (passed : Bool) :
    (tally.observe passed).passes = tally.passes + if passed then 1 else 0 := by
  cases passed <;> simp [observe]

@[simp] theorem observe_fails (tally : Tally) (passed : Bool) :
    (tally.observe passed).fails = tally.fails + if passed then 0 else 1 := by
  cases passed <;> simp [observe]

end Tally

namespace Recorder

@[simp] theorem samples_record (recorder : Recorder) (sample : Sample) :
    (recorder.record sample).samples = recorder.samples ++ [sample] := by
  simp [record, samples]

theorem size_eq_length (recorder : Recorder) : recorder.size = recorder.samples.length := by
  simp [size, samples]

end Recorder

namespace Pool

/-- The counts an arrival that got a caller moves: one more scheduled and
issued, one more in flight, one more key; nothing recorded. -/
theorem arrive_served_counts {pool pool' : Pool} {caller : Caller} {key : String}
    (served : pool.arrive = (some (caller, key), pool')) :
    pool'.scheduled = pool.scheduled + 1 ∧ pool'.issued = pool.issued + 1 ∧
      pool'.dropped = pool.dropped ∧ pool'.inFlight = pool.inFlight + 1 ∧
      pool'.keys.size = pool.keys.size + 1 ∧ pool'.recorder = pool.recorder ∧
      pool'.check = pool.check := by
  obtain ⟨-, -, -, frame, -⟩ := arrive_served served
  rw [frame]
  simp

end Pool

namespace OpenSession

/-- The samples an event records: a completion of an outstanding submission
records its sample, an exception a failed attempt; no other event records
anything. -/
def recordedBy (session : OpenSession) : SessionEvent → List Sample
  | .complete key sample => if key ∈ session.pending.map Prod.fst then [sample] else []
  | .raise key kind message =>
      if key ∈ session.pending.map Prod.fst then [Cue.failedAttempt (.raised kind message)] else []
  | _ => []

/-- The bookkeeping of a session that has lost `lost` submissions and
recorded `recorded`. -/
structure LedgerSound (lost : Nat) (recorded : List Sample) (session : OpenSession) : Prop where
  scheduled : session.pool.scheduled = session.pool.issued + session.pool.dropped
  keyed : session.pool.keys.size = session.pool.issued
  issued : session.pool.issued = session.pool.recorder.size + session.pool.inFlight + lost
  samples : session.pool.recorder.samples = recorded
  passes : session.pool.check.passes = ↑(recorded.countP fun sample => sample.statusCode == some 200)
  fails : session.pool.check.fails = ↑(recorded.countP fun sample => !(sample.statusCode == some 200))

variable {pre lost lost' : Nat} {recorded : List Sample} {session : OpenSession}

/-- A session starts with nothing scheduled, recorded or tallied. -/
theorem ledger_sound_start (config : OpenConfig) (generator : Generator) :
    LedgerSound 0 [] (OpenSession.start config generator) := by
  constructor <;> rfl

/-- An arrival is dropped, issued, or broken off at once: the counts follow. -/
theorem LedgerSound.arrive (ledger : LedgerSound lost recorded session) (index : Value) :
    LedgerSound (lost + (session.brokenBy (.arrive index)).length) recorded
      (session.arrive index).2 := by
  have scheduled := ledger.scheduled
  have keyed := ledger.keyed
  have issued := ledger.issued
  rcases arrive_cases session index with ⟨pool', dropped, outcome⟩ |
    ⟨caller, key, pool', generator, served, ⟨order, outcome⟩ | ⟨failure, outcome⟩⟩
  · obtain ⟨-, -, rfl⟩ := Pool.arrive_dropped dropped
    simp only [brokenBy, outcome, List.length_nil, Nat.add_zero]
    exact ⟨by simp only; omega, keyed, issued, ledger.samples, ledger.passes, ledger.fails⟩
  · obtain ⟨scheduled', issued', dropped', inFlight', keys', recorder', check'⟩ :=
      Pool.arrive_served_counts served
    simp only [brokenBy, outcome, List.length_nil, Nat.add_zero]
    refine ⟨?_, ?_, ?_, ?_, ?_, ?_⟩
    all_goals simp only [scheduled', issued', dropped', inFlight', keys', recorder', check']
    · omega
    · omega
    · omega
    · exact ledger.samples
    · exact ledger.passes
    · exact ledger.fails
  · obtain ⟨scheduled', issued', dropped', inFlight', keys', recorder', check'⟩ :=
      Pool.arrive_served_counts served
    simp only [brokenBy, outcome, List.length_singleton]
    refine ⟨?_, ?_, ?_, ?_, ?_, ?_⟩
    all_goals simp only [Pool.release, scheduled', issued', dropped', inFlight', keys', recorder',
      check']
    · omega
    · omega
    · omega
    · exact ledger.samples
    · exact ledger.passes
    · exact ledger.fails

/-- A completion of an outstanding submission records its sample and tallies
its status; one of a key not outstanding changes nothing. -/
theorem LedgerSound.resolve (ledger : LedgerSound lost recorded session)
    (sound : CallersSound pre lost' session) (key : String) (sample : Sample) :
    LedgerSound lost (recorded ++ if key ∈ session.pending.map Prod.fst then [sample] else [])
      (session.resolve key sample) := by
  by_cases present : key ∈ session.pending.map Prod.fst
  · obtain ⟨⟨key, caller⟩, member, rfl⟩ := List.mem_map.mp present
    rw [resolve_of_mem sound.keys_distinct member, if_pos present]
    -- the submission resolved is outstanding, so one is in flight
    have busy : 0 < session.pool.inFlight := by
      rw [sound.outstanding]
      exact List.length_pos_of_mem member
    have issued := ledger.issued
    rw [Recorder.size_eq_length] at issued
    refine ⟨ledger.scheduled, ledger.keyed, ?_, ?_, ?_, ?_⟩
    all_goals simp only [Pool.finish]
    · simp only [Recorder.size_eq_length, Recorder.samples_record, List.length_append,
        List.length_singleton]
      omega
    · rw [Recorder.samples_record, ledger.samples]
    · cases passed : sample.statusCode == some 200 <;> simp [ledger.passes, passed]
    · cases passed : sample.statusCode == some 200 <;> simp [ledger.fails, passed]
  · rw [resolve_of_not_mem present, if_neg present, List.append_nil]
    exact ledger

/-- A cancelled submission is lost; a key not outstanding changes nothing. -/
theorem LedgerSound.cancel (ledger : LedgerSound lost recorded session)
    (sound : CallersSound pre lost' session) (key : String) :
    LedgerSound (lost + (session.cancelledBy (.cancel key)).length) recorded
      (session.cancel key) := by
  by_cases present : key ∈ session.pending.map Prod.fst
  · simp only [cancelledBy, present, if_true, List.length_singleton]
    obtain ⟨⟨key, caller⟩, member, rfl⟩ := List.mem_map.mp present
    rw [cancel_of_mem sound.keys_distinct member]
    have busy : 0 < session.pool.inFlight := by
      rw [sound.outstanding]
      exact List.length_pos_of_mem member
    have issued := ledger.issued
    exact ⟨ledger.scheduled, ledger.keyed, by simp only [Pool.release]; omega, ledger.samples,
      ledger.passes, ledger.fails⟩
  · simp only [cancelledBy, present, if_false, List.length_nil, Nat.add_zero]
    rw [cancel_of_not_mem present]
    exact ledger

/-- Draining loses every outstanding submission, which leaves none in flight. -/
theorem LedgerSound.drain (ledger : LedgerSound lost recorded session)
    (sound : CallersSound pre lost' session) :
    LedgerSound (lost + (session.cancelledBy .drain).length) recorded session.drain.2 := by
  rw [drain_eq]
  have issued := ledger.issued
  have outstanding := sound.outstanding
  simp only [cancelledBy, List.length_map]
  exact ⟨ledger.scheduled, ledger.keyed, by simp only; omega, ledger.samples, ledger.passes,
    ledger.fails⟩

/-- One event keeps the bookkeeping, counting what it loses and records. -/
theorem LedgerSound.apply (ledger : LedgerSound lost recorded session)
    (sound : CallersSound pre lost' session) (event : SessionEvent) :
    LedgerSound (lost + (session.cancelledBy event).length + (session.brokenBy event).length)
      (recorded ++ session.recordedBy event) (session.apply event) := by
  cases event with
  | arrive index =>
      simpa [cancelledBy, recordedBy, OpenSession.apply] using ledger.arrive index
  | complete key sample =>
      simpa [cancelledBy, brokenBy, recordedBy, OpenSession.apply] using
        ledger.resolve sound key sample
  | raise key kind message =>
      simpa [cancelledBy, brokenBy, recordedBy, OpenSession.apply, fail] using
        ledger.resolve sound key (Cue.failedAttempt (.raised kind message))
  | cancel key =>
      simpa [brokenBy, recordedBy, OpenSession.apply] using ledger.cancel sound key
  | drain => simpa [brokenBy, recordedBy, OpenSession.apply] using ledger.drain sound

/-- Every sequence of events keeps the bookkeeping, counting what it loses
and records along the way. -/
theorem LedgerSound.replay (ledger : LedgerSound lost recorded session)
    (sound : CallersSound pre lost' session) (events : List SessionEvent) :
    LedgerSound (lost + (collect cancelledBy session events).length +
        (collect brokenBy session events).length)
      (recorded ++ collect recordedBy session events) (session.replay events) := by
  -- the callers' invariant travels along, for the distinct keys each step needs
  induction events generalizing session lost lost' recorded with
  | nil => simpa using ledger
  | cons event rest induction =>
      have next := induction (ledger.apply sound event) (sound.apply event)
      have regrouped : lost + ((session.cancelledBy event).length +
            (collect cancelledBy (session.apply event) rest).length) +
          ((session.brokenBy event).length + (collect brokenBy (session.apply event) rest).length) =
          lost + (session.cancelledBy event).length + (session.brokenBy event).length +
            (collect cancelledBy (session.apply event) rest).length +
            (collect brokenBy (session.apply event) rest).length := by
        omega
      simp only [replay_cons, collect_cons, List.length_append, ← List.append_assoc]
      rw [regrouped]
      exact next

/-- The bookkeeping of an open loop run from a validated configuration, after
any sequence of events: every arrival is issued or dropped, every issued one
has its key and is recorded, in flight or lost; the recorder holds what the
events recorded, in order, an exception as a failed attempt without a status;
the status check counts every recorded sample once, passing those of status
200; and draining reports the submissions it cancels, leaving none in flight,
so that every issued arrival is then recorded or lost. -/
theorem open_loop_ledger {input : Value} {config : OpenConfig}
    (valid : OpenConfig.validate input = .ok config) (generator : Generator)
    (events : List SessionEvent) :
    let start := OpenSession.start config generator
    let session := start.replay events
    let cancelled := (collect cancelledBy start events).length
    let broken := (collect brokenBy start events).length
    session.pool.scheduled = session.pool.issued + session.pool.dropped ∧
      session.pool.keys.size = session.pool.issued ∧
      session.pool.inFlight = session.pending.length ∧
      session.pool.issued = session.pool.recorder.size + session.pool.inFlight + cancelled + broken ∧
      session.pool.recorder.samples = collect recordedBy start events ∧
      (∀ kind message, (Cue.failedAttempt (.raised kind message)).ok = false ∧
        (Cue.failedAttempt (.raised kind message)).statusCode = none) ∧
      session.pool.check.passes + session.pool.check.fails = session.pool.recorder.size ∧
      session.pool.check.passes =
        ↑(session.pool.recorder.samples.countP fun sample => sample.statusCode == some 200) ∧
      session.drain.1 = (session.cancelledBy .drain).length ∧
      session.drain.2.pending = [] ∧ session.drain.2.pool.inFlight = 0 ∧
      session.drain.2.pool.issued = session.drain.2.pool.recorder.size +
        (collect cancelledBy start (events ++ [.drain])).length + broken := by
  intro start session cancelled broken
  have withinCeiling := (OpenConfig.validate_callers valid).2
  have started := callers_sound_start generator withinCeiling
  have sound : CallersSound config.preAllocated.toNat (0 + cancelled + broken) session :=
    started.replay events
  have ledger : LedgerSound (0 + cancelled + broken) ([] ++ collect recordedBy start events) session :=
    (ledger_sound_start config generator).replay started events
  have drained := ledger.drain sound
  have issued := ledger.issued
  have drainedIssued := drained.issued
  -- the drain is the last event of the longer sequence
  have cancelledAfter : (collect cancelledBy start (events ++ [.drain])).length =
      cancelled + (session.cancelledBy .drain).length := by
    simp [collect_append, cancelled, session]
  have drainedIdle : session.drain.2.pool.inFlight = 0 := by simp [drain_eq, sound.outstanding]
  -- every recorded sample passes the check or fails it
  have tallied : session.pool.check.passes + session.pool.check.fails = session.pool.recorder.size := by
    have whole := List.length_eq_countP_add_countP
      (fun sample : Sample => sample.statusCode == some 200) (l := session.pool.recorder.samples)
    simp only [decide_not, Bool.decide_eq_true] at whole
    rw [ledger.passes, ledger.fails, Recorder.size_eq_length, ← ledger.samples, whole]
    push_cast
    rfl
  refine ⟨ledger.scheduled, ledger.keyed, sound.outstanding, by omega, by simpa using ledger.samples,
    fun _ _ => ⟨rfl, rfl⟩, tallied, by rw [ledger.passes, ledger.samples], by simp [drain_eq, cancelledBy],
    by simp [drain_eq], drainedIdle, by omega⟩

/-- Two callers started, at most three: an arrival, then a completion of key
`1-0` with a sample of status 201, then a drain; the ledger balances. -/
theorem open_loop_ledger_small_pool :
    OpenConfig.validate (.obj [("pre_allocated_callers", .int 2), ("max_callers", .int 3)]) =
        .ok { preAllocated := 2, maxCallers := 3 } ∧
      let session := (OpenSession.start { preAllocated := 2, maxCallers := 3 } default).replay
        [.arrive (.int 0), .complete "1-0" ⟨1.0, true, some 201, none⟩, .drain]
      session.pool.scheduled = session.pool.issued + session.pool.dropped :=
  have valid : OpenConfig.validate (.obj [("pre_allocated_callers", .int 2), ("max_callers", .int 3)]) =
      .ok { preAllocated := 2, maxCallers := 3 } := by rfl
  ⟨valid, (open_loop_ledger valid default
    [.arrive (.int 0), .complete "1-0" ⟨1.0, true, some 201, none⟩, .drain]).1⟩

end OpenSession

end LoadHarness
