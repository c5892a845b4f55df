import LoadHarness.Proofs.ClosedLoop.Moves

/-!
# The slots of a closed loop

A closed loop of `slots` slots never has more than `slots` submissions
outstanding, whatever order the target answers its calls in.  `SlotsSound`
is the accounting every state of such a run keeps: the free slots, the
submissions in flight, and a slot handed to the waiting driver (taken, though
its order is not issued yet) add up to `slots`, because every completion
callback frees exactly one slot, whether or not its submission was cancelled.

The most submissions ever outstanding is therefore at most `slots`, and at
most the number of orders.  It is also at least the smaller of the two: the
driver's first turn issues orders while a slot is free, and taking a free
slot never waits, so no submission can end before the first `min n slots`
orders are out (`issueAll_peak`).  Hence a finished run reports exactly
`min n slots` (`slots_conserved`).
-/

namespace LoadHarness

open Closed

namespace ClosedLoop

/-- The accounting of the slots of a run of `slots` slots over `total` orders. -/
structure SlotsSound (slots total : Nat) (loop : ClosedLoop) : Prop where
  limit : loop.limit = some slots
  conserved : loop.free + loop.inFlight + (if loop.phase = .handed then 1 else 0) = slots
  outstanding : loop.inFlight = loop.submissions.countP fun submission => !submission.isSettled
  waiting : loop.phase = .waiting → loop.free = 0
  peak : loop.inFlight ≤ loop.maxInFlight
  peakBound : loop.maxInFlight ≤ slots
  peakIssued : loop.maxInFlight ≤ loop.submissions.length
  counted : loop.submissions.length + loop.orders.length = total
  fresh : loop.phase = .admitting → loop.submissions = []
  reached : loop.phase = .admitting ∨ min total slots ≤ loop.maxInFlight
  pulledAll : loop.phase = .draining ∨ loop.phase = .drained ∨ loop.phase = .finished → loop.orders = []

/-- The accounting while the driver issues orders: no slot is handed over. -/
structure Admitting (slots total : Nat) (loop : ClosedLoop) : Prop where
  limit : loop.limit = some slots
  conserved : loop.free + loop.inFlight = slots
  outstanding : loop.inFlight = loop.submissions.countP fun submission => !submission.isSettled
  peak : loop.inFlight ≤ loop.maxInFlight
  peakBound : loop.maxInFlight ≤ slots
  peakIssued : loop.maxInFlight ≤ loop.submissions.length
  counted : loop.submissions.length + loop.orders.length = total
  phase : loop.phase = .admitting

variable {slots total : Nat} {loop : ClosedLoop}

theorem slots_sound_start (slots : Nat) (keyPrefix : Value) (source : OrderSource) :
    SlotsSound slots source.orders.length (ClosedLoop.start (some slots) keyPrefix source) where
  limit := rfl
  conserved := by simp [start]
  outstanding := rfl
  waiting := by simp [start]
  peak := Nat.le_refl 0
  peakBound := Nat.zero_le slots
  peakIssued := Nat.le_refl 0
  counted := by simp [start]
  fresh := fun _ => rfl
  reached := .inl rfl
  pulledAll := by simp [start]

/-- Issuing an order into a taken slot, where `slots` bounds the slots in
use: one more submission in flight, and the peak follows it. -/
theorem issue_admitting {order : Order} {rest : List Order} {free : Nat}
    (limit : loop.limit = some slots)
    (outstanding : loop.inFlight = loop.submissions.countP fun submission => !submission.isSettled)
    (peakBound : loop.maxInFlight ≤ slots) (peakIssued : loop.maxInFlight ≤ loop.submissions.length)
    (counted : loop.submissions.length + (order :: rest).length = total)
    (room : free + (loop.inFlight + 1) = slots) :
    Admitting slots total ({ loop with free, orders := rest, phase := .admitting }.issue order) := by
  rw [List.length_cons] at counted
  have inFlightLe : loop.inFlight ≤ loop.submissions.length := by
    rw [outstanding]
    exact List.countP_le_length
  have fresh : (!({ order, key := idempotencyKey loop.keyPrefix (.int (loop.submissions.length + 1)) } :
      Closed.Submission).isSettled) = true := rfl
  refine ⟨limit, ?_, ?_, ?_, ?_, ?_, ?_, rfl⟩
  all_goals simp only [ClosedLoop.issue, List.length_append, List.length_cons, List.length_nil,
    List.countP_append, List.countP_cons, List.countP_nil, fresh, if_true]
  · omega
  · omega
  · omega
  · omega
  · omega
  · omega

/-- Issuing an order after taking a free slot. -/
theorem Admitting.issue {taken : ClosedLoop} {order : Order} {rest : List Order}
    (admitting : Admitting slots total loop) (pulled : loop.orders = order :: rest)
    (acquired : loop.acquire = some taken) :
    Admitting slots total ({ taken with orders := rest }.issue order) := by
  rcases acquire_eq_some acquired with ⟨unbounded, -⟩ | ⟨-, free, rfl⟩
  · simp [admitting.limit] at unbounded
  have counted := admitting.counted
  rw [pulled] at counted
  have room : loop.free - 1 + (loop.inFlight + 1) = slots := by
    have conserved := admitting.conserved
    omega
  have next := issue_admitting admitting.limit admitting.outstanding admitting.peakBound
    admitting.peakIssued counted room
  -- the driver already admits, so setting its phase changes nothing
  obtain ⟨limit, keyPrefix, orders, breaksOff, free', phase, ready, submissions, inFlight, maxInFlight,
    recorded, calls⟩ := loop
  cases admitting.phase
  exact next

/-- Once the driver leaves its loop without a slot handed to it or waiting,
the accounting is that of its loop. -/
theorem Admitting.settleInto {phase : Phase} (admitting : Admitting slots total loop)
    (notHanded : phase ≠ .handed) (notWaiting : phase ≠ .waiting) (notAdmitting : phase ≠ .admitting)
    (floor : min total slots ≤ loop.maxInFlight) (pulled : loop.orders = []) :
    SlotsSound slots total { loop with phase } :=
  ⟨admitting.limit, by simpa [notHanded] using admitting.conserved, admitting.outstanding,
    fun waiting => absurd waiting notWaiting, admitting.peak, admitting.peakBound, admitting.peakIssued,
    admitting.counted, fun admittingAgain => absurd admittingAgain notAdmitting, .inr floor,
    fun _ => pulled⟩

/-- The driver's loop over the orders ends waiting for a slot, failed,
finished or draining, its accounting kept, once its peak reaches
`min total slots`. -/
theorem Admitting.issueAll (admitting : Admitting slots total loop)
    (floor : min total slots ≤ (loop.issueAll loop.orders).maxInFlight) :
    SlotsSound slots total (loop.issueAll loop.orders) := by
  refine issueAll_induction (Admitting slots total)
    (fun loop => min total slots ≤ loop.maxInFlight → SlotsSound slots total loop) ?_ ?_ ?_ loop.orders
    loop rfl admitting floor
  · intro loop taken order rest admitting pulled acquired
    exact admitting.issue pulled acquired
  · intro loop admitting pulled floor
    rw [exhaust_frame] at floor ⊢
    rcases exhaust_phase loop with phase | phase | phase
    all_goals rw [phase]; exact admitting.settleInto (by simp) (by simp) (by simp) floor pulled
  · intro loop order rest admitting _ acquired floor
    have exhausted := (acquire_eq_none.mp acquired).2
    exact ⟨admitting.limit, by simpa using admitting.conserved, admitting.outstanding,
      fun _ => exhausted, admitting.peak, admitting.peakBound, admitting.peakIssued, admitting.counted,
      by simp, .inr floor, by simp⟩

/-- The driver's loop never lowers the peak. -/
theorem le_issueAll_maxInFlight {floor : Nat} (reached : floor ≤ loop.maxInFlight) :
    floor ≤ (loop.issueAll loop.orders).maxInFlight := by
  refine issueAll_induction (fun loop => floor ≤ loop.maxInFlight) (fun loop => floor ≤ loop.maxInFlight)
    ?_ ?_ ?_ loop.orders loop rfl reached
  · intro loop taken order rest reached _ acquired
    rcases acquire_eq_some acquired with ⟨-, rfl⟩ | ⟨-, -, rfl⟩
    all_goals simp only [ClosedLoop.issue]; omega
  · intro loop reached _
    rw [exhaust_frame]
    exact reached
  · intro loop _ _ reached _ _
    exact reached

/-- Taking a free slot never waits, so the driver's loop issues orders while
slots are free: the peak reaches the in-flight submissions plus as many orders
as there are free slots, or orders if fewer. -/
theorem issueAll_peak (limit : loop.limit = some slots) (peak : loop.inFlight ≤ loop.maxInFlight) :
    ∀ orders : List Order, min orders.length loop.free + loop.inFlight ≤ (loop.issueAll orders).maxInFlight := by
  intro orders
  induction orders generalizing loop with
  | nil =>
      rw [ClosedLoop.issueAll, exhaust_frame]
      simpa using peak
  | cons order rest induction =>
      rw [ClosedLoop.issueAll]
      cases acquired : loop.acquire with
      | none =>
          have exhausted := (acquire_eq_none.mp acquired).2
          simp only [exhausted, Nat.min_zero, Nat.zero_add]
          exact peak
      | some taken =>
          rcases acquire_eq_some acquired with ⟨unbounded, -⟩ | ⟨-, free, rfl⟩
          · simp [limit] at unbounded
          have next := @induction ({ { loop with free := loop.free - 1 } with orders := rest }.issue order)
            (by simpa [ClosedLoop.issue] using limit) (by simp only [ClosedLoop.issue]; omega)
          simp only [ClosedLoop.issue, List.length_cons] at next ⊢
          omega

/-- The accounting does not look at the ready jobs. -/
theorem SlotsSound.pop (sound : SlotsSound slots total loop) (rest : List Job) :
    SlotsSound slots total { loop with ready := rest } :=
  ⟨sound.1, sound.2, sound.3, sound.4, sound.5, sound.6, sound.7, sound.8, sound.9, sound.10, sound.11⟩

/-- The driver's turn keeps the accounting: a slot handed to it becomes the
slot of the order it issues. -/
theorem SlotsSound.wake (sound : SlotsSound slots total loop) : SlotsSound slots total loop.wake := by
  have conserved := sound.conserved
  have outstanding := sound.outstanding
  have peak := sound.peak
  have peakBound := sound.peakBound
  have peakIssued := sound.peakIssued
  have counted := sound.counted
  have inFlightLe : loop.inFlight ≤ loop.submissions.length := by
    rw [outstanding]
    exact List.countP_le_length
  cases phase : loop.phase with
  | admitting =>
      rw [wake_admitting phase]
      simp only [phase, reduceCtorEq, if_false, Nat.add_zero] at conserved
      have none := sound.fresh phase
      rw [none, List.countP_nil] at outstanding
      rw [none, List.length_nil, Nat.zero_add] at counted
      -- the first turn issues orders while slots are free
      have floor := issueAll_peak sound.limit peak loop.orders
      rw [counted, outstanding] at floor
      exact Admitting.issueAll ⟨sound.limit, conserved, sound.outstanding, peak, peakBound, peakIssued,
        sound.counted, phase⟩ (by omega)
  | handed =>
      cases pulled : loop.orders with
      | nil => rwa [wake_of_idle (by simp [phase, pulled])]
      | cons order rest =>
          rw [wake_handed phase pulled]
          simp only [phase, if_true] at conserved
          rw [pulled] at counted
          have issued := @issue_admitting _ _ { loop with orders := rest } _ _ loop.free
            sound.limit outstanding peakBound peakIssued counted (by omega)
          have floor := sound.reached.resolve_left (by simp [phase])
          refine issued.issueAll (le_issueAll_maxInFlight ?_)
          simp only [ClosedLoop.issue]
          omega
  | drained =>
      rw [wake_drained phase]
      simp only [phase, reduceCtorEq, if_false] at conserved
      exact ⟨sound.limit, by simpa using conserved, outstanding, by simp, peak, peakBound, peakIssued,
        counted, by simp, .inr (sound.reached.resolve_left (by simp [phase])),
        fun _ => sound.pulledAll (by simp [phase])⟩
  | waiting | draining | finished | failed =>
      rwa [wake_of_idle (by simp [phase])]

/-- A submission moved to a stage on the same side of settling leaves the
number outstanding as it was. -/
theorem countP_unsettled_set {submissions : List Closed.Submission} {id : Nat} {submission : Closed.Submission}
    {stage : Closed.Stage} (found : submissions[id]? = some submission)
    (same : ({ submission with stage } : Closed.Submission).isSettled = submission.isSettled) :
    (submissions.set id { submission with stage }).countP (fun submission => !submission.isSettled) =
      submissions.countP fun submission => !submission.isSettled := by
  have recount := @countP_set_of_getElem? Closed.Submission (fun submission => !submission.isSettled) _ _ _
    { submission with stage } found
  rw [same] at recount
  omega

/-- The first step of a queued submission calls the target; the submission
stays outstanding. -/
theorem SlotsSound.begin (sound : SlotsSound slots total loop) (id : Nat) :
    SlotsSound slots total (loop.begin id) := by
  by_cases queued : ∃ submission, loop.submissions[id]? = some submission ∧ submission.stage = .queued
  · obtain ⟨submission, found, queued⟩ := queued
    rw [begin_of_queued found queued]
    have recount := @countP_unsettled_set _ _ _ .calling found
      (by simp [Closed.Submission.isSettled, queued])
    refine ⟨sound.limit, sound.conserved, ?_, sound.waiting, sound.peak, sound.peakBound, ?_, ?_, ?_,
      sound.reached, sound.pulledAll⟩
    · simpa [recount] using sound.outstanding
    · simpa using sound.peakIssued
    · simpa using sound.counted
    · intro admitting
      have none := sound.fresh admitting
      simp [none] at found
  · rw [begin_of_not_queued fun submission found queued' => queued ⟨submission, found, queued'⟩]
    exact sound

/-- A call ends: its submission finishes, still outstanding. -/
theorem SlotsSound.answer (sound : SlotsSound slots total loop) (id : Nat) (outcome : Outcome) :
    SlotsSound slots total (loop.answer id outcome) := by
  by_cases calling : ∃ submission, loop.submissions[id]? = some submission ∧ submission.stage = .calling
  · obtain ⟨submission, found, calling⟩ := calling
    rw [answer_of_calling outcome found calling]
    have recount := @countP_unsettled_set _ _ _ (.finished outcome) found
      (by simp [Closed.Submission.isSettled, calling])
    refine ⟨sound.limit, sound.conserved, ?_, sound.waiting, sound.peak, sound.peakBound, ?_, ?_, ?_,
      sound.reached, sound.pulledAll⟩
    · simpa [recount] using sound.outstanding
    · simpa using sound.peakIssued
    · simpa using sound.counted
    · intro admitting
      have none := sound.fresh admitting
      simp [none] at found
  · rw [answer_of_not_calling outcome fun submission found calling' => calling ⟨submission, found, calling'⟩]
    exact sound

/-- Freeing a slot: handed to a waiting driver, counted free otherwise; the
slots stay accounted for. -/
theorem release_slots {loop : ClosedLoop} (limit : loop.limit = some slots)
    (conserved : loop.free + (loop.inFlight + 1) + (if loop.phase = .handed then 1 else 0) = slots) :
    loop.release.free + loop.release.inFlight + (if loop.release.phase = .handed then 1 else 0) = slots ∧
      (loop.release.phase = .waiting → loop.release.free = 0) := by
  rw [release_eq, if_neg (by simp [limit])]
  by_cases phase : loop.phase = .waiting
  · rw [if_pos phase]
    dsimp only
    simp only [phase, reduceCtorEq, if_false] at conserved
    exact ⟨by simp only [if_true]; omega, by simp⟩
  · rw [if_neg phase]
    dsimp only
    exact ⟨by omega, fun stillWaiting => absurd stillWaiting phase⟩

/-- The completion callback: the submission settles and its slot is freed. -/
theorem SlotsSound.settle (sound : SlotsSound slots total loop) (id : Nat) :
    SlotsSound slots total (loop.settle id) := by
  by_cases done : ∃ submission outcome, loop.submissions[id]? = some submission ∧
      submission.stage = .finished outcome
  · obtain ⟨submission, outcome, found, done⟩ := done
    rw [settle_of_finished found done]
    have recount := @countP_set_of_getElem? Closed.Submission (fun submission => !submission.isSettled) _ _ _
      { submission with stage := .settled outcome } found
    have wasOut : (!submission.isSettled) = true := by simp [Closed.Submission.isSettled, done]
    have nowIn : (!({ submission with stage := .settled outcome } : Closed.Submission).isSettled) = false := rfl
    rw [wasOut, nowIn] at recount
    simp only [if_true, Bool.false_eq_true, if_false, Nat.add_zero] at recount
    have outstanding := sound.outstanding
    have conserved := sound.conserved
    have peak := sound.peak
    -- the submission that settles was outstanding, so one is in flight
    have busy : 0 < loop.inFlight := by omega
    generalize settledEq : ({ loop with
      submissions := loop.submissions.set id { submission with stage := .settled outcome }
      inFlight := loop.inFlight - 1
      recorded := loop.recorded ++ outcome.sample?.toList } : ClosedLoop) = settled
    have fields : settled.limit = loop.limit ∧ settled.phase = loop.phase ∧ settled.free = loop.free ∧
        settled.inFlight = loop.inFlight - 1 ∧ settled.maxInFlight = loop.maxInFlight ∧
        settled.submissions = loop.submissions.set id { submission with stage := .settled outcome } ∧
        settled.orders = loop.orders := by
      subst settledEq
      exact ⟨rfl, rfl, rfl, rfl, rfl, rfl, rfl⟩
    obtain ⟨limit₀, phase₀, free₀, inFlight₀, maxInFlight₀, submissions₀, orders₀⟩ := fields
    obtain ⟨conserved', waiting'⟩ := @release_slots _ settled (limit₀.trans sound.limit)
      (by rw [free₀, inFlight₀, phase₀]; omega)
    obtain ⟨limit₁, submissions₁, inFlight₁, maxInFlight₁, orders₁, -⟩ := release_frame settled
    obtain ⟨limit₂, submissions₂, inFlight₂, maxInFlight₂, orders₂, -, -, free₂, -⟩ :=
      gatherLast_frame settled.release
    -- waking a drained driver hands no slot over and starts no wait
    have phase₂ : (settled.release.gatherLast.phase = .handed ↔ settled.release.phase = .handed) ∧
        (settled.release.gatherLast.phase = .waiting ↔ settled.release.phase = .waiting) ∧
        (settled.release.gatherLast.phase = .admitting ↔ settled.release.phase = .admitting) := by
      rcases gatherLast_phase settled.release with ⟨same, -, -⟩ | ⟨draining, -, drained, -⟩
      · simp [same]
      · simp [draining, drained]
    have notAdmitting : settled.release.phase ≠ .admitting := by
      intro admitting
      rcases release_phase settled with ⟨same, -⟩ | ⟨-, handed, -⟩
      · have none := sound.fresh (phase₀ ▸ same.symm.trans admitting)
        simp [none] at found
      · simp [handed] at admitting
    refine ⟨by rw [limit₂, limit₁, limit₀, sound.limit], ?_, ?_, ?_, ?_, ?_, ?_, ?_, ?_, ?_, ?_⟩
    · rw [free₂, inFlight₂]
      simp only [phase₂.1]
      exact conserved'
    · rw [inFlight₂, inFlight₁, submissions₂, submissions₁, inFlight₀, submissions₀]
      omega
    · rw [phase₂.2.1, free₂]
      exact waiting'
    · rw [inFlight₂, inFlight₁, maxInFlight₂, maxInFlight₁, inFlight₀, maxInFlight₀]
      omega
    · rw [maxInFlight₂, maxInFlight₁, maxInFlight₀]
      exact sound.peakBound
    · rw [maxInFlight₂, maxInFlight₁, submissions₂, submissions₁, maxInFlight₀, submissions₀,
        List.length_set]
      exact sound.peakIssued
    · rw [submissions₂, submissions₁, orders₂, orders₁, submissions₀, orders₀, List.length_set]
      exact sound.counted
    · intro admitting
      exact absurd (phase₂.2.2.mp admitting) notAdmitting
    · rcases sound.reached with admitting | floor
      · have none := sound.fresh admitting
        simp [none] at found
      · exact .inr (by rw [maxInFlight₂, maxInFlight₁, maxInFlight₀]; exact floor)
    · -- a driver that has stopped pulling orders stays stopped
      intro stopped
      rw [orders₂, orders₁, orders₀]
      apply sound.pulledAll
      rcases gatherLast_phase settled.release with ⟨same, -, -⟩ | ⟨draining, -, -, -⟩
      · rw [same] at stopped
        rcases release_phase settled with ⟨same', -⟩ | ⟨-, handed, -⟩
        · rwa [same', phase₀] at stopped
        · simp [handed] at stopped
      · rcases release_phase settled with ⟨same', -⟩ | ⟨-, handed, -⟩
        · rw [same', phase₀] at draining
          exact .inl draining
        · simp [handed] at draining
  · rw [settle_of_not_finished fun submission outcome found done' =>
      done ⟨submission, outcome, found, done'⟩]
    exact sound

theorem SlotsSound.run (sound : SlotsSound slots total loop) : SlotsSound slots total loop.run := by
  cases ready : loop.ready with
  | nil => rwa [run_nil ready]
  | cons job rest =>
      cases job with
      | driver =>
          rw [run_driver ready]
          exact (sound.pop rest).wake
      | start id =>
          rw [run_start ready]
          exact (sound.pop rest).begin id
      | settle id =>
          rw [run_settle ready]
          exact (sound.pop rest).settle id

theorem SlotsSound.apply (sound : SlotsSound slots total loop) (turn : Turn) :
    SlotsSound slots total (loop.apply turn) := by
  cases turn with
  | run => exact sound.run
  | answer id outcome => exact sound.answer id outcome

/-- Every sequence of turns keeps the accounting of the slots. -/
theorem SlotsSound.replay (sound : SlotsSound slots total loop) (turns : List Turn) :
    SlotsSound slots total (loop.replay turns) := by
  induction turns generalizing loop with
  | nil => exact sound
  | cons turn rest induction => exact induction (sound.apply turn)

/-- A finished run has issued every order and reports the peak it reached. -/
theorem SlotsSound.finished_peak (sound : SlotsSound slots total loop) (finished : loop.phase = .finished) :
    loop.maxInFlight = min total slots := by
  have floor := sound.reached.resolve_left (by simp [finished])
  have peakBound := sound.peakBound
  have peakIssued := sound.peakIssued
  have counted := sound.counted
  rw [sound.pulledAll (.inr (.inr finished)), List.length_nil, Nat.add_zero] at counted
  omega

end ClosedLoop

end LoadHarness
