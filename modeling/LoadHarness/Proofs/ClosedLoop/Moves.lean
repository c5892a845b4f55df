import LoadHarness.Loop.Closed

/-!
# The moves of a closed loop

What each operation of a closed-loop run does to its state, said once so that
the invariants never unfold the operations again: taking a slot, issuing an
order, running out of orders, the driver's turn, the first step of a
submission, the end of a call, freeing a slot and the completion callback.
`issueAll_induction` packages the driver's loop over the orders: a property
kept by issuing one order, by running out of orders and by starting to wait
holds after the whole loop.
-/

namespace LoadHarness

/-- Replacing an item by one that `f` cannot tell from it leaves the list's
image under `f` as it was. -/
theorem map_set_of_getElem? {α β : Type} {items : List α} {f : α → β} {id : Nat} {item changed : α}
    (found : items[id]? = some item) (same : f changed = f item) :
    (items.set id changed).map f = items.map f := by
  obtain ⟨within, value⟩ := List.getElem?_eq_some_iff.mp found
  rw [List.map_set, same]
  apply List.ext_getElem?
  intro j
  rw [List.getElem?_set]
  split
  · rename_i here
    subst here
    simp [within, value]
  · rfl

/-- Replacing an item changes how many items pass a test by what the two items
contribute. -/
theorem countP_set_of_getElem? {α : Type} {p : α → Bool} {items : List α} {id : Nat}
    {item changed : α} (found : items[id]? = some item) :
    (items.set id changed).countP p + (if p item then 1 else 0) =
      items.countP p + (if p changed then 1 else 0) := by
  obtain ⟨within, value⟩ := List.getElem?_eq_some_iff.mp found
  have counted : (if p item then 1 else 0) ≤ items.countP p := by
    split
    · rename_i passes
      exact List.countP_pos_iff.mpr ⟨item, value ▸ List.getElem_mem within, passes⟩
    · exact Nat.zero_le _
  rw [List.countP_set within, value]
  omega

/-- An item of a list with one more item at its end is an item of the list or
that last item. -/
theorem getElem?_append_singleton_eq_some {α : Type} {items : List α} {last item : α} {id : Nat}
    (found : (items ++ [last])[id]? = some item) :
    (id < items.length ∧ items[id]? = some item) ∨ (id = items.length ∧ item = last) := by
  rcases Nat.lt_or_ge id items.length with old | new
  · exact .inl ⟨old, by rwa [List.getElem?_append_left old] at found⟩
  · rw [List.getElem?_append_right new] at found
    cases gap : id - items.length with
    | zero =>
        rw [gap] at found
        exact .inr ⟨by omega, (Option.some.inj found).symm⟩
    | succ _ => simp [gap] at found

/-- A whole concurrency of at least 1 gives that many slots. -/
theorem slotLimit_int_of_one_le {c : Int} (atLeastOne : 1 ≤ c) : slotLimit (.int c) = .ok (some c.toNat) := by
  have notBelow : (compare c 1 == .lt) = false := by
    simp [Int.compare_eq_lt]
    omega
  simp [slotLimit, Value.less, Value.relate, Value.number?, Number.order, Relation.holds, notBelow]

open Closed

namespace ClosedLoop

variable {loop taken : ClosedLoop}

theorem acquire_eq_none : loop.acquire = none ↔ loop.limit.isSome ∧ loop.free = 0 := by
  unfold acquire
  cases loop.limit <;> simp

theorem acquire_eq_some (acquired : loop.acquire = some taken) :
    (loop.limit = none ∧ taken = loop) ∨
      (loop.limit.isSome ∧ 0 < loop.free ∧ taken = { loop with free := loop.free - 1 }) := by
  unfold acquire at acquired
  cases limit : loop.limit with
  | none =>
      simp only [limit, Option.some.injEq] at acquired
      exact .inl ⟨rfl, acquired.symm⟩
  | some slots =>
      simp only [limit] at acquired
      split at acquired
      · cases acquired
      · rename_i busy
        simp only [Option.some.injEq] at acquired
        exact .inr ⟨rfl, by omega, acquired.symm⟩

theorem exhaust_eq (loop : ClosedLoop) :
    loop.exhaust = { loop with
      phase := if loop.breaksOff then .failed
        else if loop.submissions.all Closed.Submission.isSettled then .finished else .draining } := by
  unfold exhaust
  split
  · rfl
  · split <;> rfl

theorem exhaust_phase (loop : ClosedLoop) :
    loop.exhaust.phase = .failed ∨ loop.exhaust.phase = .finished ∨ loop.exhaust.phase = .draining := by
  rw [exhaust_eq]
  split
  · simp
  · split <;> simp

/-- Running out of orders moves the driver only. -/
theorem exhaust_frame (loop : ClosedLoop) : loop.exhaust = { loop with phase := loop.exhaust.phase } := by
  rw [exhaust_eq]

/-- The driver's loop over the orders: what issuing one order keeps
(`inner`), and what running out of orders or starting to wait then gives
(`outer`), holds when the loop ends. -/
theorem issueAll_induction (inner outer : ClosedLoop → Prop)
    (issued : ∀ loop taken order rest, inner loop → loop.orders = order :: rest →
      loop.acquire = some taken → inner ({ taken with orders := rest }.issue order))
    (exhausted : ∀ loop, inner loop → loop.orders = [] → outer loop.exhaust)
    (blocked : ∀ loop order rest, inner loop → loop.orders = order :: rest →
      loop.acquire = none → outer { loop with phase := .waiting }) :
    ∀ (orders : List Order) (loop : ClosedLoop), loop.orders = orders → inner loop →
      outer (loop.issueAll orders) := by
  intro orders
  induction orders with
  | nil =>
      intro loop pulled holds
      exact exhausted loop holds pulled
  | cons order rest induction =>
      intro loop pulled holds
      unfold issueAll
      cases acquired : loop.acquire with
      | none => exact blocked loop order rest holds pulled acquired
      | some taken =>
          exact induction _ rfl (issued loop taken order rest holds pulled acquired)

theorem wake_admitting (phase : loop.phase = .admitting) : loop.wake = loop.issueAll loop.orders := by
  simp [wake, phase]

theorem wake_handed {order : Order} {rest : List Order} (phase : loop.phase = .handed)
    (pulled : loop.orders = order :: rest) :
    loop.wake = ({ loop with orders := rest, phase := .admitting }.issue order).issueAll rest := by
  simp [wake, phase, pulled]

theorem wake_drained (phase : loop.phase = .drained) : loop.wake = { loop with phase := .finished } := by
  simp [wake, phase]

/-- A driver that is neither admitting, nor handed a slot for an order, nor
drained, does nothing. -/
theorem wake_of_idle (idle : loop.phase ≠ .admitting ∧ loop.phase ≠ .drained ∧
      (loop.phase = .handed → loop.orders = [])) :
    loop.wake = loop := by
  obtain ⟨notAdmitting, notDrained, handedEmpty⟩ := idle
  unfold wake
  split
  · simp_all
  · simp_all
  · simp_all
  · rfl

theorem begin_of_queued {id : Nat} {submission : Closed.Submission}
    (found : loop.submissions[id]? = some submission) (queued : submission.stage = .queued) :
    loop.begin id = { loop with
      submissions := loop.submissions.set id { submission with stage := .calling }
      calls := loop.calls ++ [(submission.order, submission.key)] } := by
  simp [begin, found, queued]

/-- Only a queued submission takes a first step: otherwise nothing changes. -/
theorem begin_of_not_queued {id : Nat}
    (started : ∀ submission, loop.submissions[id]? = some submission → submission.stage ≠ .queued) :
    loop.begin id = loop := by
  unfold begin
  split
  · rename_i submission found
    split
    · rename_i queued
      exact absurd queued (started submission found)
    · rfl
  · rfl

theorem answer_of_calling {id : Nat} {submission : Closed.Submission} (outcome : Outcome)
    (found : loop.submissions[id]? = some submission) (calling : submission.stage = .calling) :
    loop.answer id outcome = { loop with
      submissions := loop.submissions.set id { submission with stage := .finished outcome }
      ready := loop.ready ++ [.settle id] } := by
  simp [answer, found, calling]

/-- Only a call in progress can end: any other answer changes nothing. -/
theorem answer_of_not_calling {id : Nat} (outcome : Outcome)
    (idle : ∀ submission, loop.submissions[id]? = some submission → submission.stage ≠ .calling) :
    loop.answer id outcome = loop := by
  unfold answer
  split
  · rename_i submission found
    split
    · rename_i calling
      exact absurd calling (idle submission found)
    · rfl
  · rfl

theorem settle_of_finished {id : Nat} {submission : Closed.Submission} {outcome : Outcome}
    (found : loop.submissions[id]? = some submission) (done : submission.stage = .finished outcome) :
    loop.settle id = ({ loop with
      submissions := loop.submissions.set id { submission with stage := .settled outcome }
      inFlight := loop.inFlight - 1
      recorded := loop.recorded ++ outcome.sample?.toList }).release.gatherLast := by
  simp [settle, found, done]

theorem settle_of_not_finished {id : Nat}
    (unfinished : ∀ submission outcome, loop.submissions[id]? = some submission →
      submission.stage ≠ .finished outcome) :
    loop.settle id = loop := by
  unfold settle
  split
  · rename_i submission found
    split
    · rename_i outcome done
      exact absurd done (unfinished submission outcome found)
    · rfl
  · rfl

theorem release_eq (loop : ClosedLoop) :
    loop.release =
      if loop.limit.isNone then loop
      else if loop.phase = .waiting then { loop with phase := .handed, ready := loop.ready ++ [.driver] }
      else { loop with free := loop.free + 1 } := by
  unfold release
  split <;> simp_all

theorem gatherLast_eq (loop : ClosedLoop) :
    loop.gatherLast =
      if loop.phase = .draining ∧ loop.submissions.all Closed.Submission.isSettled then
        { loop with phase := .drained, ready := loop.ready ++ [.driver] }
      else loop := by
  unfold gatherLast
  split
  · rename_i draining
    simp [draining]
  · rename_i other
    rw [if_neg fun both => other both.1]

/-- Freeing a slot moves the free slots, the driver and the ready jobs only. -/
theorem release_frame (loop : ClosedLoop) :
    loop.release.limit = loop.limit ∧ loop.release.submissions = loop.submissions ∧
      loop.release.inFlight = loop.inFlight ∧ loop.release.maxInFlight = loop.maxInFlight ∧
      loop.release.orders = loop.orders ∧ loop.release.recorded = loop.recorded ∧
      loop.release.calls = loop.calls ∧ loop.release.keyPrefix = loop.keyPrefix ∧
      loop.release.breaksOff = loop.breaksOff := by
  unfold release
  split <;> simp

/-- Freeing a slot either leaves the driver and the ready jobs alone or hands
the slot to a waiting driver and queues its turn. -/
theorem release_phase (loop : ClosedLoop) :
    (loop.release.phase = loop.phase ∧ loop.release.ready = loop.ready) ∨
      (loop.phase = .waiting ∧ loop.release.phase = .handed ∧ loop.release.ready = loop.ready ++ [.driver]) := by
  unfold release
  split
  · exact .inl ⟨rfl, rfl⟩
  · rename_i waiting
    exact .inr ⟨waiting, rfl, rfl⟩
  · exact .inl ⟨rfl, rfl⟩

/-- Waking a drained driver moves the driver and the ready jobs only. -/
theorem gatherLast_frame (loop : ClosedLoop) :
    loop.gatherLast.limit = loop.limit ∧ loop.gatherLast.submissions = loop.submissions ∧
      loop.gatherLast.inFlight = loop.inFlight ∧ loop.gatherLast.maxInFlight = loop.maxInFlight ∧
      loop.gatherLast.orders = loop.orders ∧ loop.gatherLast.recorded = loop.recorded ∧
      loop.gatherLast.calls = loop.calls ∧ loop.gatherLast.free = loop.free ∧
      loop.gatherLast.keyPrefix = loop.keyPrefix ∧ loop.gatherLast.breaksOff = loop.breaksOff := by
  rw [gatherLast_eq]
  split <;> simp

/-- A draining driver is woken, its turn queued, exactly when every
submission has settled; otherwise nothing changes. -/
theorem gatherLast_phase (loop : ClosedLoop) :
    (loop.gatherLast.phase = loop.phase ∧ loop.gatherLast.ready = loop.ready ∧
        ¬(loop.phase = .draining ∧ loop.submissions.all Closed.Submission.isSettled)) ∨
      (loop.phase = .draining ∧ loop.submissions.all Closed.Submission.isSettled ∧
        loop.gatherLast.phase = .drained ∧ loop.gatherLast.ready = loop.ready ++ [.driver]) := by
  rw [gatherLast_eq]
  split
  · rename_i drained
    exact .inr ⟨drained.1, drained.2, rfl, rfl⟩
  · rename_i other
    exact .inl ⟨rfl, rfl, other⟩

@[simp] theorem run_nil (empty : loop.ready = []) : loop.run = loop := by
  simp [run, empty]

theorem run_driver {rest : List Job} (ready : loop.ready = .driver :: rest) :
    loop.run = { loop with ready := rest }.wake := by
  simp [run, ready]

theorem run_start {id : Nat} {rest : List Job} (ready : loop.ready = .start id :: rest) :
    loop.run = { loop with ready := rest }.begin id := by
  simp [run, ready]

theorem run_settle {id : Nat} {rest : List Job} (ready : loop.ready = .settle id :: rest) :
    loop.run = { loop with ready := rest }.settle id := by
  simp [run, ready]

@[simp] theorem replay_nil (loop : ClosedLoop) : loop.replay [] = loop := rfl

@[simp] theorem replay_cons (loop : ClosedLoop) (turn : Turn) (rest : List Turn) :
    loop.replay (turn :: rest) = (loop.apply turn).replay rest := rfl

@[simp] theorem apply_run (loop : ClosedLoop) : loop.apply .run = loop.run := rfl

@[simp] theorem apply_answer (loop : ClosedLoop) (id : Nat) (outcome : Outcome) :
    loop.apply (.answer id outcome) = loop.answer id outcome := rfl

@[simp] theorem replay_append (loop : ClosedLoop) (first rest : List Turn) :
    loop.replay (first ++ rest) = (loop.replay first).replay rest :=
  List.foldl_append

section Answering

variable (respond : Nat → Order → String → Sample) {id : Nat} {rest : List Job}

theorem runAnswering_driver (ready : loop.ready = .driver :: rest) : loop.runAnswering respond = loop.run := by
  simp [runAnswering, ready]

theorem runAnswering_settle (ready : loop.ready = .settle id :: rest) :
    loop.runAnswering respond = loop.run := by
  simp [runAnswering, ready]

theorem runAnswering_start {submission : Closed.Submission} (ready : loop.ready = .start id :: rest)
    (found : loop.submissions[id]? = some submission) :
    loop.runAnswering respond = loop.run.answer id (.returned (respond id submission.order submission.key)) := by
  simp [runAnswering, ready, found]

theorem runAnswering_missing (ready : loop.ready = .start id :: rest) (missing : loop.submissions[id]? = none) :
    loop.runAnswering respond = { loop with ready := rest } := by
  simp [runAnswering, ready, missing, run, begin]

/-- The first step of a queued submission, its call answered at once: the
target is called with its order and key, and its completion callback queued. -/
theorem runAnswering_queued {submission : Closed.Submission} (ready : loop.ready = .start id :: rest)
    (found : loop.submissions[id]? = some submission) (queued : submission.stage = .queued) :
    loop.runAnswering respond = { loop with
      submissions := loop.submissions.set id
        { submission with stage := .finished (.returned (respond id submission.order submission.key)) }
      ready := rest ++ [.settle id]
      calls := loop.calls ++ [(submission.order, submission.key)] } := by
  have within := (List.getElem?_eq_some_iff.mp found).1
  rw [runAnswering_start respond ready found, run_start ready,
    @begin_of_queued { loop with ready := rest } id submission found queued]
  have calling : ({ loop with
      ready := rest
      submissions := loop.submissions.set id { submission with stage := .calling }
      calls := loop.calls ++ [(submission.order, submission.key)] } : ClosedLoop).submissions[id]? =
      some { submission with stage := .calling } := List.getElem?_set_self within
  rw [answer_of_calling _ calling rfl, List.set_set]

/-- A first step of a submission that is neither queued nor calling does
nothing. -/
theorem runAnswering_started {submission : Closed.Submission} (ready : loop.ready = .start id :: rest)
    (found : loop.submissions[id]? = some submission) (started : submission.stage ≠ .queued)
    (notCalling : submission.stage ≠ .calling) :
    loop.runAnswering respond = { loop with ready := rest } := by
  rw [runAnswering_start respond ready found, run_start ready,
    @begin_of_not_queued { loop with ready := rest } id (by simp [found, started]),
    @answer_of_not_calling { loop with ready := rest } id _ (by simp [found, notCalling])]

end Answering

/-- What a run is set up with and no move changes: its slots, its key prefix,
and whether its source breaks off. -/
def setup (loop : ClosedLoop) : Option Nat × Value × Bool := (loop.limit, loop.keyPrefix, loop.breaksOff)

@[simp] theorem issue_setup (loop : ClosedLoop) (order : Order) : (loop.issue order).setup = loop.setup := rfl

@[simp] theorem exhaust_setup (loop : ClosedLoop) : loop.exhaust.setup = loop.setup := by
  rw [exhaust_frame]
  rfl

theorem issueAll_setup : ∀ (orders : List Order) (loop : ClosedLoop), (loop.issueAll orders).setup = loop.setup := by
  intro orders
  induction orders with
  | nil => exact fun loop => exhaust_setup loop
  | cons order rest induction =>
      intro loop
      unfold issueAll
      cases acquired : loop.acquire with
      | none => rfl
      | some taken =>
          rw [induction, issue_setup]
          rcases acquire_eq_some acquired with ⟨-, rfl⟩ | ⟨-, -, rfl⟩ <;> rfl

theorem wake_setup (loop : ClosedLoop) : loop.wake.setup = loop.setup := by
  unfold wake
  split
  · exact issueAll_setup _ loop
  · rw [issueAll_setup, issue_setup]
    rfl
  · rfl
  · rfl

theorem begin_setup (loop : ClosedLoop) (id : Nat) : (loop.begin id).setup = loop.setup := by
  unfold begin
  split
  · split <;> rfl
  · rfl

theorem answer_setup (loop : ClosedLoop) (id : Nat) (outcome : Outcome) :
    (loop.answer id outcome).setup = loop.setup := by
  unfold answer
  split
  · split <;> rfl
  · rfl

theorem release_setup (loop : ClosedLoop) : loop.release.setup = loop.setup := by
  unfold release
  split <;> rfl

theorem gatherLast_setup (loop : ClosedLoop) : loop.gatherLast.setup = loop.setup := by
  rw [gatherLast_eq]
  split <;> rfl

theorem settle_setup (loop : ClosedLoop) (id : Nat) : (loop.settle id).setup = loop.setup := by
  unfold settle
  split
  · split
    · rw [gatherLast_setup, release_setup]
      rfl
    · rfl
  · rfl

theorem apply_setup (loop : ClosedLoop) (turn : Turn) : (loop.apply turn).setup = loop.setup := by
  cases turn with
  | run =>
      cases ready : loop.ready with
      | nil => rw [apply_run, run_nil ready]
      | cons job rest =>
          cases job with
          | driver => rw [apply_run, run_driver ready, wake_setup]; rfl
          | start id => rw [apply_run, run_start ready, begin_setup]; rfl
          | settle id => rw [apply_run, run_settle ready, settle_setup]; rfl
  | answer id outcome => exact answer_setup loop id outcome

/-- No sequence of turns changes how a run was set up. -/
theorem replay_setup (loop : ClosedLoop) (turns : List Turn) : (loop.replay turns).setup = loop.setup := by
  induction turns generalizing loop with
  | nil => rfl
  | cons turn rest induction => rw [replay_cons, induction, apply_setup]

theorem replay_keyPrefix (loop : ClosedLoop) (turns : List Turn) :
    (loop.replay turns).keyPrefix = loop.keyPrefix :=
  congrArg (fun setup => setup.2.1) (replay_setup loop turns)

theorem replay_breaksOff (loop : ClosedLoop) (turns : List Turn) :
    (loop.replay turns).breaksOff = loop.breaksOff :=
  congrArg (fun setup => setup.2.2) (replay_setup loop turns)

/-- A job run with its call answered at once is a turn or two. -/
theorem runAnswering_replay (respond : Nat → Order → String → Sample) (loop : ClosedLoop) :
    ∃ turns, loop.runAnswering respond = loop.replay turns := by
  unfold runAnswering
  split
  · rename_i id _ _
    split
    · rename_i submission _
      exact ⟨[.run, .answer id (.returned (respond id submission.order submission.key))], rfl⟩
    · exact ⟨[.run], rfl⟩
  · exact ⟨[.run], rfl⟩

/-- A run whose calls are answered at once is one sequence of turns. -/
theorem runAnswered_replay (respond : Nat → Order → String → Sample) :
    ∀ (fuel : Nat) (loop : ClosedLoop), ∃ turns, loop.runAnswered respond fuel = loop.replay turns := by
  intro fuel
  induction fuel with
  | zero => exact fun loop => ⟨[], rfl⟩
  | succ fuel induction =>
      intro loop
      unfold runAnswered
      split
      · exact ⟨[], rfl⟩
      · obtain ⟨first, stepped⟩ := runAnswering_replay respond loop
        obtain ⟨rest, ran⟩ := induction (loop.runAnswering respond)
        exact ⟨first ++ rest, by rw [ran, stepped, replay_append]⟩

end ClosedLoop

/-- What `closedLoop` returns with whole slots is the report of its run, every
call answered at once, and that run has finished. -/
theorem closedLoop_ok_answered {c : Int} (atLeastOne : 1 ≤ c) {keyPrefix : Value} {source : OrderSource}
    {respond : Nat → Order → String → Sample} {run : ClosedRun}
    (ran : closedLoop (.int c) keyPrefix source respond = .ok run) :
    let loop := (ClosedLoop.start (some c.toNat) keyPrefix source).runAnswered respond
      (3 * source.orders.length + 1)
    loop.phase = .finished ∧ run = loop.result := by
  intro loop
  unfold closedLoop at ran
  rw [slotLimit_int_of_one_le atLeastOne] at ran
  dsimp only at ran
  split at ran
  · rename_i finished
    exact ⟨finished, (Except.ok.inj ran).symm⟩
  · cases ran

/-- What `closedLoop` returns with whole slots is what a finished run of
some sequence of turns reports. -/
theorem closedLoop_ok_replay {c : Int} (atLeastOne : 1 ≤ c) {keyPrefix : Value} {source : OrderSource}
    {respond : Nat → Order → String → Sample} {run : ClosedRun}
    (ran : closedLoop (.int c) keyPrefix source respond = .ok run) :
    ∃ turns, ((ClosedLoop.start (some c.toNat) keyPrefix source).replay turns).phase = .finished ∧
      run = ((ClosedLoop.start (some c.toNat) keyPrefix source).replay turns).result := by
  obtain ⟨finished, reported⟩ := closedLoop_ok_answered atLeastOne ran
  obtain ⟨turns, same⟩ := ClosedLoop.runAnswered_replay respond (3 * source.orders.length + 1)
    (ClosedLoop.start (some c.toNat) keyPrefix source)
  rw [same] at finished reported
  exact ⟨turns, finished, reported⟩

end LoadHarness
