import Mathlib
import LoadHarness.Proofs.ClosedLoop.Moves

/-!
# The calls and records of a closed loop

Whatever order the target ends its calls in, a closed loop calls the target
once for each order, in the order of the batch, the `i`-th call with the
`i`-th order and the key `prefix-i`; and it records the sample of each call.

`CallsSound` is what every state of a run keeps about its calls: the orders
issued and those not pulled yet make up the batch; submission `id` has the
key `prefix-(id+1)`; the calls made are those of the first submissions, in
order; exactly the submissions not called yet are queued, and their first
steps wait in the ready queue in issue order, since the event loop runs its
jobs first in first out; and a drained or finished run has settled every
submission.  So a finished run has called every order (`CallsSound.finished`).

`Records` is what every state keeps about outcomes: the samples recorded are
those of the settled submissions, in the order they settled, and every call
that has ended did so with an outcome that `holds` for it, such as one a turn
gave it.
-/

namespace LoadHarness

open Closed

namespace Closed

/-- The submission a job is the first step of. -/
def Job.started? : Job → Option Nat
  | .start id => some id
  | _ => none

/-- The outcome a submission's call ended with, once it has ended. -/
def Submission.outcome? (submission : Submission) : Option Outcome :=
  match submission.stage with
  | .finished outcome => some outcome
  | .settled outcome => some outcome
  | _ => none

end Closed

namespace ClosedLoop

/-! ### Calls in issue order -/

/-- What every state of a run over the batch `orders` keeps about its calls. -/
structure CallsSound (orders : List Order) (loop : ClosedLoop) : Prop where
  pulled : loop.submissions.map Closed.Submission.order ++ loop.orders = orders
  keyed : loop.submissions.map Closed.Submission.key =
    (List.range loop.submissions.length).map fun (id : Nat) => idempotencyKey loop.keyPrefix (.int (id + 1))
  called : loop.calls =
    (loop.submissions.take loop.calls.length).map fun submission => (submission.order, submission.key)
  callsLe : loop.calls.length ≤ loop.submissions.length
  queued : ∀ id submission, loop.submissions[id]? = some submission →
    (submission.stage = .queued ↔ loop.calls.length ≤ id)
  starts : loop.ready.filterMap Job.started? =
    List.range' loop.calls.length (loop.submissions.length - loop.calls.length)
  settledAll : loop.phase = .drained ∨ loop.phase = .finished →
    ∀ submission ∈ loop.submissions, submission.isSettled = true

variable {orders : List Order} {loop : ClosedLoop}

/-- Moving a submission to another stage keeps whatever `f` sees of it. -/
theorem map_set_stage {β : Type} (f : Closed.Submission → β) {submissions : List Closed.Submission} {id : Nat}
    {submission : Closed.Submission} (stage : Closed.Stage) (found : submissions[id]? = some submission)
    (same : f { submission with stage } = f submission) :
    (submissions.set id { submission with stage }).map f = submissions.map f :=
  map_set_of_getElem? found same

theorem calls_sound_start (limit : Option Nat) (keyPrefix : Value) (source : OrderSource) :
    CallsSound source.orders (start limit keyPrefix source) where
  pulled := by simp [start]
  keyed := by simp [start]
  called := by simp [start]
  callsLe := by simp [start]
  queued := by simp [start]
  starts := by simp [start, Job.started?]
  settledAll := by simp [start]

/-- A job that is no first step leaves the queue of first steps as it was. -/
theorem CallsSound.pop {job : Job} {rest : List Job} (sound : CallsSound orders loop)
    (ready : loop.ready = job :: rest) (notStart : job.started? = none) :
    CallsSound orders { loop with ready := rest } :=
  ⟨sound.pulled, sound.keyed, sound.called, sound.callsLe, sound.queued,
    by rw [← sound.starts, ready, List.filterMap_cons_none notStart], sound.settledAll⟩

theorem CallsSound.withPhase (sound : CallsSound orders loop) (phase : Phase)
    (settled : phase = .drained ∨ phase = .finished → ∀ submission ∈ loop.submissions, submission.isSettled = true) :
    CallsSound orders { loop with phase } :=
  ⟨sound.pulled, sound.keyed, sound.called, sound.callsLe, sound.queued, sound.starts, settled⟩

/-- The driver issues the next order of the batch under the next key; its
first step is queued last. -/
theorem CallsSound.issue {order : Order} {rest : List Order} (sound : CallsSound orders loop)
    (pulled : loop.orders = order :: rest) (admitting : loop.phase = .admitting) :
    CallsSound orders ({ loop with orders := rest }.issue order) := by
  have callsLe := sound.callsLe
  constructor
  · simp only [ClosedLoop.issue, List.map_append, List.map_cons, List.map_nil, List.append_assoc,
      List.singleton_append]
    rw [← pulled]
    exact sound.pulled
  · simp only [ClosedLoop.issue, List.map_append, List.length_append, List.length_cons, List.length_nil,
      List.range_succ, sound.keyed, List.map_cons, List.map_nil]
  · simp only [ClosedLoop.issue, List.take_append_of_le_length callsLe]
    exact sound.called
  · simp only [ClosedLoop.issue, List.length_append]
    omega
  · intro id submission found
    simp only [ClosedLoop.issue] at found ⊢
    rcases getElem?_append_singleton_eq_some found with ⟨-, old⟩ | ⟨last, rfl⟩
    · exact sound.queued id submission old
    · exact ⟨fun _ => by omega, fun _ => rfl⟩
  · -- the new first step extends the run of waiting first steps by one
    have started : [Job.start loop.submissions.length].filterMap Job.started? = [loop.submissions.length] := rfl
    simp only [ClosedLoop.issue, List.filterMap_append, sound.starts, List.length_append, List.length_cons,
      List.length_nil, started]
    have extended := @List.range'_append loop.calls.length (loop.submissions.length - loop.calls.length) 1 1
    rw [Nat.one_mul, Nat.add_sub_cancel' callsLe, List.range'_one] at extended
    rw [extended]
    congr 1
    omega
  · intro ended
    simp [ClosedLoop.issue, admitting] at ended

theorem CallsSound.exhaust (sound : CallsSound orders loop) : CallsSound orders loop.exhaust := by
  rw [exhaust_eq]
  refine sound.withPhase _ fun ended => ?_
  split at ended
  · simp at ended
  · split at ended
    · rename_i _ allSettled
      exact List.all_eq_true.mp allSettled
    · simp at ended

/-- The driver's loop over the orders, from an admitting driver. -/
theorem CallsSound.issueAll (sound : CallsSound orders loop) (admitting : loop.phase = .admitting) :
    CallsSound orders (loop.issueAll loop.orders) := by
  refine issueAll_induction (fun loop => CallsSound orders loop ∧ loop.phase = .admitting) (CallsSound orders)
    ?_ ?_ ?_ loop.orders loop rfl ⟨sound, admitting⟩
  · intro loop taken order rest ⟨sound, admitting⟩ pulled acquired
    rcases acquire_eq_some acquired with ⟨-, rfl⟩ | ⟨-, -, rfl⟩
    · exact ⟨sound.issue pulled admitting, admitting⟩
    · have freed : CallsSound orders { loop with free := loop.free - 1 } :=
        ⟨sound.1, sound.2, sound.3, sound.4, sound.5, sound.6, sound.7⟩
      exact ⟨freed.issue pulled admitting, admitting⟩
  · intro loop ⟨sound, _⟩ _
    exact sound.exhaust
  · intro loop _ _ ⟨sound, _⟩ _ _
    exact sound.withPhase .waiting (by simp)

/-- The driver's turn. -/
theorem CallsSound.runDriver {rest : List Job} (sound : CallsSound orders loop)
    (ready : loop.ready = .driver :: rest) : CallsSound orders loop.run := by
  have popped := sound.pop ready rfl
  cases phase : loop.phase with
  | admitting =>
      rw [run_driver ready, @wake_admitting { loop with ready := rest } phase]
      exact popped.issueAll phase
  | handed =>
      cases pulled : loop.orders with
      | nil =>
          rw [run_driver ready, @wake_of_idle { loop with ready := rest } (by simp [phase, pulled])]
          exact popped
      | cons order later =>
          rw [run_driver ready, @wake_handed { loop with ready := rest } order later phase pulled]
          have admitted := popped.withPhase .admitting (by simp)
          exact (admitted.issue pulled rfl).issueAll rfl
  | drained =>
      rw [run_driver ready, @wake_drained { loop with ready := rest } phase]
      exact popped.withPhase .finished fun _ => sound.settledAll (.inl phase)
  | waiting | draining | finished | failed =>
      rw [run_driver ready, @wake_of_idle { loop with ready := rest } (by simp [phase])]
      exact popped

/-- The first waiting first step is that of the first submission not
called yet: it calls the target with that submission's order and key. -/
theorem CallsSound.runStart {id : Nat} {rest : List Job} (sound : CallsSound orders loop)
    (ready : loop.ready = .start id :: rest) : CallsSound orders loop.run := by
  have starts := sound.starts
  have callsLe := sound.callsLe
  rw [ready, List.filterMap_cons_some (show Job.started? (.start id) = some id from rfl)] at starts
  -- the queue of first steps is not empty, so it starts at the first submission not called yet
  obtain ⟨waiting, gap, next, later⟩ : ∃ waiting, loop.submissions.length - loop.calls.length = waiting + 1 ∧
      id = loop.calls.length ∧ rest.filterMap Job.started? = List.range' (loop.calls.length + 1) waiting := by
    cases gap : loop.submissions.length - loop.calls.length with
    | zero => simp [gap] at starts
    | succ waiting =>
        rw [gap, List.range'_succ] at starts
        exact ⟨waiting, rfl, (List.cons.inj starts).1, (List.cons.inj starts).2⟩
  subst next
  obtain ⟨submission, found⟩ : ∃ submission, loop.submissions[loop.calls.length]? = some submission :=
    List.getElem?_eq_some_iff.mpr ⟨by omega, rfl⟩ |> fun found => ⟨_, found⟩
  have within := (List.getElem?_eq_some_iff.mp found).1
  have queued := (sound.queued _ submission found).mpr (Nat.le_refl _)
  rw [run_start ready, @begin_of_queued { loop with ready := rest } _ submission found queued]
  constructor
  all_goals dsimp only
  · rw [map_set_stage Closed.Submission.order .calling found rfl]
    exact sound.pulled
  · rw [map_set_stage Closed.Submission.key .calling found rfl, List.length_set]
    exact sound.keyed
  · simp only [List.length_append, List.length_cons, List.length_nil, List.take_add_one,
      List.getElem?_set_self within, Option.toList_some, List.take_set_of_le (Nat.le_refl _), List.map_append,
      List.map_cons, List.map_nil]
    rw [← sound.called]
  · simp only [List.length_append, List.length_set, List.length_cons, List.length_nil]
    omega
  · intro other submission' found'
    simp only [List.length_append, List.length_cons, List.length_nil]
    by_cases here : loop.calls.length = other
    · subst here
      rw [List.getElem?_set_self within] at found'
      cases found'
      simp
    · rw [List.getElem?_set_ne here] at found'
      rw [sound.queued other submission' found']
      omega
  · simp only [List.length_append, List.length_set, List.length_cons, List.length_nil]
    rw [later]
    congr 1
    omega
  · -- a run that has drained has no queued submission left to call
    intro ended
    have settled := sound.settledAll ended _ (List.mem_of_getElem? found)
    simp [Closed.Submission.isSettled, queued] at settled

/-- A call ends: the submissions called and the queue of first steps stay as
they were. -/
theorem CallsSound.answer (sound : CallsSound orders loop) (id : Nat) (outcome : Outcome) :
    CallsSound orders (loop.answer id outcome) := by
  by_cases calling : ∃ submission, loop.submissions[id]? = some submission ∧ submission.stage = .calling
  · obtain ⟨submission, found, calling⟩ := calling
    have within := (List.getElem?_eq_some_iff.mp found).1
    rw [answer_of_calling outcome found calling]
    constructor
    all_goals dsimp only
    · rw [map_set_stage Closed.Submission.order (.finished outcome) found rfl]
      exact sound.pulled
    · rw [map_set_stage Closed.Submission.key (.finished outcome) found rfl, List.length_set]
      exact sound.keyed
    · rw [List.map_take, map_set_stage (fun submission => (submission.order, submission.key)) (.finished outcome) found rfl, ← List.map_take]
      exact sound.called
    · rw [List.length_set]
      exact sound.callsLe
    · intro other submission' found'
      by_cases here : id = other
      · subst here
        rw [List.getElem?_set_self within] at found'
        cases found'
        rw [← sound.queued id submission found, calling]
        simp
      · rw [List.getElem?_set_ne here] at found'
        exact sound.queued other submission' found'
    · rw [List.filterMap_append, List.length_set, sound.starts]
      simp [Job.started?]
    · intro ended
      have settled := sound.settledAll ended _ (List.mem_of_getElem? found)
      simp [Closed.Submission.isSettled, calling] at settled
  · rw [answer_of_not_calling outcome fun submission found calling' => calling ⟨submission, found, calling'⟩]
    exact sound

/-- The completion callback changes no call; a run drains only once every
submission has settled. -/
theorem CallsSound.runSettle {id : Nat} {rest : List Job} (sound : CallsSound orders loop)
    (ready : loop.ready = .settle id :: rest) : CallsSound orders loop.run := by
  have popped := sound.pop ready rfl
  rw [run_settle ready]
  by_cases done : ∃ submission outcome, loop.submissions[id]? = some submission ∧
      submission.stage = .finished outcome
  · obtain ⟨submission, outcome, found, done⟩ := done
    have within := (List.getElem?_eq_some_iff.mp found).1
    rw [@settle_of_finished { loop with ready := rest } id submission outcome found done]
    generalize settledEq : ({ loop with
      ready := rest
      submissions := loop.submissions.set id { submission with stage := .settled outcome }
      inFlight := loop.inFlight - 1
      recorded := loop.recorded ++ outcome.sample?.toList } : ClosedLoop) = settled
    have settledSound : CallsSound orders settled := by
      subst settledEq
      constructor
      all_goals dsimp only
      · rw [map_set_stage Closed.Submission.order (.settled outcome) found rfl]
        exact sound.pulled
      · rw [map_set_stage Closed.Submission.key (.settled outcome) found rfl, List.length_set]
        exact sound.keyed
      · rw [List.map_take, map_set_stage (fun submission => (submission.order, submission.key)) (.settled outcome) found rfl, ← List.map_take]
        exact sound.called
      · rw [List.length_set]
        exact sound.callsLe
      · intro other submission' found'
        by_cases here : id = other
        · subst here
          rw [List.getElem?_set_self within] at found'
          cases found'
          rw [← sound.queued id submission found, done]
          simp
        · rw [List.getElem?_set_ne here] at found'
          exact sound.queued other submission' found'
      · rw [List.length_set]
        exact popped.starts
      · -- a drained run had settled every submission, this one included
        intro ended
        have settled := sound.settledAll ended _ (List.mem_of_getElem? found)
        simp [Closed.Submission.isSettled, done] at settled
    obtain ⟨-, submissions₁, -, -, orders₁, -, calls₁, keyPrefix₁, -⟩ := release_frame settled
    obtain ⟨-, submissions₂, -, -, orders₂, -, calls₂, -, keyPrefix₂, -⟩ := gatherLast_frame settled.release
    have starts₁ : settled.release.ready.filterMap Job.started? = settled.ready.filterMap Job.started? := by
      rcases release_phase settled with ⟨-, same⟩ | ⟨-, -, more⟩
      · rw [same]
      · simp [more, Job.started?]
    have starts₂ : settled.release.gatherLast.ready.filterMap Job.started? =
        settled.release.ready.filterMap Job.started? := by
      rcases gatherLast_phase settled.release with ⟨-, same, -⟩ | ⟨-, -, -, more⟩
      · rw [same]
      · simp [more, Job.started?]
    refine ⟨?_, ?_, ?_, ?_, ?_, ?_, ?_⟩
    · rw [submissions₂, submissions₁, orders₂, orders₁]
      exact settledSound.pulled
    · rw [submissions₂, submissions₁, keyPrefix₂, keyPrefix₁]
      exact settledSound.keyed
    · rw [submissions₂, submissions₁, calls₂, calls₁]
      exact settledSound.called
    · rw [submissions₂, submissions₁, calls₂, calls₁]
      exact settledSound.callsLe
    · rw [submissions₂, submissions₁, calls₂, calls₁]
      exact settledSound.queued
    · rw [starts₂, starts₁, submissions₂, submissions₁, calls₂, calls₁]
      exact settledSound.starts
    · intro ended
      rw [submissions₂, submissions₁]
      rcases gatherLast_phase settled.release with ⟨same, -, -⟩ | ⟨-, allSettled, -, -⟩
      · rw [same] at ended
        rcases release_phase settled with ⟨same', -⟩ | ⟨-, handed, -⟩
        · rw [same'] at ended
          exact settledSound.settledAll ended
        · simp [handed] at ended
      · rw [submissions₁] at allSettled
        exact List.all_eq_true.mp allSettled
  · rw [@settle_of_not_finished { loop with ready := rest } id fun submission outcome found finished =>
      done ⟨submission, outcome, found, finished⟩]
    exact popped

theorem CallsSound.run (sound : CallsSound orders loop) : CallsSound orders loop.run := by
  cases ready : loop.ready with
  | nil => rwa [run_nil ready]
  | cons job rest =>
      cases job with
      | driver => exact sound.runDriver ready
      | start id => exact sound.runStart ready
      | settle id => exact sound.runSettle ready

theorem CallsSound.apply (sound : CallsSound orders loop) (turn : Turn) : CallsSound orders (loop.apply turn) := by
  cases turn with
  | run => exact sound.run
  | answer id outcome => exact sound.answer id outcome

/-- Every sequence of turns keeps the calls in issue order. -/
theorem CallsSound.replay (sound : CallsSound orders loop) (turns : List Turn) :
    CallsSound orders (loop.replay turns) := by
  induction turns generalizing loop with
  | nil => exact sound
  | cons turn rest induction => exact induction (sound.apply turn)

/-- A finished run has issued and called every order of the batch, in order,
the `i`-th under the key `prefix-i`. -/
theorem CallsSound.finished (sound : CallsSound orders loop) (pulledAll : loop.orders = [])
    (finished : loop.phase = .finished) :
    loop.submissions.map Closed.Submission.order = orders ∧
      loop.calls = loop.submissions.map fun submission => (submission.order, submission.key) := by
  have pulled := sound.pulled
  rw [pulledAll, List.append_nil] at pulled
  -- nothing is queued any more, so every submission has been called
  have calledAll : loop.submissions.length ≤ loop.calls.length := by
    cases empty : loop.submissions.length with
    | zero => exact Nat.zero_le _
    | succ last =>
        obtain ⟨submission, found⟩ : ∃ submission, loop.submissions[last]? = some submission :=
          ⟨_, List.getElem?_eq_some_iff.mpr ⟨by omega, rfl⟩⟩
        have settled := sound.settledAll (.inr finished) _ (List.mem_of_getElem? found)
        have notQueued : ¬ submission.stage = .queued := by
          intro queued
          simp [Closed.Submission.isSettled, queued] at settled
        rw [sound.queued last submission found] at notQueued
        omega
  refine ⟨pulled, ?_⟩
  rw [sound.called, List.take_of_length_le calledAll]

/-! ### Records and outcomes -/

/-- What every state of a run keeps about outcomes: the samples recorded are
those of the settled submissions, and every call that has ended did so with an
outcome that `holds` for its number, order and key. -/
structure Records (holds : Nat → Order → String → Outcome → Prop) (loop : ClosedLoop) : Prop where
  recorded : loop.recorded.Perm (loop.submissions.filterMap Closed.Submission.sample?)
  outcomes : ∀ id submission outcome, loop.submissions[id]? = some submission →
    submission.outcome? = some outcome → holds id submission.order submission.key outcome

/-- Replacing an item that `f` drops changes the items `f` keeps by what it
keeps of the new one. -/
theorem filterMap_set_perm {α β : Type} {f : α → Option β} {items : List α} {id : Nat} {item : α}
    (found : items[id]? = some item) (dropped : f item = none) (changed : α) :
    ((items.set id changed).filterMap f).Perm (items.filterMap f ++ (f changed).toList) := by
  have within := (List.getElem?_eq_some_iff.mp found).1
  have split : items = items.take id ++ item :: items.drop (id + 1) := by
    rw [← (List.getElem?_eq_some_iff.mp found).2, List.getElem_cons_drop, List.take_append_drop]
  have rebuilt : items.set id changed = items.take id ++ changed :: items.drop (id + 1) := by
    rw [List.set_eq_take_append_cons_drop, if_pos within]
  have kept : items.filterMap f = (items.take id).filterMap f ++ (items.drop (id + 1)).filterMap f := by
    conv => lhs; rw [split]
    rw [List.filterMap_append, List.filterMap_cons_none dropped]
  rw [rebuilt, kept, List.filterMap_append]
  cases given : f changed with
  | none => simp [List.filterMap_cons_none given]
  | some sample =>
      rw [List.filterMap_cons_some given, Option.toList_some, List.append_assoc]
      exact List.Perm.append_left _ (List.perm_append_singleton _ _).symm

variable {holds : Nat → Order → String → Outcome → Prop}

/-- The records see only the submissions and the samples recorded. -/
theorem Records.frame {other : ClosedLoop} (records : Records holds loop)
    (submissions : other.submissions = loop.submissions) (recorded : other.recorded = loop.recorded) :
    Records holds other :=
  ⟨by rw [submissions, recorded]; exact records.recorded, by rw [submissions]; exact records.outcomes⟩

theorem records_start (limit : Option Nat) (keyPrefix : Value) (source : OrderSource) :
    Records holds (start limit keyPrefix source) :=
  ⟨by simp [start], by simp [start]⟩

/-- Moving a submission on without ending or settling its call. -/
theorem Records.setOpen {id : Nat} {submission : Closed.Submission} {stage : Closed.Stage}
    (records : Records holds loop) (found : loop.submissions[id]? = some submission)
    (stillOpen : ({ submission with stage } : Closed.Submission).outcome? = none)
    (unrecorded : submission.sample? = none) (stillUnrecorded : ({ submission with stage } : Closed.Submission).sample? = none)
    (ready : List Job) (calls : List (Order × String)) :
    Records holds { loop with submissions := loop.submissions.set id { submission with stage }, ready, calls } := by
  constructor
  · have moved := @filterMap_set_perm _ _ Closed.Submission.sample? _ _ _ found unrecorded { submission with stage }
    rw [stillUnrecorded, Option.toList_none, List.append_nil] at moved
    exact records.recorded.trans moved.symm
  · intro other submission' outcome found' ended
    by_cases here : id = other
    · subst here
      rw [List.getElem?_set_self (List.getElem?_eq_some_iff.mp found).1] at found'
      cases found'
      rw [stillOpen] at ended
      cases ended
    · rw [List.getElem?_set_ne here] at found'
      exact records.outcomes other submission' outcome found' ended

theorem Records.issue (records : Records holds loop) (order : Order) : Records holds (loop.issue order) := by
  constructor
  · simp only [ClosedLoop.issue, List.filterMap_append, List.filterMap_cons, List.filterMap_nil,
      Closed.Submission.sample?, List.append_nil]
    exact records.recorded
  · intro id submission outcome found ended
    rcases getElem?_append_singleton_eq_some found with ⟨-, old⟩ | ⟨-, rfl⟩
    · exact records.outcomes id submission outcome old ended
    · simp [Closed.Submission.outcome?] at ended

theorem Records.issueAll (records : Records holds loop) : Records holds (loop.issueAll loop.orders) := by
  refine issueAll_induction (Records holds) (Records holds) ?_ ?_ ?_ loop.orders loop rfl records
  · intro loop taken order rest records _ acquired
    have pulledRecords : Records holds { taken with orders := rest } := by
      rcases acquire_eq_some acquired with ⟨-, rfl⟩ | ⟨-, -, rfl⟩
      all_goals exact ⟨records.1, records.2⟩
    exact pulledRecords.issue order
  · intro loop records _
    rw [exhaust_frame]
    exact records.frame rfl rfl
  · intro loop _ _ records _ _
    exact records.frame rfl rfl

theorem Records.wake (records : Records holds loop) : Records holds loop.wake := by
  cases phase : loop.phase with
  | admitting =>
      rw [wake_admitting phase]
      exact records.issueAll
  | handed =>
      cases pulled : loop.orders with
      | nil =>
          rw [wake_of_idle (by simp [phase, pulled])]
          exact records
      | cons order rest =>
          rw [wake_handed phase pulled]
          have admitted : Records holds { loop with orders := rest, phase := .admitting } := records.frame rfl rfl
          exact (admitted.issue order).issueAll
  | drained =>
      rw [wake_drained phase]
      exact records.frame rfl rfl
  | waiting | draining | finished | failed =>
      rw [wake_of_idle (by simp [phase])]
      exact records

theorem Records.begin (records : Records holds loop) (id : Nat) : Records holds (loop.begin id) := by
  by_cases queued : ∃ submission, loop.submissions[id]? = some submission ∧ submission.stage = .queued
  · obtain ⟨submission, found, queued⟩ := queued
    rw [begin_of_queued found queued]
    exact records.setOpen found rfl (by simp [Closed.Submission.sample?, queued]) rfl loop.ready _
  · rw [begin_of_not_queued fun submission found queued' => queued ⟨submission, found, queued'⟩]
    exact records

/-- A call ends with an outcome that `holds` for it. -/
theorem Records.answer {id : Nat} {outcome : Outcome} (records : Records holds loop)
    (given : ∀ submission, loop.submissions[id]? = some submission → submission.stage = .calling →
      holds id submission.order submission.key outcome) :
    Records holds (loop.answer id outcome) := by
  by_cases calling : ∃ submission, loop.submissions[id]? = some submission ∧ submission.stage = .calling
  · obtain ⟨submission, found, calling⟩ := calling
    rw [answer_of_calling outcome found calling]
    constructor
    · have moved := @filterMap_set_perm _ _ Closed.Submission.sample? _ _ _ found
        (by simp [Closed.Submission.sample?, calling]) { submission with stage := .finished outcome }
      simp only [Closed.Submission.sample?, Option.toList_none, List.append_nil] at moved
      exact records.recorded.trans moved.symm
    · intro other submission' outcome' found' ended
      by_cases here : id = other
      · subst here
        rw [List.getElem?_set_self (List.getElem?_eq_some_iff.mp found).1] at found'
        cases found'
        simp only [Closed.Submission.outcome?, Option.some.injEq] at ended
        rw [← ended]
        exact given submission found calling
      · rw [List.getElem?_set_ne here] at found'
        exact records.outcomes other submission' outcome' found' ended
  · rw [answer_of_not_calling outcome fun submission found calling' => calling ⟨submission, found, calling'⟩]
    exact records

/-- The completion callback records the sample of the call's outcome. -/
theorem Records.settle (records : Records holds loop) (id : Nat) : Records holds (loop.settle id) := by
  by_cases done : ∃ submission outcome, loop.submissions[id]? = some submission ∧
      submission.stage = .finished outcome
  · obtain ⟨submission, outcome, found, done⟩ := done
    rw [settle_of_finished found done]
    generalize settledEq : ({ loop with
      submissions := loop.submissions.set id { submission with stage := .settled outcome }
      inFlight := loop.inFlight - 1
      recorded := loop.recorded ++ outcome.sample?.toList } : ClosedLoop) = settled
    have settledRecords : Records holds settled := by
      subst settledEq
      constructor
      · have moved := @filterMap_set_perm _ _ Closed.Submission.sample? _ _ _ found
          (by simp [Closed.Submission.sample?, done]) { submission with stage := .settled outcome }
        exact (records.recorded.append_right _).trans moved.symm
      · intro other submission' outcome' found' ended
        by_cases here : id = other
        · subst here
          rw [List.getElem?_set_self (List.getElem?_eq_some_iff.mp found).1] at found'
          cases found'
          exact records.outcomes id submission outcome' found (by simpa [Closed.Submission.outcome?, done] using ended)
        · rw [List.getElem?_set_ne here] at found'
          exact records.outcomes other submission' outcome' found' ended
    obtain ⟨-, submissions₁, -, -, -, recorded₁, -⟩ := release_frame settled
    obtain ⟨-, submissions₂, -, -, -, recorded₂, -⟩ := gatherLast_frame settled.release
    constructor
    · rw [submissions₂, submissions₁, recorded₂, recorded₁]
      exact settledRecords.recorded
    · rw [submissions₂, submissions₁]
      exact settledRecords.outcomes
  · rw [settle_of_not_finished fun submission outcome found finished => done ⟨submission, outcome, found, finished⟩]
    exact records

theorem Records.run (records : Records holds loop) : Records holds loop.run := by
  unfold ClosedLoop.run
  split
  · exact records
  all_goals
    rename_i rest _
    have popped : Records holds { loop with ready := rest } := records.frame rfl rfl
  · exact popped.wake
  · exact popped.begin _
  · exact popped.settle _

theorem Records.weaken {holds' : Nat → Order → String → Outcome → Prop} (records : Records holds loop)
    (weaker : ∀ id order key outcome, holds id order key outcome → holds' id order key outcome) :
    Records holds' loop :=
  ⟨records.recorded, fun id submission outcome found ended =>
    weaker _ _ _ _ (records.outcomes id submission outcome found ended)⟩

/-- The outcome of every call that has ended is one a turn gave it. -/
def AnsweredIn (turns : List Turn) (id : Nat) (_ : Order) (_ : String) (outcome : Outcome) : Prop :=
  Turn.answer id outcome ∈ turns

/-- Every sequence of turns records the samples of the settled submissions,
each call ended by one of its turns. -/
theorem Records.replay {earlier : List Turn} (records : Records (AnsweredIn earlier) loop) (turns : List Turn) :
    Records (AnsweredIn (earlier ++ turns)) (loop.replay turns) := by
  induction turns generalizing earlier loop with
  | nil => simpa using records
  | cons turn rest induction =>
      rw [replay_cons, ← List.singleton_append, ← List.append_assoc]
      apply induction
      cases turn with
      | run =>
          exact (records.weaken fun _ _ _ _ given => List.mem_append_left _ given).run
      | answer id outcome =>
          refine (records.weaken fun _ _ _ _ given => List.mem_append_left _ given).answer fun _ _ _ => ?_
          exact List.mem_append_right _ (List.mem_singleton_self _)


/-- Each call answered at once with the sample `respond` gives for its number, order and key. -/
def Responded (respond : Nat → Order → String → Sample) (id : Nat) (order : Order) (key : String)
    (outcome : Outcome) : Prop :=
  outcome = .returned (respond id order key)

/-- A first step changes the stage of a submission, never its order or key. -/
theorem begin_keeps_call {id : Nat} {submission submission' : Closed.Submission}
    (found : loop.submissions[id]? = some submission)
    (found' : (loop.begin id).submissions[id]? = some submission') :
    submission'.order = submission.order ∧ submission'.key = submission.key := by
  by_cases queued : submission.stage = .queued
  · rw [begin_of_queued found queued, List.getElem?_set_self (List.getElem?_eq_some_iff.mp found).1] at found'
    cases found'
    exact ⟨rfl, rfl⟩
  · rw [begin_of_not_queued fun submission'' found'' => by rw [found] at found''; cases found''; exact queued,
      found] at found'
    cases found'
    exact ⟨rfl, rfl⟩

theorem Records.runAnswering (respond : Nat → Order → String → Sample)
    (records : Records (Responded respond) loop) : Records (Responded respond) (loop.runAnswering respond) := by
  cases ready : loop.ready with
  | nil => simpa [ClosedLoop.runAnswering, ready] using records.run
  | cons job rest =>
      cases job with
      | driver =>
          rw [runAnswering_driver respond ready]
          exact records.run
      | settle id =>
          rw [runAnswering_settle respond ready]
          exact records.run
      | start id =>
          cases found : loop.submissions[id]? with
          | none =>
              rw [runAnswering_missing respond ready found]
              exact records.frame rfl rfl
          | some submission =>
              -- the call the first step makes is answered with the sample for its own order and key
              rw [runAnswering_start respond ready found]
              refine records.run.answer fun submission' found' _ => ?_
              rw [run_start ready] at found'
              obtain ⟨sameOrder, sameKey⟩ := @begin_keeps_call { loop with ready := rest } id _ _ found found'
              rw [sameOrder, sameKey]
              rfl

theorem Records.runAnswered (respond : Nat → Order → String → Sample) :
    ∀ (fuel : Nat) {loop : ClosedLoop}, Records (Responded respond) loop →
      Records (Responded respond) (loop.runAnswered respond fuel)
  | 0, _, records => records
  | fuel + 1, loop, records => by
      unfold ClosedLoop.runAnswered
      split
      · exact records
      · exact Records.runAnswered respond fuel (records.runAnswering respond)

/-! ### What a finished run holds -/

/-- The outcome call `id` ended with; cancelled while it has not ended. -/
def outcomeOf (loop : ClosedLoop) (id : Nat) : Outcome :=
  ((loop.submissions[id]?).bind Closed.Submission.outcome?).getD .cancelled

theorem isSettled_iff {submission : Closed.Submission} :
    submission.isSettled = true ↔ ∃ outcome, submission.stage = .settled outcome := by
  unfold Closed.Submission.isSettled
  split <;> simp_all

/-- Once every submission has settled, submission `id` records the sample of
the outcome of call `id`. -/
theorem sample_of_settled {id : Nat} {submission : Closed.Submission}
    (settled : ∀ submission ∈ loop.submissions, submission.isSettled = true)
    (found : loop.submissions[id]? = some submission) :
    submission.sample? = (loop.outcomeOf id).sample? ∧ submission.outcome? = some (loop.outcomeOf id) := by
  obtain ⟨outcome, stage⟩ := isSettled_iff.1 (settled _ (List.mem_of_getElem? found))
  have ended : submission.outcome? = some outcome := by simp [Closed.Submission.outcome?, stage]
  simp [Closed.Submission.sample?, outcomeOf, found, ended, stage]

/-- Once every submission has settled, the samples recorded are those of the
calls' outcomes, and each call ended with an outcome that `holds` for it. -/
theorem Records.settled (records : Records holds loop)
    (settled : ∀ submission ∈ loop.submissions, submission.isSettled = true) :
    loop.recorded.Perm ((List.range loop.submissions.length).filterMap fun id => (loop.outcomeOf id).sample?) ∧
      ∀ id submission, loop.submissions[id]? = some submission →
        holds id submission.order submission.key (loop.outcomeOf id) := by
  have samples : loop.submissions.map Closed.Submission.sample? =
      (List.range loop.submissions.length).map fun id => (loop.outcomeOf id).sample? := by
    apply List.ext_getElem (by simp)
    intro id within _
    simp only [List.getElem_map, List.getElem_range]
    exact (sample_of_settled settled (List.getElem?_eq_getElem (by simpa using within))).1
  constructor
  · have kept := congrArg (List.filterMap id) samples
    simp only [List.filterMap_map, Function.id_comp] at kept
    exact records.recorded.trans (by rw [← kept])
  · intro id submission found
    exact records.outcomes id submission _ found (sample_of_settled settled found).2

/-- A finished run over the batch `orders`, with every order pulled: it has
called each order once, in order, under the keys `prefix-1` to `prefix-n`; the
samples it recorded are those of the calls' outcomes, and call `id` ended with
an outcome that `holds` for the `id`-th order and key. -/
theorem Records.finished (records : Records holds loop) (sound : CallsSound orders loop)
    (pulledAll : loop.orders = []) (finished : loop.phase = .finished) :
    let keys := (List.range orders.length).map fun (id : Nat) => idempotencyKey loop.keyPrefix (.int (id + 1))
    loop.calls = orders.zip keys ∧ loop.result.keys = keys ∧ loop.result.clients = orders.map Order.clientId ∧
      loop.result.samples.Perm ((List.range orders.length).filterMap fun id => (loop.outcomeOf id).sample?) ∧
      ∀ id (within : id < orders.length),
        holds id orders[id] (idempotencyKey loop.keyPrefix (.int (id + 1))) (loop.outcomeOf id) := by
  intro keys
  obtain ⟨issued, called⟩ := sound.finished pulledAll finished
  have counted : loop.submissions.length = orders.length := by rw [← issued, List.length_map]
  have keyed : loop.submissions.map Closed.Submission.key = keys := by rw [sound.keyed, counted]
  obtain ⟨recorded, outcomes⟩ := records.settled (sound.settledAll (.inr finished))
  refine ⟨by rw [called, ← issued, ← keyed, List.zip_map'], keyed, ?_, by rw [← counted]; exact recorded, ?_⟩
  · -- the clients are read off the calls
    simp only [ClosedLoop.result, called, List.map_map, ← issued]
    rfl
  · intro id within
    have inside : id < loop.submissions.length := by omega
    have order := List.getElem_of_eq issued (by simpa using inside)
    have key := List.getElem_of_eq keyed (by simpa using inside)
    simp only [List.getElem_map, List.getElem_range, keys] at order key
    rw [← order, ← key]
    exact outcomes id _ (List.getElem?_eq_getElem inside)

/-- Calls answered with what `respond` gives record those answers, in call order. -/
theorem filterMap_responded {respond : Nat → Order → String → Sample} {orders : List Order} {keyPrefix : Value}
    (answered : ∀ id (within : id < orders.length),
      Responded respond id orders[id] (idempotencyKey keyPrefix (.int (id + 1))) (loop.outcomeOf id)) :
    (List.range orders.length).filterMap (fun id => (loop.outcomeOf id).sample?) =
      orders.mapIdx fun i order => respond i order (idempotencyKey keyPrefix (.int (i + 1))) := by
  have answer : ∀ id ∈ List.range orders.length, (loop.outcomeOf id).sample? =
      some (respond id (orders.getD id default) (idempotencyKey keyPrefix (.int (id + 1)))) := by
    intro id within
    have inside := List.mem_range.1 within
    rw [show loop.outcomeOf id = _ from answered id inside, List.getD_eq_getElem _ _ inside]
    rfl
  rw [List.filterMap_congr answer, List.filterMap_eq_map']
  apply List.ext_getElem (by simp)
  intro id within _
  have inside : id < orders.length := by simpa using within
  simp [List.getElem?_eq_getElem inside]

end ClosedLoop

end LoadHarness
