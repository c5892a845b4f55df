import Mathlib
import LoadHarness.Proofs.ClosedLoop.Slots

/-!
# A closed loop whose calls are answered at once finishes

`closedLoop` runs the event loop for at most `3 n + 1` jobs, each call of the
target answered as it is made.  That is enough.  Every order costs at most
three jobs: the driver's turn that issues it once a slot is handed over, its
first step and its completion callback; the driver's first turn and the turn
that ends a drained run are paid for by orders issued without a handover.
`jobsLeft` counts this bound and drops with every job
(`jobsLeft_runAnswering`), so the run stops with no job ready.

A run that stops has finished, or its source broke off (`Live.stopped`): a
driver that waits, for a slot or for the last submissions, has a submission
outstanding, and `Moving` says an outstanding submission always has its next
job ready.  So `closedLoop` returns a run for every source that does not break
off (`closedLoop_finishes`).
-/

namespace LoadHarness

open Closed

namespace Closed

/-- The job a submission waits for: its first step while queued, its
completion callback once its call has ended. -/
def Submission.nextJob (submission : Submission) (id : Nat) : Option Job :=
  match submission.stage with
  | .queued => some (.start id)
  | .finished _ => some (.settle id)
  | _ => none

/-- The jobs a ready job stands for when calls are answered at once: a first
step queues a completion callback. -/
def Job.weight : Job → Nat
  | .start _ => 2
  | _ => 1

/-- The turn a waiting or draining driver is still owed. -/
def Phase.owed : Phase → Nat
  | .waiting | .draining => 1
  | _ => 0

theorem Submission.nextJob_eq_some {submission : Submission} {id : Nat} {job : Job}
    (next : submission.nextJob id = some job) :
    (submission.stage = .queued ∧ job = .start id) ∨
      ∃ outcome, submission.stage = .finished outcome ∧ job = .settle id := by
  unfold Submission.nextJob at next
  split at next
  · rename_i queued
    exact .inl ⟨queued, (Option.some.inj next).symm⟩
  · rename_i outcome done
    exact .inr ⟨outcome, done, (Option.some.inj next).symm⟩
  · cases next

/-- Only submission `id` waits for a job of submission `id`. -/
theorem Submission.nextJob_owner {submission : Submission} {other id : Nat}
    (next : submission.nextJob other = some (.start id) ∨ submission.nextJob other = some (.settle id)) :
    other = id := by
  rcases next with next | next
  all_goals
    rcases Submission.nextJob_eq_some next with ⟨-, same⟩ | ⟨-, -, same⟩
    all_goals first | exact (Job.start.inj same).symm | exact (Job.settle.inj same).symm | cases same

theorem Job.one_le_weight (job : Job) : 1 ≤ job.weight := by
  cases job <;> simp [Job.weight]

end Closed

namespace ClosedLoop

/-! ### Outstanding submissions have their next job ready -/

/-- Every submission's next job is ready, and no call is in progress: each
is answered as it is made. -/
structure Moving (submissions : List Closed.Submission) (ready : List Job) : Prop where
  next : ∀ (id : Nat) (submission : Closed.Submission), submissions[id]? = some submission →
    ∀ job, submission.nextJob id = some job → job ∈ ready
  answered : ∀ submission ∈ submissions, submission.stage ≠ .calling

section Moving

variable {submissions : List Closed.Submission} {ready : List Job}

theorem Moving.grow (moving : Moving submissions ready) (more : List Job) :
    Moving submissions (ready ++ more) :=
  ⟨fun id submission found job next => List.mem_append_left more (moving.next id submission found job next),
    moving.answered⟩

/-- A job no submission waits for can leave the queue. -/
theorem Moving.pop {job : Job} {rest : List Job} (moving : Moving submissions (job :: rest))
    (unowned : ∀ (id : Nat) (submission : Closed.Submission), submissions[id]? = some submission →
      submission.nextJob id ≠ some job) :
    Moving submissions rest :=
  ⟨fun id submission found job' next =>
      List.mem_of_ne_of_mem (fun (same : job' = job) => unowned id submission found (same ▸ next))
        (moving.next id submission found job' next),
    moving.answered⟩

/-- A new queued submission, its first step queued behind the ready jobs. -/
theorem Moving.issue (moving : Moving submissions ready) (order : Order) (key : String) :
    Moving (submissions ++ [{ order := order, key := key }]) (ready ++ [.start submissions.length]) := by
  constructor
  · intro id submission found job next
    rcases getElem?_append_singleton_eq_some found with ⟨-, old⟩ | ⟨here, rfl⟩
    · exact List.mem_append_left _ (moving.next id submission old job next)
    · simp only [Closed.Submission.nextJob, Option.some.injEq] at next
      simp [← next, here]
  · intro submission member
    rcases List.mem_append.mp member with old | new
    · exact moving.answered submission old
    · rw [List.mem_singleton.mp new]
      nofun

/-- The job of submission `id` leaves the queue and the submission moves on
to a stage that is not calling, its next job, if any, among the later ones. -/
theorem Moving.advance {id : Nat} {job : Job} {rest more : List Job} {changed : Closed.Submission}
    (moving : Moving submissions (job :: rest)) (within : id < submissions.length)
    (owned : ∀ other (submission : Closed.Submission), submission.nextJob other = some job → other = id)
    (next : ∀ job', changed.nextJob id = some job' → job' ∈ rest ++ more)
    (answered : changed.stage ≠ .calling) :
    Moving (submissions.set id changed) (rest ++ more) := by
  constructor
  · intro other submission found job' next'
    by_cases here : id = other
    · subst here
      rw [List.getElem?_set_self within] at found
      cases found
      exact next job' next'
    · rw [List.getElem?_set_ne here] at found
      have listed := moving.next other submission found job' next'
      have notThis : job' ≠ job := fun same => here (owned other submission (same ▸ next')).symm
      exact List.mem_append_left more (List.mem_of_ne_of_mem notThis listed)
  · intro submission member
    rcases List.mem_or_eq_of_mem_set member with old | new
    · exact moving.answered submission old
    · rw [new]
      exact answered

end Moving

/-! ### What keeps a run moving -/

/-- A run whose calls are answered at once can always go on until it has
finished or its source broke off: submissions have their next job ready, an
admitting, handed or drained driver has its turn ready, a driver waiting for a
slot or handed one still has an order to issue, a draining driver still waits
for a submission, and only a source that breaks off fails the run. -/
structure Live (loop : ClosedLoop) : Prop where
  moving : Moving loop.submissions loop.ready
  driver : loop.phase = .admitting ∨ loop.phase = .handed ∨ loop.phase = .drained → .driver ∈ loop.ready
  owedOrder : loop.phase = .waiting ∨ loop.phase = .handed → loop.orders ≠ []
  draining : loop.phase = .draining → ∃ submission ∈ loop.submissions, submission.isSettled = false
  failed : loop.phase = .failed → loop.breaksOff = true

variable {slots total : Nat} {loop : ClosedLoop}

theorem live_start (keyPrefix : Value) (source : OrderSource) (limit : Option Nat) :
    Live (start limit keyPrefix source) where
  moving := ⟨fun _ _ found => by simp [start] at found, fun _ member => by simp [start] at member⟩
  driver := fun _ => List.mem_singleton_self _
  owedOrder := fun waits => by simp [start] at waits
  draining := fun draining => by simp [start] at draining
  failed := fun failed => by simp [start] at failed

/-- The driver's loop over the orders keeps the submissions moving and leaves
the driver waiting with an order to issue, failed by its source, finished, or
draining with a submission outstanding. -/
theorem Live.issueAll (moving : Moving loop.submissions loop.ready) : Live (loop.issueAll loop.orders) := by
  refine issueAll_induction (fun loop => Moving loop.submissions loop.ready) Live ?_ ?_ ?_ loop.orders loop
    rfl moving
  · intro loop taken order rest moving _ acquired
    rcases acquire_eq_some acquired with ⟨-, rfl⟩ | ⟨-, -, rfl⟩
    all_goals exact moving.issue order _
  · intro loop moving _
    unfold exhaust
    split
    · rename_i breaks
      exact ⟨moving, by simp, by simp, by simp, fun _ => breaks⟩
    · split
      · exact ⟨moving, by simp, by simp, by simp, by simp⟩
      · rename_i _ unsettled
        refine ⟨moving, by simp, by simp, fun _ => ?_, by simp⟩
        simpa [List.all_eq_true] using unsettled
  · intro loop order rest moving pulled _
    exact ⟨moving, by simp, fun _ => by simp [pulled], by simp, by simp⟩

/-- The driver's turn. -/
theorem Live.runDriver {rest : List Job} (live : Live loop) (ready : loop.ready = .driver :: rest) :
    Live loop.run := by
  have moving := live.moving
  rw [ready] at moving
  replace moving : Moving loop.submissions rest := moving.pop fun id submission _ next => by
    rcases Closed.Submission.nextJob_eq_some next with ⟨-, same⟩ | ⟨-, -, same⟩ <;> cases same
  -- split on the driver's phase before the popped state, which holds it, is in the goal
  cases phase : loop.phase with
  | admitting =>
      rw [run_driver ready, @wake_admitting { loop with ready := rest } phase]
      exact Live.issueAll moving
  | handed =>
      cases pulled : loop.orders with
      | nil => exact absurd pulled (live.owedOrder (.inr phase))
      | cons order later =>
          rw [run_driver ready, @wake_handed { loop with ready := rest } order later phase pulled]
          exact Live.issueAll (moving.issue order _)
  | drained =>
      rw [run_driver ready, @wake_drained { loop with ready := rest } phase]
      exact ⟨moving, by simp, by simp, by simp, by simp⟩
  | waiting | draining | finished | failed =>
      rw [run_driver ready, @wake_of_idle { loop with ready := rest } (by simp [phase])]
      exact ⟨moving, by simp [phase], live.owedOrder, live.draining, live.failed⟩

/-- The first step of a submission, its call answered at once. -/
theorem Live.runStart (respond : Nat → Order → String → Sample) {id : Nat} {rest : List Job}
    (live : Live loop) (ready : loop.ready = .start id :: rest) :
    Live (loop.runAnswering respond) := by
  have moving := live.moving
  rw [ready] at moving
  have driver : loop.phase = .admitting ∨ loop.phase = .handed ∨ loop.phase = .drained → .driver ∈ rest :=
    fun waits => List.mem_of_ne_of_mem (by simp) (ready ▸ live.driver waits)
  cases found : loop.submissions[id]? with
  | none =>
      rw [runAnswering_missing respond ready found]
      refine ⟨moving.pop fun other submission found' next => ?_, driver, live.owedOrder, live.draining,
        live.failed⟩
      have here := Closed.Submission.nextJob_owner (.inl next)
      simp [here, found] at found'
  | some submission =>
      have within := (List.getElem?_eq_some_iff.mp found).1
      by_cases queued : submission.stage = .queued
      · -- the call is made and answered: the submission waits for its completion callback
        rw [runAnswering_queued respond ready found queued]
        refine ⟨moving.advance within (fun other _ next => Closed.Submission.nextJob_owner (.inl next))
          (fun job next => ?_) nofun, fun waits => List.mem_append_left _ (driver waits), live.owedOrder,
          fun _ => ⟨_, List.mem_set within _, rfl⟩, live.failed⟩
        simp only [Closed.Submission.nextJob, Option.some.injEq] at next
        simp [← next]
      · have calling := live.moving.answered submission (List.mem_of_getElem? found)
        rw [runAnswering_started respond ready found queued calling]
        refine ⟨moving.pop fun other submission' found' next => ?_, driver, live.owedOrder, live.draining,
          live.failed⟩
        have here := Closed.Submission.nextJob_owner (.inl next)
        subst here
        rw [found] at found'
        cases found'
        rcases Closed.Submission.nextJob_eq_some next with ⟨stage, -⟩ | ⟨-, -, same⟩
        · exact queued stage
        · cases same

/-- Freeing a slot and waking a drained driver keep a run moving once the
completion callback has run. -/
theorem Live.releaseGather (moving : Moving loop.submissions loop.ready)
    (driver : loop.phase = .admitting ∨ loop.phase = .handed ∨ loop.phase = .drained → .driver ∈ loop.ready)
    (owedOrder : loop.phase = .waiting ∨ loop.phase = .handed → loop.orders ≠ [])
    (failed : loop.phase = .failed → loop.breaksOff = true) :
    Live loop.release.gatherLast := by
  obtain ⟨-, submissions₁, -, -, orders₁, -, -, -, breaksOff₁⟩ := release_frame loop
  obtain ⟨-, submissions₂, -, -, orders₂, -, -, -, -, breaksOff₂⟩ := gatherLast_frame loop.release
  -- the ready jobs only grow, so the submissions keep moving
  have moving₁ : Moving loop.release.submissions loop.release.ready := by
    rw [submissions₁]
    rcases release_phase loop with ⟨-, same⟩ | ⟨-, -, more⟩
    · rwa [same]
    · rw [more]
      exact moving.grow _
  have moving₂ : Moving loop.release.gatherLast.submissions loop.release.gatherLast.ready := by
    rw [submissions₂]
    rcases gatherLast_phase loop.release with ⟨-, same, -⟩ | ⟨-, -, -, more⟩
    · rwa [same]
    · rw [more]
      exact moving₁.grow _
  rcases release_phase loop with ⟨phase₁, ready₁⟩ | ⟨waiting, handed, ready₁⟩
  · rcases gatherLast_phase loop.release with ⟨phase₂, ready₂, notDrained⟩ | ⟨-, -, drained, ready₂⟩
    · refine ⟨moving₂, ?_, ?_, fun draining => ?_, ?_⟩
      · rw [phase₂, phase₁, ready₂, ready₁]
        exact driver
      · rw [phase₂, phase₁, orders₂, orders₁]
        exact owedOrder
      · rw [phase₂] at draining
        have unsettled : ¬ loop.release.submissions.all Closed.Submission.isSettled :=
          fun all => notDrained ⟨draining, all⟩
        rw [submissions₂]
        simpa [List.all_eq_true] using unsettled
      · rw [phase₂, phase₁, breaksOff₂, breaksOff₁]
        exact failed
    · refine ⟨moving₂, fun _ => ?_, by simp [drained], by simp [drained], by simp [drained]⟩
      rw [ready₂]
      exact List.mem_append_right _ (List.mem_singleton_self _)
  · rcases gatherLast_phase loop.release with ⟨phase₂, ready₂, -⟩ | ⟨draining, -, -, -⟩
    · refine ⟨moving₂, fun _ => ?_, fun _ => ?_, by simp [phase₂, handed], by simp [phase₂, handed]⟩
      · rw [ready₂, ready₁]
        exact List.mem_append_right _ (List.mem_singleton_self _)
      · rw [orders₂, orders₁]
        exact owedOrder (.inl waiting)
    · simp [handed] at draining

/-- The completion callback of a submission. -/
theorem Live.runSettle {id : Nat} {rest : List Job} (live : Live loop) (ready : loop.ready = .settle id :: rest) :
    Live loop.run := by
  rw [run_settle ready]
  have moving := live.moving
  rw [ready] at moving
  have driver : loop.phase = .admitting ∨ loop.phase = .handed ∨ loop.phase = .drained → .driver ∈ rest :=
    fun waits => List.mem_of_ne_of_mem (by simp) (ready ▸ live.driver waits)
  by_cases done : ∃ submission outcome, loop.submissions[id]? = some submission ∧
      submission.stage = .finished outcome
  · obtain ⟨submission, outcome, found, done⟩ := done
    have within := (List.getElem?_eq_some_iff.mp found).1
    rw [@settle_of_finished { loop with ready := rest } id submission outcome found done]
    have settled : Moving (loop.submissions.set id { submission with stage := .settled outcome }) (rest ++ []) :=
      moving.advance within (fun other _ next => Closed.Submission.nextJob_owner (.inr next))
        (fun _ next => by simp [Closed.Submission.nextJob] at next) nofun
    rw [List.append_nil] at settled
    exact Live.releaseGather settled driver live.owedOrder live.failed
  · rw [@settle_of_not_finished { loop with ready := rest } id fun submission outcome found finished =>
      done ⟨submission, outcome, found, finished⟩]
    refine ⟨moving.pop fun other submission found next => ?_, driver, live.owedOrder, live.draining,
      live.failed⟩
    have here := Closed.Submission.nextJob_owner (.inr next)
    subst here
    rcases Closed.Submission.nextJob_eq_some next with ⟨-, same⟩ | ⟨outcome, finished, -⟩
    · cases same
    · exact done ⟨submission, outcome, found, finished⟩

/-- Every job, its call answered at once, keeps a run moving. -/
theorem Live.runAnswering (respond : Nat → Order → String → Sample) (live : Live loop) :
    Live (loop.runAnswering respond) := by
  cases ready : loop.ready with
  | nil =>
      have idle : loop.runAnswering respond = loop := by simp [ClosedLoop.runAnswering, run, ready]
      rwa [idle]
  | cons job rest =>
      cases job with
      | driver => rw [runAnswering_driver respond ready]; exact live.runDriver ready
      | start id => exact live.runStart respond ready
      | settle id => rw [runAnswering_settle respond ready]; exact live.runSettle ready

/-! ### The jobs left -/

/-- The jobs left for the orders not pulled yet and for the ready jobs. -/
def pendingJobs (loop : ClosedLoop) : Nat := 3 * loop.orders.length + (loop.ready.map Job.weight).sum

/-- A bound on the jobs a run whose calls are answered at once has left: the
pending jobs and the turn a waiting or draining driver is owed. -/
def jobsLeft (loop : ClosedLoop) : Nat := loop.pendingJobs + loop.phase.owed

theorem jobsLeft_start (keyPrefix : Value) (source : OrderSource) (limit : Option Nat) :
    (start limit keyPrefix source).jobsLeft = 3 * source.orders.length + 1 := by
  simp [jobsLeft, pendingJobs, start, Job.weight, Closed.Phase.owed]

theorem Closed.Phase.owed_le_one (phase : Phase) : phase.owed ≤ 1 := by
  cases phase <;> simp [Closed.Phase.owed]

theorem pendingJobs_pop {job : Job} {rest : List Job} (ready : loop.ready = job :: rest) :
    ({ loop with ready := rest } : ClosedLoop).pendingJobs + job.weight = loop.pendingJobs := by
  simp only [pendingJobs, ready, List.map_cons, List.sum_cons]
  omega

/-- The driver's loop over the orders trades each order it issues, three
pending jobs, for the two of its first step: the pending jobs drop by the
submissions issued. -/
theorem issueAll_pendingJobs (loop : ClosedLoop) :
    (loop.issueAll loop.orders).pendingJobs + (loop.issueAll loop.orders).submissions.length =
        loop.pendingJobs + loop.submissions.length ∧
      loop.submissions.length ≤ (loop.issueAll loop.orders).submissions.length := by
  refine issueAll_induction
    (fun next => next.pendingJobs + next.submissions.length = loop.pendingJobs + loop.submissions.length ∧
      loop.submissions.length ≤ next.submissions.length)
    (fun next => next.pendingJobs + next.submissions.length = loop.pendingJobs + loop.submissions.length ∧
      loop.submissions.length ≤ next.submissions.length) ?_ ?_ ?_ loop.orders loop rfl ⟨rfl, Nat.le_refl _⟩
  · intro next taken order rest ⟨budget, grown⟩ pulled acquired
    generalize loop.pendingJobs + loop.submissions.length = total at budget ⊢
    rcases acquire_eq_some acquired with ⟨-, rfl⟩ | ⟨-, -, rfl⟩
    all_goals
      simp only [pendingJobs, ClosedLoop.issue, pulled, List.map_append, List.sum_append, List.length_append,
        List.map_cons, List.map_nil, List.sum_cons, List.sum_nil, List.length_cons, List.length_nil,
        Job.weight] at budget ⊢
      omega
  · intro next holds _
    rw [exhaust_frame]
    exact holds
  · intro next _ _ holds _ _
    exact holds

/-- The driver's first turn, from a run with nothing issued, leaves at most
the pending jobs it found: a driver left waiting or draining has issued an
order, which pays for the turn it is owed. -/
theorem jobsLeft_issueAll (loop : ClosedLoop) (none : loop.submissions = [])
    (issued : (loop.issueAll loop.orders).phase.owed ≠ 0 → 0 < (loop.issueAll loop.orders).submissions.length) :
    (loop.issueAll loop.orders).jobsLeft ≤ loop.pendingJobs := by
  obtain ⟨budget, -⟩ := issueAll_pendingJobs loop
  rw [none, List.length_nil, Nat.add_zero] at budget
  have owed := Closed.Phase.owed_le_one (loop.issueAll loop.orders).phase
  unfold jobsLeft
  by_cases waits : (loop.issueAll loop.orders).phase.owed = 0
  · omega
  · have pos := issued waits
    omega

/-- The driver's loop over the orders adds at most the turn a waiting or
draining driver is owed to the pending jobs. -/
theorem jobsLeft_issueAll_le (loop : ClosedLoop) : (loop.issueAll loop.orders).jobsLeft ≤ loop.pendingJobs + 1 := by
  obtain ⟨budget, grown⟩ := issueAll_pendingJobs loop
  have owed := Closed.Phase.owed_le_one (loop.issueAll loop.orders).phase
  unfold jobsLeft
  omega

/-- A driver handed a slot issues its next order at once: its three pending
jobs become the two of the order's first step and callback, which pays for
the turn the driver may then be owed. -/
theorem jobsLeft_wake_handed {order : Order} {rest : List Order} (phase : loop.phase = .handed)
    (pulled : loop.orders = order :: rest) : loop.wake.jobsLeft ≤ loop.pendingJobs := by
  rw [wake_handed phase pulled]
  have bound := jobsLeft_issueAll_le ({ loop with orders := rest, phase := .admitting }.issue order)
  have pending : ({ loop with orders := rest, phase := .admitting }.issue order).pendingJobs + 1 =
      loop.pendingJobs := by
    simp only [pendingJobs, ClosedLoop.issue, pulled, List.length_cons, List.map_append, List.sum_append,
      List.map_cons, List.map_nil, List.sum_cons, List.sum_nil, Job.weight]
    omega
  exact Nat.le_trans bound (by omega)

theorem jobsLeft_release (loop : ClosedLoop) : loop.release.jobsLeft = loop.jobsLeft := by
  have orders := (release_frame loop).2.2.2.2.1
  rcases release_phase loop with ⟨phase, ready⟩ | ⟨waiting, handed, ready⟩
  · simp only [jobsLeft, pendingJobs, phase, ready, orders]
  · simp only [jobsLeft, pendingJobs, waiting, handed, ready, orders, List.map_append, List.sum_append,
      List.map_cons, List.map_nil, List.sum_cons, List.sum_nil, Job.weight, Closed.Phase.owed]
    omega

theorem jobsLeft_gatherLast (loop : ClosedLoop) : loop.gatherLast.jobsLeft = loop.jobsLeft := by
  have orders := (gatherLast_frame loop).2.2.2.2.1
  rcases gatherLast_phase loop with ⟨phase, ready, -⟩ | ⟨draining, -, drained, ready⟩
  · simp only [jobsLeft, pendingJobs, phase, ready, orders]
  · simp only [jobsLeft, pendingJobs, draining, drained, ready, orders, List.map_append, List.sum_append,
      List.map_cons, List.map_nil, List.sum_cons, List.sum_nil, Job.weight, Closed.Phase.owed]
    omega

/-- A completion callback costs nothing beyond its own job: the driver turn
it may queue is the one a waiting or draining driver was owed. -/
theorem jobsLeft_settle (loop : ClosedLoop) (id : Nat) : (loop.settle id).jobsLeft = loop.jobsLeft := by
  unfold settle
  split
  · split
    · rw [jobsLeft_gatherLast, jobsLeft_release]
      rfl
    · rfl
  · rfl

/-- A driver that waits for a slot or for the last submissions has a
submission outstanding. -/
theorem submissions_pos_of_owed (sound : SlotsSound slots total loop) (positive : 0 < slots) (live : Live loop)
    (owed : loop.phase.owed ≠ 0) : 0 < loop.submissions.length := by
  cases phase : loop.phase with
  | waiting =>
      have conserved := sound.conserved
      have free := sound.waiting phase
      simp only [phase, reduceCtorEq, if_false, free] at conserved
      have counted : loop.submissions.countP (fun submission => !submission.isSettled) ≤
          loop.submissions.length := List.countP_le_length
      rw [← sound.outstanding] at counted
      omega
  | draining =>
      obtain ⟨submission, member, -⟩ := live.draining phase
      exact List.length_pos_of_mem member
  | admitting | handed | drained | finished | failed =>
      simp [phase, Closed.Phase.owed] at owed

/-- Every job, its call answered at once, lowers the jobs left. -/
theorem jobsLeft_runAnswering (respond : Nat → Order → String → Sample) (sound : SlotsSound slots total loop)
    (positive : 0 < slots) (live : Live loop) (busy : loop.ready ≠ []) :
    (loop.runAnswering respond).jobsLeft + 1 ≤ loop.jobsLeft := by
  cases ready : loop.ready with
  | nil => exact absurd ready busy
  | cons job rest =>
      have popped := pendingJobs_pop ready
      cases job with
      | driver =>
          have after := submissions_pos_of_owed (sound.run) positive (live.runDriver ready)
          rw [runAnswering_driver respond ready]
          simp only [Job.weight] at popped
          cases phase : loop.phase with
          | admitting =>
              rw [run_driver ready, @wake_admitting { loop with ready := rest } phase] at after ⊢
              have bound := jobsLeft_issueAll { loop with ready := rest } (sound.fresh phase) after
              have owed : loop.jobsLeft = loop.pendingJobs := by simp [jobsLeft, phase, Closed.Phase.owed]
              omega
          | handed =>
              cases pulled : loop.orders with
              | nil => exact absurd pulled (live.owedOrder (.inr phase))
              | cons order later =>
                  rw [run_driver ready]
                  have bound := @jobsLeft_wake_handed { loop with ready := rest } order later phase pulled
                  have owed : loop.jobsLeft = loop.pendingJobs := by simp [jobsLeft, phase, Closed.Phase.owed]
                  omega
          | drained =>
              rw [run_driver ready, @wake_drained { loop with ready := rest } phase]
              simp only [jobsLeft, phase, Closed.Phase.owed, Nat.add_zero]
              exact Nat.le_of_eq popped
          | waiting | draining | finished | failed =>
              rw [run_driver ready, @wake_of_idle { loop with ready := rest } (by simp [phase])]
              simp only [jobsLeft]
              omega
      | start id =>
          simp only [Job.weight] at popped
          cases found : loop.submissions[id]? with
          | none =>
              rw [runAnswering_missing respond ready found]
              simp only [jobsLeft]
              omega
          | some submission =>
              by_cases queued : submission.stage = .queued
              · rw [runAnswering_queued respond ready found queued]
                simp only [jobsLeft, pendingJobs, List.map_append, List.sum_append, List.map_cons,
                  List.map_nil, List.sum_cons, List.sum_nil, Job.weight] at popped ⊢
                omega
              · rw [runAnswering_started respond ready found queued
                  (live.moving.answered submission (List.mem_of_getElem? found))]
                simp only [jobsLeft]
                omega
      | settle id =>
          rw [runAnswering_settle respond ready, run_settle ready, jobsLeft_settle]
          simp only [Job.weight] at popped
          simp only [jobsLeft]
          omega

/-! ### A run stops only when it is over -/

/-- With no job ready, every submission has settled. -/
theorem Live.settled_of_idle (live : Live loop) (idle : loop.ready = []) :
    ∀ submission ∈ loop.submissions, submission.isSettled = true := by
  intro submission member
  obtain ⟨id, found⟩ := List.mem_iff_getElem?.mp member
  have waiting := live.moving.next id submission found
  rw [idle] at waiting
  have calling := live.moving.answered submission member
  unfold Closed.Submission.nextJob at waiting
  unfold Closed.Submission.isSettled
  split at waiting
  · exact absurd (waiting _ rfl) (List.not_mem_nil)
  · exact absurd (waiting _ rfl) (List.not_mem_nil)
  · split
    · rfl
    · rename_i notSettled
      cases stage : submission.stage with
      | queued => simp_all
      | calling => exact absurd stage calling
      | finished outcome => simp_all
      | settled outcome => exact absurd stage (notSettled outcome)

/-- A run with no job ready has finished, or its source broke off. -/
theorem Live.stopped (live : Live loop) (sound : SlotsSound slots total loop) (positive : 0 < slots)
    (idle : loop.ready = []) : loop.phase = .finished ∨ loop.phase = .failed := by
  have settled := live.settled_of_idle idle
  cases phase : loop.phase with
  | finished => exact .inl rfl
  | failed => exact .inr rfl
  | admitting | handed | drained =>
      have driver := live.driver (by simp [phase])
      simp [idle] at driver
  | waiting =>
      -- every slot is taken, so some submission is outstanding
      have outstanding := submissions_pos_of_owed sound positive live (by simp [phase, Closed.Phase.owed])
      have conserved := sound.conserved
      have free := sound.waiting phase
      simp only [phase, reduceCtorEq, if_false, free, Nat.zero_add] at conserved
      have none : loop.submissions.countP (fun submission => !submission.isSettled) = 0 :=
        List.countP_eq_zero.mpr fun submission member => by simp [settled submission member]
      rw [← sound.outstanding] at none
      omega
  | draining =>
      obtain ⟨submission, member, unsettled⟩ := live.draining phase
      simp [settled submission member] at unsettled

/-- Enough jobs, each call answered at once, bring a run to a stop. -/
theorem runAnswered_idle (respond : Nat → Order → String → Sample) (positive : 0 < slots) :
    ∀ (fuel : Nat) (loop : ClosedLoop), SlotsSound slots total loop → Live loop → loop.jobsLeft ≤ fuel →
      (loop.runAnswered respond fuel).ready = [] ∧ SlotsSound slots total (loop.runAnswered respond fuel) ∧
        Live (loop.runAnswered respond fuel) := by
  intro fuel
  induction fuel with
  | zero =>
      intro loop sound live bound
      cases ready : loop.ready with
      | nil => exact ⟨ready, sound, live⟩
      | cons job rest =>
          have popped := pendingJobs_pop ready
          have weight := job.one_le_weight
          simp only [jobsLeft] at bound
          omega
  | succ fuel induction =>
      intro loop sound live bound
      unfold runAnswered
      split
      · rename_i idle
        exact ⟨idle, sound, live⟩
      · rename_i job rest ready
        obtain ⟨turns, answered⟩ := runAnswering_replay respond loop
        have sound' : SlotsSound slots total (loop.runAnswering respond) := answered ▸ sound.replay turns
        have lower := jobsLeft_runAnswering respond sound positive live (by simp [ready])
        exact induction _ sound' (live.runAnswering respond) (by omega)

end ClosedLoop

/-- A closed loop of whole slots, at least one, over a source that does not
break off always returns a run: its `3 n + 1` jobs are enough. -/
theorem closedLoop_finishes {c : Int} (atLeastOne : 1 ≤ c) (keyPrefix : Value) (source : OrderSource)
    (steady : source.breaksOff = false) (respond : Nat → Order → String → Sample) :
    ∃ run, closedLoop (.int c) keyPrefix source respond = .ok run := by
  have positive : 0 < c.toNat := by omega
  obtain ⟨idle, sound, live⟩ := ClosedLoop.runAnswered_idle respond positive (3 * source.orders.length + 1)
    (ClosedLoop.start (some c.toNat) keyPrefix source) (ClosedLoop.slots_sound_start c.toNat keyPrefix source)
    (ClosedLoop.live_start keyPrefix source _) (Nat.le_of_eq (ClosedLoop.jobsLeft_start keyPrefix source _))
  unfold closedLoop
  rw [slotLimit_int_of_one_le atLeastOne]
  dsimp only
  rcases live.stopped sound positive idle with finished | failed
  · rw [finished]
    exact ⟨_, rfl⟩
  · -- the source never breaks off, and no move changes that
    have breaks := live.failed failed
    obtain ⟨turns, same⟩ := ClosedLoop.runAnswered_replay respond (3 * source.orders.length + 1)
      (ClosedLoop.start (some c.toNat) keyPrefix source)
    have stillSteady : (ClosedLoop.runAnswered respond (3 * source.orders.length + 1)
        (ClosedLoop.start (some c.toNat) keyPrefix source)).breaksOff = false := by
      rw [same, ClosedLoop.replay_breaksOff]
      exact steady
    rw [stillSteady] at breaks
    cases breaks

end LoadHarness
