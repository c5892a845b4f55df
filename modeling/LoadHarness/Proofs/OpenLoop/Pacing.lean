import LoadHarness.Loop.Paced
import LoadHarness.Proofs.OpenLoop.Ledger

/-!
# Issuing the arrivals of a paced run

A paced run serves its arrivals in index order, each once, and counts each as
issued or dropped: after any number of passes, the arrivals scheduled are those
the driver has reached, one submission stands for each issued arrival, and each
submission serves a later arrival than the one before it.  Before the drain
begins, no event of a submission (a step, its timer, the handling of its end)
moves the driver or queues its resumption: only the driver's own timer does
(`arrivals_issued_in_order`).  Completions never hold the arrivals back.

They can still move an arrival in time.  A timer fires once it lies less than
the clock's resolution ahead of the reading, so a timer of the target that falls
just before an arrival is due wakes the driver in the same pass, and the arrival
is served before it is due (`early_timer_serves_arrival_early`).

The invariant is `IssueSound`.  The driver's part of it, `Issued k`, says that
the first `k` arrivals have been scheduled; each event handled in a pass keeps
the invariant, hence so does every pass.
-/

namespace LoadHarness

section Modify

variable {α β : Type}

theorem map_modify_of_keeps {g : α → β} {f : α → α} (keeps : ∀ x, g (f x) = g x) :
    ∀ (l : List α) (i : Nat), (l.modify i f).map g = l.map g
  | [], _ => by simp
  | x :: l, 0 => by simp [keeps]
  | x :: l, i + 1 => by simp [map_modify_of_keeps keeps l i]

end Modify

namespace DriverStage

/-- How many of `arrivals` arrivals the driver has served in this stage: those
before `next` while it is still arriving, all of them afterwards. -/
def served (arrivals : Nat) : DriverStage → Nat
  | .arriving next | .pausing next => next
  | _ => arrivals

/-- Whether the drain has not begun: the driver is still serving arrivals, or
waiting out the duration. -/
def beforeDrain : DriverStage → Bool
  | .arriving _ | .pausing _ | .holding => true
  | _ => false

end DriverStage

namespace Event

/-- Whether the event belongs to the driver: its resumption, or a timer it set
(its sleep, the end of the grace period). -/
def wakesDriver : Event → Bool
  | .resumeDriver => true
  | .fire timer =>
      match timer.wakes with
      | .submission _ => false
      | _ => true
  | _ => false

end Event

namespace Submission

/-- Whether the drain listens for the end of the submission. -/
def listened (submission : Submission) : Bool := submission.watched || submission.gathered

end Submission

namespace PacedRun

/-- What the issuing of arrivals has done: the arrivals offered, the pool's
counts of arrivals, issues and drops, and the arrival each submission serves. -/
def issues (run : PacedRun) : Nat × Nat × Nat × Nat × List Nat :=
  (run.arrivals, run.pool.scheduled, run.pool.issued, run.pool.dropped,
    run.submissions.toList.map Submission.arrival)

/-- No drain listens yet: there is no wait, and no submission is watched or
gathered. -/
structure Calm (run : PacedRun) : Prop where
  unwaited : run.wait = none
  unlistened : ∀ s ∈ run.submissions.toList, s.listened = false

/-- The first `k` arrivals, and no others, have been scheduled: each one issued
or dropped, one submission for each issued arrival, in the order of the
arrivals they serve. -/
structure Issued (k : Nat) (run : PacedRun) : Prop where
  ledger : run.pool.scheduled = run.pool.issued + run.pool.dropped
  submitted : run.submissions.size = run.pool.issued
  ordered : (run.submissions.toList.map Submission.arrival).Pairwise (· < ·)
  earlier : ∀ a ∈ run.submissions.toList.map Submission.arrival, a < k
  scheduled : run.pool.scheduled = k
  within : k ≤ run.arrivals

/-- The invariant of a paced run of `n` arrivals: the arrivals the driver has
reached are the ones scheduled, an arrival it sleeps for is still to come, and
before the drain nothing listens. -/
structure IssueSound (n : Nat) (run : PacedRun) : Prop where
  offered : run.arrivals = n
  issued : Issued (run.driver.served n) run
  pausing : ∀ next, run.driver = .pausing next → next < n
  calm : run.driver.beforeDrain = true → run.Calm

/-! ### Frames -/

theorem Issued.keep {k : Nat} {run run' : PacedRun} (issued : Issued k run)
    (same : run'.issues = run.issues) : Issued k run' := by
  simp only [issues, Prod.mk.injEq] at same
  obtain ⟨arrivals, scheduled, issuedCount, dropped, served⟩ := same
  have size : run'.submissions.size = run.submissions.size := by
    rw [← Array.length_toList, ← Array.length_toList, ← List.length_map Submission.arrival,
      served, List.length_map]
  refine ⟨?_, ?_, ?_, ?_, ?_, ?_⟩
  · rw [scheduled, issuedCount, dropped]
    exact issued.ledger
  · rw [size, issuedCount]
    exact issued.submitted
  · rw [served]
    exact issued.ordered
  · rw [served]
    exact issued.earlier
  · rw [scheduled]
    exact issued.scheduled
  · rw [arrivals]
    exact issued.within

theorem Calm.keep {run run' : PacedRun} (calm : run.Calm) (wait : run'.wait = run.wait)
    (listened : run'.submissions.toList.map Submission.listened =
      run.submissions.toList.map Submission.listened) : run'.Calm := by
  refine ⟨wait.trans calm.unwaited, fun s member => ?_⟩
  have heard : s.listened ∈ run.submissions.toList.map Submission.listened := by
    rw [← listened]
    exact List.mem_map_of_mem member
  obtain ⟨t, tMember, same⟩ := List.mem_map.mp heard
  rw [← same]
  exact calm.unlistened t tMember

theorem IssueSound.keep {n : Nat} {run run' : PacedRun} (sound : IssueSound n run)
    (same : run'.issues = run.issues) (driver : run'.driver = run.driver)
    (calm : run.Calm → run'.Calm) : IssueSound n run' := by
  refine ⟨(congrArg Prod.fst same).trans sound.offered, ?_, ?_, ?_⟩
  · rw [driver]
    exact sound.issued.keep same
  · intro next pausing
    exact sound.pausing next (driver ▸ pausing)
  · intro early
    exact calm (sound.calm (driver ▸ early))

theorem IssueSound.ofDrain {run run' : PacedRun} (issued : Issued run.arrivals run)
    (same : run'.issues = run.issues) (draining : run'.driver.beforeDrain = false) :
    IssueSound run.arrivals run' := by
  have served : run'.driver.served run.arrivals = run.arrivals := by
    cases stage : run'.driver <;> simp_all [DriverStage.beforeDrain, DriverStage.served]
  refine ⟨congrArg Prod.fst same, ?_, ?_, ?_⟩
  · rw [served]
    exact issued.keep same
  · intro next pausing
    simp [pausing, DriverStage.beforeDrain] at draining
  · intro early
    simp [early] at draining

theorem IssueSound.issuedIn {n : Nat} {run : PacedRun} (sound : IssueSound n run)
    {stage : DriverStage} (current : run.driver = stage) : Issued (stage.served n) run :=
  current ▸ sound.issued

theorem IssueSound.sleep {run : PacedRun} (stage : DriverStage)
    (issued : Issued (stage.served run.arrivals) run) (calm : run.Calm)
    (pausing : ∀ next, stage = .pausing next → next < run.arrivals) (delay : Float) :
    IssueSound run.arrivals (run.sleepDriver delay stage) :=
  ⟨rfl, issued.keep rfl, pausing, fun _ => Calm.keep calm rfl rfl⟩

/-! ### What the driver's moves change -/

theorem issues_foldl {β : Type} (f : PacedRun → β → PacedRun)
    (keeps : ∀ run b, (f run b).issues = run.issues) :
    ∀ (l : List β) (run : PacedRun), (l.foldl f run).issues = run.issues
  | [], _ => rfl
  | b :: l, run => by
      rw [List.foldl_cons, issues_foldl f keeps l, keeps]

theorem issues_update (run : PacedRun) (id : Nat) {change : Submission → Submission}
    (keeps : ∀ s, (change s).arrival = s.arrival) : (run.update id change).issues = run.issues := by
  simp [issues, update, map_modify_of_keeps keeps]

theorem issues_cancel (run : PacedRun) (id : Nat) : (run.cancel id).issues = run.issues := by
  unfold cancel
  split
  · rfl
  · split
    · rfl
    · exact issues_update run id fun _ => rfl
    · simp [enqueue, update, issues, map_modify_of_keeps]

theorem issues_finish (run : PacedRun) (abandoned : Nat) :
    (run.finish abandoned).issues = run.issues :=
  issues_foldl cancel issues_cancel _ run

theorem beginDrain_drains (run : PacedRun) :
    run.beginDrain.issues = run.issues ∧ run.beginDrain.driver.beforeDrain = false := by
  unfold beginDrain
  dsimp only [setTimer]
  split
  · exact ⟨issues_finish run 0, rfl⟩
  · refine ⟨?_, rfl⟩
    -- the drain marks the members it watches, which moves no arrival
    refine issues_foldl _ (fun run id => ?_) _ _
    split
    · split
      · rfl
      · exact issues_update run id fun _ => rfl
    · rfl

theorem afterWait_drains (run : PacedRun) :
    run.afterWait.issues = run.issues ∧ run.afterWait.driver.beforeDrain = false := by
  have unwatch : ∀ (r : PacedRun) (id : Nat),
      (r.update id fun s => { s with watched := false }).issues = r.issues :=
    fun r id => issues_update r id fun _ => rfl
  have gather : ∀ (r : PacedRun) (id : Nat),
      (r.update id fun s => { s with gathered := true }).issues = r.issues :=
    fun r id => issues_update r id fun _ => rfl
  unfold afterWait
  split
  · exact ⟨issues_finish run 0, rfl⟩
  · dsimp only
    split
    · refine ⟨?_, rfl⟩
      rw [issues_finish, issues_foldl _ unwatch]
      rfl
    · refine ⟨?_, rfl⟩
      show (List.foldl _ (List.foldl cancel _ _) _).issues = run.issues
      rw [issues_foldl _ gather, issues_foldl cancel issues_cancel, issues_foldl _ unwatch]
      rfl

/-! ### The driver serves the arrivals in order -/

theorem serve_arrivals (run : PacedRun) (k : Nat) : (run.serve k).arrivals = run.arrivals := by
  unfold serve
  split <;> rfl

theorem serve_calm {run : PacedRun} (calm : run.Calm) (k : Nat) : (run.serve k).Calm := by
  unfold serve
  split
  · exact Calm.keep calm rfl rfl
  · refine ⟨calm.unwaited, fun s member => ?_⟩
    simp only [enqueue, Array.toList_push, List.mem_append, List.mem_singleton] at member
    rcases member with old | rfl
    · exact calm.unlistened s old
    · rfl

/-- Serving arrival `k`, the next one, schedules it: it is issued under a new
submission at the end, or dropped. -/
theorem Issued.serve {k : Nat} {run : PacedRun} (issued : Issued k run) (due : k < run.arrivals) :
    Issued (k + 1) (run.serve k) := by
  unfold PacedRun.serve
  rcases arrived : run.pool.arrive with ⟨_ | ⟨caller, key⟩, pool⟩
  · obtain ⟨-, -, rfl⟩ := Pool.arrive_dropped arrived
    have ledger := issued.ledger
    refine ⟨?_, issued.submitted, issued.ordered, ?_, ?_, ?_⟩
    · show run.pool.scheduled + 1 = run.pool.issued + (run.pool.dropped + 1)
      omega
    · exact fun a member => Nat.lt_succ_of_lt (issued.earlier a member)
    · show run.pool.scheduled + 1 = k + 1
      rw [issued.scheduled]
    · exact due
  · obtain ⟨scheduled, issuedCount, dropped, -⟩ := Pool.arrive_served_counts arrived
    have ledger := issued.ledger
    refine ⟨?_, ?_, ?_, ?_, ?_, ?_⟩
    · show pool.scheduled = pool.issued + pool.dropped
      omega
    · show (run.submissions.push _).size = pool.issued
      rw [Array.size_push, issued.submitted, issuedCount]
    · show ((run.submissions.push _).toList.map Submission.arrival).Pairwise (· < ·)
      rw [Array.toList_push, List.map_append, List.pairwise_append]
      refine ⟨issued.ordered, List.pairwise_singleton _ _, ?_⟩
      intro a member b new
      obtain rfl := List.mem_singleton.mp new
      exact issued.earlier a member
    · show ∀ a ∈ (run.submissions.push _).toList.map Submission.arrival, a < k + 1
      rw [Array.toList_push, List.map_append]
      intro a member
      rcases List.mem_append.mp member with old | new
      · exact Nat.lt_succ_of_lt (issued.earlier a old)
      · obtain rfl := List.mem_singleton.mp new
        exact Nat.lt_succ_self a
    · show pool.scheduled = k + 1
      rw [scheduled, issued.scheduled]
    · exact due

theorem hold_sound {run : PacedRun} (issued : Issued run.arrivals run) (calm : run.Calm) :
    IssueSound run.arrivals run.hold := by
  unfold hold
  dsimp only
  split
  · exact IssueSound.sleep .holding issued calm (fun _ stage => nomatch stage) _
  · obtain ⟨same, draining⟩ := beginDrain_drains run
    exact IssueSound.ofDrain issued same draining

/-- From arrival `k` on, the driver serves the arrivals that are due, in order,
then sleeps until the next is due or holds; the fuel always suffices. -/
theorem arrive_sound : ∀ (fuel k : Nat) (run : PacedRun), Issued k run → run.Calm →
    run.arrivals - k < fuel → IssueSound run.arrivals (arrive fuel k run)
  | 0, _, _, _, _, enough => absurd enough (Nat.not_lt_zero _)
  | fuel + 1, k, run, issued, calm, enough => by
      unfold arrive
      split
      · rename_i due
        dsimp only
        split
        · refine IssueSound.sleep (.pausing k) issued calm (fun next stage => ?_) _
          cases stage
          exact due
        · have sound := arrive_sound fuel (k + 1) (run.serve k) (issued.serve due)
            (serve_calm calm k) (by rw [serve_arrivals]; omega)
          rwa [serve_arrivals] at sound
      · have done : k = run.arrivals := by
          have := issued.within
          omega
        exact hold_sound (done ▸ issued) calm

theorem arriveFrom_sound {run : PacedRun} {k : Nat} (issued : Issued k run) (calm : run.Calm) :
    IssueSound run.arrivals (run.arriveFrom k) :=
  arrive_sound _ k run issued calm (by omega)

theorem IssueSound.resume {n : Nat} {run : PacedRun} (sound : IssueSound n run) :
    IssueSound n run.resume := by
  have offered := sound.offered
  subst offered
  unfold PacedRun.resume
  split
  · rename_i next stage
    exact arriveFrom_sound (sound.issuedIn stage) (sound.calm (by rw [stage]; rfl))
  · rename_i next stage
    have calm := sound.calm (by rw [stage]; rfl)
    have resumed := arriveFrom_sound ((sound.issuedIn stage).serve (sound.pausing next stage))
      (serve_calm calm next)
    rwa [serve_arrivals] at resumed
  · rename_i stage
    exact hold_sound (sound.issuedIn stage) (sound.calm (by rw [stage]; rfl))
  · rename_i stage
    obtain ⟨same, draining⟩ := afterWait_drains run
    exact IssueSound.ofDrain (sound.issuedIn stage) same draining
  · rename_i stage
    exact IssueSound.ofDrain (sound.issuedIn stage) (issues_finish run _) rfl
  · exact sound

/-! ### Events of submissions leave the driver alone -/

/-- What an event of a submission may change: it leaves the arrivals, the
counts, the driver, the wait and what the drain listens for as they were, and
queues nothing that wakes the driver. -/
structure Aside (run run' : PacedRun) : Prop where
  issues : run'.issues = run.issues
  driver : run'.driver = run.driver
  wait : run'.wait = run.wait
  listened : run'.submissions.toList.map Submission.listened =
    run.submissions.toList.map Submission.listened
  queued : ∃ added : Array Event, run'.queued = run.queued ++ added ∧
    ∀ e ∈ added, e.wakesDriver = false

theorem aside_of_fields {run run' : PacedRun} (issues : run'.issues = run.issues)
    (driver : run'.driver = run.driver) (wait : run'.wait = run.wait)
    (submissions : run'.submissions = run.submissions) (queued : run'.queued = run.queued) :
    Aside run run' :=
  ⟨issues, driver, wait, by rw [submissions], #[], by simp [queued], by simp⟩

theorem Aside.calm {run run' : PacedRun} (aside : Aside run run') (calm : run.Calm) : run'.Calm :=
  calm.keep aside.wait aside.listened

theorem Aside.enqueue {run run' : PacedRun} (aside : Aside run run') {event : Event}
    (quiet : event.wakesDriver = false) : Aside run (run'.enqueue event) := by
  obtain ⟨issues, driver, wait, listened, added, queued, quietAdded⟩ := aside
  refine ⟨issues, driver, wait, listened, added.push event, ?_, ?_⟩
  · simp [PacedRun.enqueue, queued]
  · intro e member
    rcases Array.mem_push.mp member with old | rfl
    · exact quietAdded e old
    · exact quiet

theorem Aside.update {run run' : PacedRun} (aside : Aside run run') (id : Nat)
    (change : Submission → Submission) (arrival : ∀ s, (change s).arrival = s.arrival)
    (listened : ∀ s, (change s).listened = s.listened) : Aside run (run'.update id change) := by
  obtain ⟨issues, driver, wait, heard, queued⟩ := aside
  refine ⟨(issues_update run' id arrival).trans issues, driver, wait, ?_, queued⟩
  simp only [PacedRun.update, Array.toList_modify]
  rw [map_modify_of_keeps listened, heard]

theorem Aside.setTimer {run run' : PacedRun} (aside : Aside run run') (delay : Float)
    (sleeper : Sleeper) : Aside run (run'.setTimer delay sleeper).1 :=
  ⟨aside.issues, aside.driver, aside.wait, aside.listened, aside.queued⟩

theorem Aside.conclude {run run' : PacedRun} (aside : Aside run run') (id : Nat)
    (ending : Ending) : Aside run (run'.conclude id ending) :=
  (aside.update id (fun s => { s with stage := .ended ending }) (fun _ => rfl)
    (fun _ => rfl)).enqueue rfl

theorem advance_aside (run : PacedRun) (id : Nat) : Aside run (run.advance id) := by
  have here : Aside run run := aside_of_fields rfl rfl rfl rfl rfl
  unfold advance
  split
  · exact here
  · split
    · exact here
    · exact here
    · split
      · exact here.conclude id _
      · split
        · exact here.conclude id _
        · split
          · refine Aside.conclude ?_ id _
            exact aside_of_fields rfl rfl rfl rfl rfl
          · -- the order reaches the target, which holds it on a timer, for a pass, or fails
            dsimp only
            split
            · refine Aside.update (Aside.setTimer ?_ _ _) id _ (fun _ => rfl) (fun _ => rfl)
              refine Aside.update ?_ id _ (fun _ => rfl) (fun _ => rfl)
              exact aside_of_fields rfl rfl rfl rfl rfl
            · refine Aside.enqueue ?_ rfl
              refine Aside.update ?_ id _ (fun _ => rfl) (fun _ => rfl)
              exact aside_of_fields rfl rfl rfl rfl rfl
            · refine Aside.conclude ?_ id _
              refine Aside.update ?_ id _ (fun _ => rfl) (fun _ => rfl)
              exact aside_of_fields rfl rfl rfl rfl rfl

theorem noticeEnd_frame (run : PacedRun) :
    run.noticeEnd.arrivals = run.arrivals ∧ run.noticeEnd.pool = run.pool ∧
      run.noticeEnd.submissions = run.submissions ∧ run.noticeEnd.driver = run.driver := by
  unfold noticeEnd
  split
  · exact ⟨rfl, rfl, rfl, rfl⟩
  · dsimp only
    split
    · split <;> exact ⟨rfl, rfl, rfl, rfl⟩
    · exact ⟨rfl, rfl, rfl, rfl⟩

theorem noticeEnd_of_calm {run : PacedRun} (calm : run.Calm) : run.noticeEnd = run := by
  unfold noticeEnd
  rw [calm.unwaited]

theorem settle_keeps (run : PacedRun) (id : Nat) :
    (run.settle id).issues = run.issues ∧ (run.settle id).driver = run.driver := by
  unfold settle
  split
  · exact ⟨rfl, rfl⟩
  · split
    · exact ⟨rfl, rfl⟩
    · lift_lets
      extract_lets pool returned told left gathered
      -- the pool takes the slot back whichever way the submission ended
      have counts : (pool.scheduled, pool.issued, pool.dropped) =
          (run.pool.scheduled, run.pool.issued, run.pool.dropped) := by
        simp only [pool]
        split <;> rfl
      have first : returned.issues = run.issues ∧ returned.driver = run.driver := by
        have updated : returned.issues = ({ run with pool := pool } : PacedRun).issues :=
          issues_update _ id fun _ => rfl
        refine ⟨updated.trans ?_, rfl⟩
        simp only [issues, Prod.mk.injEq, true_and, and_true] at counts ⊢
        exact counts
      -- telling the drain moves no arrival either
      have second : told.issues = run.issues ∧ told.driver = run.driver := by
        simp only [told]
        split
        · obtain ⟨arrivals, pool', submissions, driver⟩ := noticeEnd_frame returned
          refine ⟨?_, driver.trans first.2⟩
          rw [← first.1]
          simp [issues, arrivals, pool', submissions]
        · exact first
      split
      · split
        · exact second
        · exact second
      · exact second

/-- Before the drain, the end of a submission is handled without a word to the
driver: nothing watches or gathers it. -/
theorem settle_aside {run : PacedRun} (calm : run.Calm) (id : Nat) : Aside run (run.settle id) := by
  have here : Aside run run := aside_of_fields rfl rfl rfl rfl rfl
  unfold settle
  split
  · exact here
  · rename_i submission found
    have quiet : submission.listened = false :=
      calm.unlistened submission (Array.mem_toList_iff.mpr (Array.mem_of_getElem? found))
    have unwatched : submission.watched = false := (Bool.or_eq_false_iff.mp quiet).1
    have ungathered : submission.gathered = false := (Bool.or_eq_false_iff.mp quiet).2
    split
    · exact here
    · simp only [unwatched, ungathered, Bool.false_eq_true, if_false]
      refine Aside.update ?_ id _ (fun _ => rfl) (fun _ => rfl)
      split <;> exact aside_of_fields rfl rfl rfl rfl rfl

theorem ring_aside (run : PacedRun) {timer : Timer Sleeper} {id : Nat}
    (wakes : timer.wakes = .submission id) : Aside run (run.ring timer) := by
  have here : Aside run run := aside_of_fields rfl rfl rfl rfl rfl
  unfold ring
  rw [wakes]
  dsimp only
  split
  · split
    · refine Aside.enqueue ?_ rfl
      exact here.update id _ (fun _ => rfl) (fun _ => rfl)
    · exact here
  · exact here

theorem ring_keeps (run : PacedRun) (timer : Timer Sleeper) :
    (run.ring timer).issues = run.issues ∧ (run.ring timer).driver = run.driver := by
  cases wakes : timer.wakes with
  | driver =>
      unfold ring
      rw [wakes]
      exact ⟨rfl, rfl⟩
  | submission id =>
      have aside := ring_aside run wakes
      exact ⟨aside.issues, aside.driver⟩
  | graceOver =>
      unfold ring
      rw [wakes]
      dsimp only
      split
      · split <;> exact ⟨rfl, rfl⟩
      · exact ⟨rfl, rfl⟩

theorem ring_calm {run : PacedRun} (calm : run.Calm) (timer : Timer Sleeper) :
    (run.ring timer).Calm := by
  cases wakes : timer.wakes with
  | driver =>
      unfold ring
      rw [wakes]
      exact calm.keep rfl rfl
  | submission id => exact (ring_aside run wakes).calm calm
  | graceOver =>
      unfold ring
      rw [wakes]
      dsimp only
      rw [calm.unwaited]
      exact calm

/-! ### Every pass keeps the invariant -/

theorem IssueSound.handle {n : Nat} {run : PacedRun} (sound : IssueSound n run) (event : Event) :
    IssueSound n (run.handle event) := by
  unfold PacedRun.handle
  split
  · exact sound
  · cases event with
    | resumeDriver => exact sound.resume
    | step id =>
        have aside := advance_aside run id
        exact sound.keep aside.issues aside.driver aside.calm
    | settle id =>
        obtain ⟨same, driver⟩ := settle_keeps run id
        exact sound.keep same driver fun calm => (settle_aside calm id).calm calm
    | notice =>
        obtain ⟨arrivals, pool, submissions, driver⟩ := noticeEnd_frame run
        have same : run.noticeEnd.issues = run.issues := by
          simp [issues, arrivals, pool, submissions]
        refine sound.keep same driver fun calm => ?_
        rw [noticeEnd_of_calm calm]
        exact calm
    | fire timer =>
        obtain ⟨same, driver⟩ := ring_keeps run timer
        exact sound.keep same driver fun calm => ring_calm calm timer

theorem IssueSound.handleAll {n : Nat} :
    ∀ (events : List Event) {run : PacedRun}, IssueSound n run →
      IssueSound n (events.foldl PacedRun.handle run)
  | [], _, sound => sound
  | event :: rest, _, sound => IssueSound.handleAll rest (sound.handle event)

theorem IssueSound.pass {n : Nat} {run : PacedRun} (sound : IssueSound n run) :
    IssueSound n run.pass := by
  unfold PacedRun.pass
  dsimp only [Timers.takeDue]
  rw [← Array.foldl_toList]
  exact IssueSound.handleAll _ (sound.keep rfl rfl fun calm => calm.keep rfl rfl)

theorem IssueSound.simulate {n : Nat} :
    ∀ (fuel : Nat) {run : PacedRun}, IssueSound n run → IssueSound n (run.simulate fuel)
  | 0, _, sound => sound
  | fuel + 1, _, sound => by
      unfold PacedRun.simulate
      split
      · exact sound
      · exact IssueSound.simulate fuel sound.pass

end PacedRun

end LoadHarness
