import LoadHarness.Loop.Clock
import LoadHarness.Loop.Pool
import LoadHarness.Loop.Script
import LoadHarness.Order.Generator
import LoadHarness.Config

/-!
# A paced open-loop run on a virtual clock

A paced run offers `expectedArrivals` arrivals at a constant rate: arrival `k`
is due at `start + k / rate`, whether or not earlier submissions have ended.
The driver sleeps until an arrival is due (only when that lies ahead), serves
it from the caller pool, and goes on; after the last arrival it sleeps until
the duration has passed.  It then drains: it waits until every outstanding
submission has ended or the grace period is over, cancels the ones still
running, waits for them to end, and counts them as abandoned.

Everything runs on a virtual clock, in passes.  A pass runs what was queued
before it began, then the timers that fell due, in firing order; whatever
these queue runs in the next pass.  When nothing is queued, the clock jumps
to the earliest timer.  The passes fix the order of events that share a
time:

* a submission takes its order (four draws of the generator) and reaches the
  target one pass after its arrival;
* the target holds it for the cue's delay: a timer, or one pass when the
  delay is not positive; the pass after the timer fires, the submission ends;
  a delay that cannot be held (not comparable with 0, or too large for the
  clock) ends the submission at once as a failure of no latency;
* the pass after a submission ends, its end is handled: its sample is
  recorded, its caller freed, and the drain told.  An arrival in the pass
  where a submission ends therefore still finds that caller busy.

The script of the target is used in turn: the `i`-th submission to reach the
target gets cue `i mod n`.  A submission that raises, or whose sample is
refused, is recorded as a failure with the time it took on the clock.
-/

namespace LoadHarness

/-- How the target holds a submission before answering it. -/
inductive Hold where
  /-- A timer of this many seconds. -/
  | timer (seconds : Float)
  /-- One pass. -/
  | pass
  /-- The hold fails at once, with this failure. -/
  | fault (failure : Failure)
  deriving Inhabited

/-- A cue of a paced script: how the target holds the submission, then what
it does. -/
structure PacedCue where
  hold : Hold
  cue : Cue
  deriving Inhabited

namespace PacedCue

/-- The delay of a step that names none: a millisecond. -/
def standardDelay : Value := .float (Binary.nearest false 1 1000)

/-- The hold of a delay given as data: a delay that is not positive is one
pass; a positive one is a timer of that many seconds (a truth value counts as
0 or 1), and an integer too large for a double cannot be added to the clock;
a delay that cannot be compared with 0 fails at once.  A NaN delay, which is
neither, is one pass. -/
def holdOf (delay : Value) : Hold :=
  match Value.relate .lessEqual delay (.int 0) with
  | .error fault => .fault (.unorderable fault)
  | .ok true => .pass
  | .ok false =>
      match delay with
      | .int n =>
          let seconds := Binary.ofInt n
          if Binary.isInfinite seconds then .fault (.arithmetic .wholeTooLarge) else .timer seconds
      | .bool _ => .timer 1.0
      | .float x => if Binary.isNan x then .pass else .timer x
      | _ => .pass

/-- The latency a step's sample defaults to: its delay in milliseconds. -/
def defaultLatency : Value → Value
  | .int n => .int (n * 1000)
  | .bool truth => .int (if truth then 1000 else 0)
  | .float x => .float (x * 1000.0)
  | _ => .null

/-- A paced cue read from data: `delay` (default a millisecond), and the cue
of the step, whose latency defaults to the delay in milliseconds. -/
def ofValue (step : Value) : PacedCue :=
  let delay := (step.field? "delay").getD standardDelay
  ⟨holdOf delay, Cue.ofValue (defaultLatency delay) step⟩

/-- The cue of an empty script. -/
def standard : PacedCue := ofValue (.obj [])

end PacedCue

/-- How a submission ended. -/
inductive Ending where
  /-- The target answered, or the failure was recorded as a sample. -/
  | answered (sample : Sample)
  /-- The order could not be made. -/
  | broken (failure : Failure)
  /-- It was cancelled by the drain. -/
  | cancelled
  deriving Inhabited

/-- Where a submission stands. -/
inductive Stage where
  /-- Its next step is queued. -/
  | ready
  /-- The target holds it until the timer with this sequence number fires. -/
  | held (seq : Nat)
  /-- It has ended. -/
  | ended (ending : Ending)
  deriving Inhabited

/-- One submission of a paced run. -/
structure Submission where
  /-- The arrival it serves. -/
  arrival : Nat
  /-- Its caller, whose iteration already counts it. -/
  caller : Caller
  stage : Stage := .ready
  /-- When it reached the target, and the cue the target answers it with. -/
  reached : Option (Float × PacedCue) := none
  /-- Cancellation was asked for. -/
  cancelling : Bool := false
  /-- The drain's wait is told when it ends. -/
  watched : Bool := false
  /-- The drain's gathering is told when it ends. -/
  gathered : Bool := false
  /-- Its end has been handled. -/
  settled : Bool := false
  deriving Inhabited

namespace Submission

/-- Whether the submission has ended. -/
def hasEnded (submission : Submission) : Bool :=
  match submission.stage with
  | .ended _ => true
  | _ => false

end Submission

/-- What a timer of a paced run wakes. -/
inductive Sleeper where
  | driver
  | submission (id : Nat)
  | graceOver
  deriving Inhabited

/-- What can be queued to run in a pass. -/
inductive Event where
  /-- The driver goes on. -/
  | resumeDriver
  /-- A submission takes its next step. -/
  | step (id : Nat)
  /-- The end of a submission is handled. -/
  | settle (id : Nat)
  /-- The drain's wait is told of a submission that had already ended. -/
  | notice
  /-- A timer fires. -/
  | fire (timer : Timer Sleeper)
  deriving Inhabited

/-- Where the driver stands. -/
inductive DriverStage where
  /-- About to serve arrival `next`. -/
  | arriving (next : Nat)
  /-- Asleep until arrival `next` is due. -/
  | pausing (next : Nat)
  /-- Asleep until the duration has passed. -/
  | holding
  /-- Waiting for the outstanding submissions or the end of the grace period. -/
  | draining
  /-- Waiting for the cancelled submissions to end. -/
  | gathering
  /-- Done. -/
  | finished
  deriving Inhabited, BEq

/-- The drain's wait: the submissions it watches, how many of them have not
yet been reported ended, the grace timer, and whether the wait is over. -/
structure DrainWait where
  members : List Nat
  left : Nat
  limit : Nat
  released : Bool := false
  deriving Inhabited

/-- The state of a paced run. -/
structure PacedRun where
  rate : Float
  duration : Float
  grace : Float
  arrivals : Nat
  script : List PacedCue
  pool : Pool
  generator : Generator
  now : Float := 0.0
  /-- The clock reading when the driver started. -/
  start : Float := 0.0
  queued : Array Event := #[.resumeDriver]
  timers : Timers Sleeper := []
  nextSeq : Nat := 0
  submissions : Array Submission := #[]
  /-- The client of each submission that reached the target, in that order. -/
  clients : Array String := #[]
  driver : DriverStage := .arriving 0
  wait : Option DrainWait := none
  gatherLeft : Nat := 0
  abandoned : Nat := 0

namespace PacedRun

/-- Queue an event for the next pass. -/
def enqueue (run : PacedRun) (event : Event) : PacedRun :=
  { run with queued := run.queued.push event }

/-- Set a timer `delay` seconds ahead; its sequence number is returned. -/
def setTimer (run : PacedRun) (delay : Float) (sleeper : Sleeper) : PacedRun × Nat :=
  let timer : Timer Sleeper := ⟨run.now + delay, run.nextSeq, sleeper⟩
  ({ run with timers := run.timers.insert timer, nextSeq := run.nextSeq + 1 }, timer.seq)

/-- Change submission `id`. -/
def update (run : PacedRun) (id : Nat) (change : Submission → Submission) : PacedRun :=
  { run with submissions := run.submissions.modify id change }

/-- The driver sleeps `delay` seconds in stage `stage`. -/
def sleepDriver (run : PacedRun) (delay : Float) (stage : DriverStage) : PacedRun :=
  let (run, _) := run.setTimer delay .driver
  { run with driver := stage }

/-- Serve arrival `k` from the pool: a new submission, whose first step is
queued, or a drop. -/
def serve (run : PacedRun) (k : Nat) : PacedRun :=
  match run.pool.arrive with
  | (none, pool) => { run with pool := pool }
  | (some (caller, _), pool) =>
      let id := run.submissions.size
      { run with pool := pool, submissions := run.submissions.push ⟨k, caller, .ready, none, false, false, false, false⟩ }
        |>.enqueue (.step id)

/-- Cancel submission `id`: a held one is woken at once, a queued one ends at
its next step. -/
def cancel (run : PacedRun) (id : Nat) : PacedRun :=
  match run.submissions[id]? with
  | none => run
  | some submission =>
      match submission.stage with
      | .ended _ => run
      | .ready => run.update id fun s => { s with cancelling := true }
      | .held seq =>
          { run with timers := run.timers.cancel seq }
            |>.update id (fun s => { s with cancelling := true, stage := .ready })
            |>.enqueue (.step id)

/-- The driver is done, with `abandoned` submissions abandoned; whatever is
still outstanding is cancelled. -/
def finish (run : PacedRun) (abandoned : Nat) : PacedRun :=
  let outstanding := (List.range run.submissions.size).filter fun id =>
    match run.submissions[id]? with
    | some submission => !submission.settled
    | none => false
  let run := outstanding.foldl cancel run
  { run with driver := .finished, abandoned := abandoned }

/-- Begin the drain: wait for every submission whose end has not been handled,
at most the grace period. -/
def beginDrain (run : PacedRun) : PacedRun :=
  let members := (List.range run.submissions.size).filter fun id =>
    match run.submissions[id]? with
    | some submission => !submission.settled
    | none => false
  if members.isEmpty then run.finish 0
  else
    let (run, limit) := run.setTimer run.grace .graceOver
    let run := members.foldl (fun run id =>
      match run.submissions[id]? with
      | some submission =>
          if submission.hasEnded then run.enqueue .notice
          else run.update id fun s => { s with watched := true }
      | none => run) run
    { run with wait := some ⟨members, members.length, limit, false⟩, driver := .draining }

/-- After the last arrival: sleep while the duration has not passed, then drain. -/
def hold (run : PacedRun) : PacedRun :=
  let remaining := run.start + run.duration - run.now
  if remaining > 0.0 then run.sleepDriver remaining .holding else run.beginDrain

/-- Serve arrivals from `k` on while they are due, then sleep until the next
one, or hold once all are served; `fuel` bounds the arrivals served. -/
def arrive : Nat → Nat → PacedRun → PacedRun
  | 0, _, run => run
  | fuel + 1, k, run =>
      if k < run.arrivals then
        let delay := run.start + Binary.ofInt k / run.rate - run.now
        if delay > 0.0 then run.sleepDriver delay (.pausing k)
        else arrive fuel (k + 1) (run.serve k)
      else run.hold

/-- Serve arrivals from `k` on. -/
def arriveFrom (run : PacedRun) (k : Nat) : PacedRun := arrive (run.arrivals - k + 1) k run

/-- The wait of the drain is over: cancel the submissions it watched that have
not ended, and wait for them; or finish when there are none. -/
def afterWait (run : PacedRun) : PacedRun :=
  match run.wait with
  | none => run.finish 0
  | some wait =>
      let run := { run with timers := run.timers.cancel wait.limit }
      let run := wait.members.foldl (fun run id => run.update id fun s => { s with watched := false }) run
      let pending := wait.members.filter fun id =>
        match run.submissions[id]? with
        | some submission => !submission.hasEnded
        | none => false
      if pending.isEmpty then run.finish 0
      else
        let run := pending.foldl cancel run
        let run := pending.foldl (fun run id => run.update id fun s => { s with gathered := true }) run
        { run with gatherLeft := pending.length, abandoned := pending.length, driver := .gathering }

/-- The driver goes on from where it stands. -/
def resume (run : PacedRun) : PacedRun :=
  match run.driver with
  | .arriving next => run.arriveFrom next
  | .pausing next => (run.serve next).arriveFrom (next + 1)
  | .holding => run.hold
  | .draining => run.afterWait
  | .gathering => run.finish run.abandoned
  | .finished => run

/-- Submission `id` ends. -/
def conclude (run : PacedRun) (id : Nat) (ending : Ending) : PacedRun :=
  (run.update id fun s => { s with stage := .ended ending }).enqueue (.settle id)

/-- The next step of submission `id`: the first makes its order and hands it
to the target, the second ends it with the target's answer. -/
def advance (run : PacedRun) (id : Nat) : PacedRun :=
  match run.submissions[id]? with
  | none => run
  | some submission =>
      match submission.stage with
      | .ended _ | .held _ => run
      | .ready =>
          if submission.cancelling then run.conclude id .cancelled
          else
            match submission.reached with
            | some (reachedAt, paced) =>
                run.conclude id (.answered (paced.cue.sample ((run.now - reachedAt) * 1000.0)))
            | none =>
                match run.generator.generate (.int submission.arrival) with
                | (.error failure, generator) => { run with generator := generator }.conclude id (.broken failure)
                | (.ok order, generator) =>
                    let paced := (run.script[run.clients.size % run.script.length]?).getD PacedCue.standard
                    let run := { run with generator := generator, clients := run.clients.push order.clientId }
                    let run := run.update id fun s => { s with reached := some (run.now, paced) }
                    match paced.hold with
                    | .timer seconds =>
                        let (run, seq) := run.setTimer seconds (.submission id)
                        run.update id fun s => { s with stage := .held seq }
                    | .pass => run.enqueue (.step id)
                    | .fault failure => run.conclude id (.answered (Cue.failedAttempt failure))

/-- The drain's wait is told that one of its submissions ended. -/
def noticeEnd (run : PacedRun) : PacedRun :=
  match run.wait with
  | none => run
  | some wait =>
      let left := wait.left - 1
      if left == 0 then
        let run := { run with timers := run.timers.cancel wait.limit }
        if wait.released then { run with wait := some { wait with left := left } }
        else { run with wait := some { wait with left := left, released := true } }.enqueue .resumeDriver
      else { run with wait := some { wait with left := left } }

/-- Handle the end of submission `id`: release its slot, record its sample and
free its caller when it was answered, and tell the drain. -/
def settle (run : PacedRun) (id : Nat) : PacedRun :=
  match run.submissions[id]? with
  | none => run
  | some submission =>
      if submission.settled then run
      else
        let pool :=
          match submission.stage with
          | .ended (.answered sample) => run.pool.finish submission.caller sample
          | _ => run.pool.release
        let run := { run with pool := pool }.update id fun s => { s with settled := true }
        let run := if submission.watched then run.noticeEnd else run
        if submission.gathered then
          let left := run.gatherLeft - 1
          let run := { run with gatherLeft := left }
          if left == 0 then run.enqueue .resumeDriver else run
        else run

/-- A timer fires: it wakes its sleeper, unless that has moved on. -/
def ring (run : PacedRun) (timer : Timer Sleeper) : PacedRun :=
  match timer.wakes with
  | .driver => run.enqueue .resumeDriver
  | .submission id =>
      match run.submissions[id]? with
      | some { stage := .held seq, .. } =>
          if seq == timer.seq then (run.update id fun s => { s with stage := .ready }).enqueue (.step id)
          else run
      | _ => run
  | .graceOver =>
      match run.wait with
      | some wait =>
          if wait.limit == timer.seq && !wait.released then
            { run with wait := some { wait with released := true } }.enqueue .resumeDriver
          else run
      | none => run

/-- Run one queued event; nothing runs once the driver is done. -/
def handle (run : PacedRun) (event : Event) : PacedRun :=
  if run.driver == .finished then run
  else
    match event with
    | .resumeDriver => run.resume
    | .step id => run.advance id
    | .settle id => run.settle id
    | .notice => run.noticeEnd
    | .fire timer => run.ring timer

/-- One pass: jump the clock when nothing is queued, then run what was queued
and the timers that fell due. -/
def pass (run : PacedRun) : PacedRun :=
  let now := if run.queued.isEmpty then Timers.advance run.now run.timers else run.now
  let (due, rest) := Timers.takeDue now run.timers
  let batch := run.queued ++ (due.map Event.fire).toArray
  batch.foldl handle { run with now := now, timers := rest, queued := #[] }

/-- Run passes until the driver is done or nothing is left to run; `fuel`
bounds the passes. -/
def simulate : Nat → PacedRun → PacedRun
  | 0, run => run
  | fuel + 1, run =>
      if run.driver == .finished || (run.queued.isEmpty && run.timers.isEmpty) then run
      else simulate fuel run.pass

/-- The seconds from the driver's start to its end. -/
def elapsed (run : PacedRun) : Float := run.now - run.start

/-- Issued arrivals per second of the run; 0 for a run that took no time. -/
def achievedRate (run : PacedRun) : Float :=
  if run.elapsed > 0.0 then Binary.ofInt run.pool.issued / run.elapsed else 0.0

end PacedRun

/-- A paced run of `arrivals` arrivals about to start, with the parameters of
`config`, orders from `generator`, and a target that follows `script`. -/
def PacedRun.initial (config : OpenConfig) (arrivals : Nat) (generator : Generator)
    (script : List PacedCue) : PacedRun :=
  { rate := config.rate, duration := config.duration, grace := config.gracefulStop,
    arrivals := arrivals, script := script, generator := generator,
    pool := Pool.start config.preAllocated.toNat config.maxCallers.toNat }

/-- A paced run of `arrivals` arrivals with the parameters of `config`, orders
from `generator`, and a target that follows `script`. -/
def pacedRun (config : OpenConfig) (arrivals : Nat) (generator : Generator) (script : List PacedCue) :
    PacedRun :=
  PacedRun.simulate (16 * arrivals + 256) (PacedRun.initial config arrivals generator script)

end LoadHarness
