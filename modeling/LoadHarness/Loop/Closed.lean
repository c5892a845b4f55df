import LoadHarness.Loop.Script
import LoadHarness.Order.Basic
import LoadHarness.Order.Key
import LoadHarness.Measure.Recorder

/-!
# Closed-loop load

A closed loop replays a fixed batch of orders with at most `concurrency`
submissions outstanding: an order is issued only when a slot is free, and each
completion frees its slot and records its sample.  Orders are issued in the
batch's order under the keys `prefix-1`, `prefix-2`, …

The run is a single-threaded event loop.  `ClosedLoop` is its state: the
driver, which pulls orders, takes a slot for each and issues it; the
submissions, each of which first calls the target and later finishes; the
queue of ready jobs, run first in first out; and the slots.  A job runs
without interruption until it waits:

* the driver admits orders while a slot is free (taking a free slot never
  waits), and waits for a slot when none is; once the orders run out it waits
  for every outstanding submission and finishes;
* the first step of a submission calls the target with its order and key;
* when a call ends (`ClosedLoop.answer`, chosen by the target, in any order)
  the submission finishes and its completion callback is queued;
* the completion callback frees the slot, handing it to the driver if the
  driver waits for one, and records the sample, unless the submission was
  cancelled.

`ClosedLoop.replay` runs a sequence of such turns; its states are the states
of a run.  `closedLoop` is the run of a target that answers each call at
once.

A concurrency below 1 is refused before any order is drawn; a source of orders
that breaks off fails the whole run once its orders are issued.

The free slots are counted down from the concurrency by ones, and issuing
waits only when the count is exactly zero.  So a whole number (a truth value
counting as 0 or 1) bounds the outstanding submissions by itself, while a
double that is not whole, or not finite, never meets zero and bounds nothing.
-/

namespace LoadHarness

/-- Where a closed loop takes its orders from: the orders, and whether the
source breaks off after them. -/
structure OrderSource where
  orders : List Order
  breaksOff : Bool := false
  deriving Inhabited

/-- What a closed-loop run did. -/
structure ClosedRun where
  /-- The keys the orders were issued under, in issue order. -/
  keys : List String
  /-- The client of each order the target was called with, in call order. -/
  clients : List String
  /-- The samples recorded, in the order the submissions completed. -/
  samples : List Sample
  /-- The most submissions outstanding at once. -/
  maxInFlight : Nat
  deriving Inhabited

namespace ClosedRun

/-- How many orders were issued. -/
def issued (run : ClosedRun) : Nat := run.keys.length

/-- How many samples failed. -/
def failures (run : ClosedRun) : Nat := failureCount run.samples

/-- The report of the run's samples; none when there are none. -/
def report (run : ClosedRun) : Except Failure (Option Report) := (Recorder.mk run.samples.toArray).report

end ClosedRun

/-- The most submissions a concurrency lets be outstanding, none for no bound;
or why the concurrency is refused: it is below 1, or cannot be compared with 1. -/
def slotLimit (concurrency : Value) : Except Failure (Option Nat) :=
  match Value.less concurrency (.int 1) with
  | .error fault => .error (.unorderable fault)
  | .ok true => .error (.concurrency concurrency)
  | .ok false =>
      match concurrency with
      | .int n => .ok (some n.toNat)
      | .bool _ => .ok (some 1)
      | .float x =>
          match FloatShape.of x with
          | .finite value => .ok (if Binary.isWhole value then some (Binary.truncOf value).toNat else none)
          | _ => .ok none
      | _ => .ok none

namespace Closed

/-- How a call of the target ended: with the sample it returned, with an
exception of class `kind` after `elapsed` milliseconds, or cancelled. -/
inductive Outcome where
  | returned (sample : Sample)
  | raised (kind message : String) (elapsed : Float)
  | cancelled
  deriving Inhabited

namespace Outcome

/-- The sample a submission with this outcome records: the sample returned,
a failed attempt for an exception, none when it was cancelled. -/
def sample? : Outcome → Option Sample
  | .returned sample => some sample
  | .raised kind message elapsed => some (Cue.failedAttempt (.raised kind message) elapsed)
  | .cancelled => none

end Outcome

/-- Where a submission is: queued to take its first step, calling the target,
finished with an outcome and its completion callback queued, or settled. -/
inductive Stage where
  | queued
  | calling
  | finished (outcome : Outcome)
  | settled (outcome : Outcome)
  deriving Inhabited

/-- An issued order, its key, and where its submission is. -/
structure Submission where
  order : Order
  key : String
  stage : Stage := .queued
  deriving Inhabited

namespace Submission

/-- Whether its completion callback has run. -/
def isSettled (submission : Submission) : Bool :=
  match submission.stage with
  | .settled _ => true
  | _ => false

/-- The sample it recorded: none before it settled, or when it was cancelled. -/
def sample? (submission : Submission) : Option Sample :=
  match submission.stage with
  | .settled outcome => outcome.sample?
  | _ => none

end Submission

/-- A job ready to run: the driver, the first step of submission `id`, or the
completion callback of submission `id`. -/
inductive Job where
  | driver
  | start (id : Nat)
  | settle (id : Nat)
  deriving DecidableEq, Inhabited

/-- Where the driver is. -/
inductive Phase where
  /-- Queued to admit orders. -/
  | admitting
  /-- Waiting for a slot for the next order. -/
  | waiting
  /-- A freed slot was handed to it; queued to issue the next order. -/
  | handed
  /-- Every order issued; waiting for the outstanding submissions. -/
  | draining
  /-- Nothing outstanding; queued to finish. -/
  | drained
  | finished
  /-- The source of orders broke off. -/
  | failed
  deriving DecidableEq, Inhabited

end Closed

open Closed

/-- The state of a closed-loop run. -/
structure ClosedLoop where
  /-- The slots; none when nothing bounds the outstanding submissions. -/
  limit : Option Nat
  keyPrefix : Value
  /-- The orders not yet pulled from the source. -/
  orders : List Order
  breaksOff : Bool
  /-- The free slots. -/
  free : Nat
  phase : Phase := .admitting
  /-- The ready jobs, first to run first. -/
  ready : List Job := [.driver]
  /-- The issued orders; submission `id` is the one issued `id`-th, from 0. -/
  submissions : List Closed.Submission := []
  /-- Submissions whose completion callback has not run. -/
  inFlight : Nat := 0
  /-- The most submissions ever outstanding. -/
  maxInFlight : Nat := 0
  /-- The samples recorded, in completion order. -/
  recorded : List Sample := []
  /-- The calls of the target, with their orders and keys, in call order. -/
  calls : List (Order × String) := []

namespace ClosedLoop

/-- A run of `limit` slots over the orders of `source`, keys starting with
`keyPrefix`: every slot free, the driver queued. -/
def start (limit : Option Nat) (keyPrefix : Value) (source : OrderSource) : ClosedLoop :=
  { limit, keyPrefix, orders := source.orders, breaksOff := source.breaksOff, free := limit.getD 0 }

/-- Take a slot: at once when one is free or nothing bounds the submissions;
none when every slot is taken. -/
def acquire (loop : ClosedLoop) : Option ClosedLoop :=
  match loop.limit with
  | none => some loop
  | some _ => if loop.free = 0 then none else some { loop with free := loop.free - 1 }

/-- Issue `order` under the next key, `prefix-i` for the `i`-th order: a new
submission, its first step queued. -/
def issue (loop : ClosedLoop) (order : Order) : ClosedLoop :=
  let id := loop.submissions.length
  { loop with
    submissions := loop.submissions ++ [{ order, key := idempotencyKey loop.keyPrefix (.int (id + 1)) }]
    ready := loop.ready ++ [.start id]
    inFlight := loop.inFlight + 1
    maxInFlight := max loop.maxInFlight (loop.inFlight + 1) }

/-- The orders ran out: a source that breaks off fails the run; otherwise the
driver gathers the outstanding submissions, and finishes at once if none is. -/
def exhaust (loop : ClosedLoop) : ClosedLoop :=
  if loop.breaksOff then { loop with phase := .failed }
  else if loop.submissions.all Closed.Submission.isSettled then { loop with phase := .finished }
  else { loop with phase := .draining }

/-- Pull `orders` in turn and issue each once a slot is taken; wait when no
slot is free. -/
def issueAll (loop : ClosedLoop) : List Order → ClosedLoop
  | [] => loop.exhaust
  | order :: rest =>
      match loop.acquire with
      | some taken => ({ taken with orders := rest }.issue order).issueAll rest
      | none => { loop with phase := .waiting }

/-- The driver runs: it admits orders, issues the order it was handed a slot
for and goes on, or finishes a drained run. -/
def wake (loop : ClosedLoop) : ClosedLoop :=
  match loop.phase, loop.orders with
  | .admitting, orders => loop.issueAll orders
  | .handed, order :: rest => ({ loop with orders := rest, phase := .admitting }.issue order).issueAll rest
  | .drained, _ => { loop with phase := .finished }
  | _, _ => loop

/-- The first step of submission `id`: it calls the target with its order
and key.  Only a queued submission takes a first step. -/
def begin (loop : ClosedLoop) (id : Nat) : ClosedLoop :=
  match loop.submissions[id]? with
  | some submission =>
      match submission.stage with
      | .queued =>
          { loop with
            submissions := loop.submissions.set id { submission with stage := .calling }
            calls := loop.calls ++ [(submission.order, submission.key)] }
      | _ => loop
  | none => loop

/-- The call of submission `id` ends with `outcome`: the submission finishes
and its completion callback is queued.  Only a call in progress can end. -/
def answer (loop : ClosedLoop) (id : Nat) (outcome : Outcome) : ClosedLoop :=
  match loop.submissions[id]? with
  | some submission =>
      match submission.stage with
      | .calling =>
          { loop with
            submissions := loop.submissions.set id { submission with stage := .finished outcome }
            ready := loop.ready ++ [.settle id] }
      | _ => loop
  | none => loop

/-- A slot is freed: it is handed to the driver if the driver waits for one,
and counted free otherwise. -/
def release (loop : ClosedLoop) : ClosedLoop :=
  match loop.limit, loop.phase with
  | none, _ => loop
  | some _, .waiting => { loop with phase := .handed, ready := loop.ready ++ [.driver] }
  | some _, _ => { loop with free := loop.free + 1 }

/-- A draining driver is woken once every submission has settled. -/
def gatherLast (loop : ClosedLoop) : ClosedLoop :=
  match loop.phase with
  | .draining =>
      if loop.submissions.all Closed.Submission.isSettled then
        { loop with phase := .drained, ready := loop.ready ++ [.driver] }
      else loop
  | _ => loop

/-- The completion callback of submission `id`: it is no longer outstanding,
its slot is freed, and its sample recorded unless it was cancelled. -/
def settle (loop : ClosedLoop) (id : Nat) : ClosedLoop :=
  match loop.submissions[id]? with
  | some submission =>
      match submission.stage with
      | .finished outcome =>
          ({ loop with
              submissions := loop.submissions.set id { submission with stage := .settled outcome }
              inFlight := loop.inFlight - 1
              recorded := loop.recorded ++ outcome.sample?.toList }).release.gatherLast
      | _ => loop
  | none => loop

/-- Run the first ready job. -/
def run (loop : ClosedLoop) : ClosedLoop :=
  match loop.ready with
  | [] => loop
  | .driver :: rest => { loop with ready := rest }.wake
  | .start id :: rest => { loop with ready := rest }.begin id
  | .settle id :: rest => { loop with ready := rest }.settle id

end ClosedLoop

/-- What can happen next in a closed-loop run: the event loop runs its next
job, or a call of the target ends. -/
inductive Closed.Turn where
  | run
  | answer (id : Nat) (outcome : Closed.Outcome)
  deriving Inhabited

namespace ClosedLoop

/-- The run after a turn. -/
def apply (loop : ClosedLoop) : Turn → ClosedLoop
  | .run => loop.run
  | .answer id outcome => loop.answer id outcome

/-- The run after a sequence of turns, in order. -/
def replay (loop : ClosedLoop) (turns : List Turn) : ClosedLoop :=
  turns.foldl apply loop

/-- Run the first ready job; the call of the target it makes, if any, is
answered at once with the sample `respond` gives for the call's number, order
and key. -/
def runAnswering (respond : Nat → Order → String → Sample) (loop : ClosedLoop) : ClosedLoop :=
  match loop.ready with
  | .start id :: _ =>
      match loop.submissions[id]? with
      | some submission => loop.run.answer id (.returned (respond id submission.order submission.key))
      | none => loop.run
  | _ => loop.run

/-- Run at most `fuel` ready jobs, each call of the target answered at once. -/
def runAnswered (respond : Nat → Order → String → Sample) : Nat → ClosedLoop → ClosedLoop
  | 0, loop => loop
  | fuel + 1, loop =>
      match loop.ready with
      | [] => loop
      | _ :: _ => runAnswered respond fuel (loop.runAnswering respond)

/-- What a run reports. -/
def result (loop : ClosedLoop) : ClosedRun :=
  { keys := loop.submissions.map Closed.Submission.key
    clients := loop.calls.map fun (order, _) => order.clientId
    samples := loop.recorded
    maxInFlight := loop.maxInFlight }

end ClosedLoop

/-- Run a closed loop of `concurrency` slots over the orders of `source`, keys
starting with `keyPrefix`, against a target that answers call number `call`
(counted from 0) of `order` under `key` at once with `respond call order key`. -/
def closedLoop (concurrency : Value) (keyPrefix : Value) (source : OrderSource)
    (respond : Nat → Order → String → Sample) : Except Failure ClosedRun :=
  match slotLimit concurrency with
  | .error failure => .error failure
  | .ok limit =>
      let loop := (ClosedLoop.start limit keyPrefix source).runAnswered respond
        (3 * source.orders.length + 1)
      match loop.phase with
      | .finished => .ok loop.result
      | _ => .error .sourceFailed

end LoadHarness
