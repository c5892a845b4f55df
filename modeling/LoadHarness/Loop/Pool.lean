import LoadHarness.Order.Key
import LoadHarness.Measure.Recorder
import LoadHarness.Measure.Tally

/-!
# The caller pool of an open loop

An open loop serves each arrival with an idle virtual caller.  Callers wait in
a queue, first in first out; the pool starts with callers `1 … pre` and grows
on demand, numbering new callers consecutively, up to a ceiling.  When every
caller is busy and the ceiling is reached, the arrival is dropped and
counted, never queued.

A caller numbers its submissions from 0, and submission `i` of caller `c`
goes out under the key `c-i`.  When a submission finishes, its sample is
recorded, the status check is tallied (it passes when the status is 200) and
its caller rejoins the back of the queue.  A submission that is cancelled, or
whose order could not be made, releases its slot but not its caller, which
is lost to the pool.
-/

namespace LoadHarness

/-- A virtual caller: its number and the number of its next submission. -/
structure Caller where
  number : Nat
  iteration : Nat := 0
  deriving Inhabited, Repr

namespace Caller

/-- The key of the caller's next submission. -/
def key (caller : Caller) : String := idempotencyKey (.int caller.number) (.int caller.iteration)

end Caller

/-- The name of the check tallied for every finished submission. -/
def statusCheck : String := "status is 200"

/-- The state of an open loop's caller pool and its counts. -/
structure Pool where
  /-- Idle callers, front first. -/
  idle : Std.Queue Caller
  /-- How many callers exist. -/
  allocated : Nat
  /-- The most callers there may be. -/
  ceiling : Nat
  /-- Arrivals so far. -/
  scheduled : Nat := 0
  /-- Arrivals that got a caller. -/
  issued : Nat := 0
  /-- Arrivals that found every caller busy. -/
  dropped : Nat := 0
  /-- Submissions outstanding. -/
  inFlight : Nat := 0
  /-- The most submissions ever outstanding. -/
  maxInFlight : Nat := 0
  /-- The samples of finished submissions, in the order they finished. -/
  recorder : Recorder := {}
  /-- The status check. -/
  check : Tally := ⟨statusCheck, 0, 0⟩
  /-- The keys of issued submissions, in issue order. -/
  keys : Array String := #[]

namespace Pool

/-- A pool of callers `1 … pre` that may grow to `ceiling` callers. -/
def start (pre ceiling : Nat) : Pool :=
  { idle := { dList := (List.range pre).map fun n => ⟨n + 1, 0⟩ }
    allocated := pre, ceiling := ceiling }

/-- An idle caller, or a new one while below the ceiling. -/
def acquire (pool : Pool) : Option (Caller × Pool) :=
  match pool.idle.dequeue? with
  | some (caller, rest) => some (caller, { pool with idle := rest })
  | none =>
      if pool.allocated < pool.ceiling then
        some (⟨pool.allocated + 1, 0⟩, { pool with allocated := pool.allocated + 1 })
      else none

/-- One arrival: the caller that serves it, its iteration already advanced,
and the key of the submission; none when the arrival is dropped. -/
def arrive (pool : Pool) : Option (Caller × String) × Pool :=
  let pool := { pool with scheduled := pool.scheduled + 1 }
  match pool.acquire with
  | none => (none, { pool with dropped := pool.dropped + 1 })
  | some (caller, pool) =>
      let key := caller.key
      let inFlight := pool.inFlight + 1
      (some ({ caller with iteration := caller.iteration + 1 }, key),
        { pool with issued := pool.issued + 1, inFlight := inFlight,
                    maxInFlight := max pool.maxInFlight inFlight, keys := pool.keys.push key })

/-- A submission of `caller` finished with `sample`: it is recorded and
tallied, and the caller rejoins the queue. -/
def finish (pool : Pool) (caller : Caller) (sample : Sample) : Pool :=
  { pool with
    inFlight := pool.inFlight - 1
    recorder := pool.recorder.record sample
    check := pool.check.observe (sample.statusCode == some 200)
    idle := pool.idle.enqueue caller }

/-- A submission ended without a sample (cancelled, or its order could not be
made): its slot is released and its caller lost. -/
def release (pool : Pool) : Pool := { pool with inFlight := pool.inFlight - 1 }

/-- The idle callers, front first. -/
def idleCallers (pool : Pool) : List Caller := pool.idle.toArray.toList

end Pool

end LoadHarness
