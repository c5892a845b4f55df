import LoadHarness.Loop.Pool
import LoadHarness.Loop.Script
import LoadHarness.Order.Generator
import LoadHarness.Config

/-!
# An open loop driven step by step

An open-loop session is the caller pool of an open loop with its order
generator, advanced one event at a time by whoever decides how submissions
end:

* an arrival takes a caller (or is dropped) and makes its order, which uses up
  four draws of the generator; when the order cannot be made, the submission
  ends at once and its caller is lost;
* a submission is resolved by its key, with a sample or with an exception,
  which is recorded as a failed attempt of latency 0;
* a submission may be cancelled, which loses its caller; draining cancels
  every outstanding submission and counts them as abandoned.

`SessionEvent` lists these events, and `OpenSession.replay` applies a
sequence of them in order: the states it reaches are the states of the
session.
-/

namespace LoadHarness

/-- What became of an arrival. -/
inductive Admission where
  /-- Every caller was busy. -/
  | dropped
  /-- The order went out under the key. -/
  | issued (key : String) (order : Order)
  /-- The order could not be made; the submission under the key ended at once. -/
  | broken (key : String) (failure : Failure)
  deriving Inhabited

/-- An open loop advanced one event at a time. -/
structure OpenSession where
  pool : Pool
  generator : Generator
  /-- Outstanding submissions: their keys and callers, in issue order. -/
  pending : List (String × Caller) := []

namespace OpenSession

/-- A session with the pool the parameters describe. -/
def start (config : OpenConfig) (generator : Generator) : OpenSession :=
  ⟨Pool.start config.preAllocated.toNat config.maxCallers.toNat, generator, []⟩

/-- Arrival number `index`. -/
def arrive (session : OpenSession) (index : Value) : Admission × OpenSession :=
  match session.pool.arrive with
  | (none, pool) => (.dropped, { session with pool := pool })
  | (some (caller, key), pool) =>
      match session.generator.generate index with
      | (.ok order, generator) =>
          (.issued key order,
            { session with pool := pool, generator := generator,
                           pending := session.pending ++ [(key, caller)] })
      | (.error failure, generator) =>
          (.broken key failure, { session with pool := pool.release, generator := generator })

/-- The outstanding submission under `key` finished with `sample`; a key that
is not outstanding changes nothing. -/
def resolve (session : OpenSession) (key : String) (sample : Sample) : OpenSession :=
  match session.pending.find? fun (pendingKey, _) => pendingKey == key with
  | none => session
  | some (_, caller) =>
      { session with pool := session.pool.finish caller sample,
                     pending := session.pending.filter fun (pendingKey, _) => pendingKey != key }

/-- The outstanding submission under `key` raised an exception of kind `kind`. -/
def fail (session : OpenSession) (key kind message : String) : OpenSession :=
  session.resolve key (Cue.failedAttempt (.raised kind message))

/-- The outstanding submission under `key` is cancelled: it ends without a
sample, so its slot is released and its caller lost; a key that is not
outstanding changes nothing. -/
def cancel (session : OpenSession) (key : String) : OpenSession :=
  match session.pending.find? fun (pendingKey, _) => pendingKey == key with
  | none => session
  | some _ =>
      { session with pool := session.pool.release,
                     pending := session.pending.filter fun (pendingKey, _) => pendingKey != key }

/-- Cancel every outstanding submission: how many there were, and the session
after. -/
def drain (session : OpenSession) : Nat × OpenSession :=
  (session.pending.length,
    { session with pool := session.pending.foldl (fun pool _ => pool.release) session.pool,
                   pending := [] })

end OpenSession

/-- What can happen to an open-loop session. -/
inductive SessionEvent where
  /-- Arrival number `index`. -/
  | arrive (index : Value)
  /-- The submission under `key` finished with `sample`. -/
  | complete (key : String) (sample : Sample)
  /-- The submission under `key` raised an exception of kind `kind`. -/
  | raise (key kind message : String)
  /-- The submission under `key` was cancelled. -/
  | cancel (key : String)
  /-- Every outstanding submission was cancelled. -/
  | drain
  deriving Inhabited

namespace OpenSession

/-- The session after an event. -/
def apply (session : OpenSession) : SessionEvent → OpenSession
  | .arrive index => (session.arrive index).2
  | .complete key sample => session.resolve key sample
  | .raise key kind message => session.fail key kind message
  | .cancel key => session.cancel key
  | .drain => session.drain.2

/-- The session after a sequence of events, in order. -/
def replay (session : OpenSession) (events : List SessionEvent) : OpenSession :=
  events.foldl apply session

end OpenSession

end LoadHarness
