import LoadHarness.Target.Intake

/-!
# An intake serving submissions concurrently

An intake handles many submissions at once.  A submission's body and API key
are checked as it comes in (`Intake.refusal`), which reads nothing the intake
remembers; a submission that passes then waits out the intake's delay, and
the waiting submissions resume in whatever order the event loop picks.  Once
resumed, the handler answers without waiting again (`Intake.resume`), so the
submissions act on the remembered keys one at a time, in the order they
resume.

`Serving` is that state, the intake with the submissions waiting, and
`Serving.replay` applies a sequence of arrivals and resumptions in order.  An
acceptance that fails (a key limit that is not a number) stops the run.
-/

namespace LoadHarness

/-- An intake with the submissions waiting out its delay. -/
structure Serving where
  intake : Intake
  /-- The idempotency keys of the submissions waiting, in the order they came in. -/
  waiting : List (Option String) := []

/-- What can happen while an intake serves. -/
inductive ServingEvent where
  /-- A submission comes in. -/
  | submit (body : Body) (key apiKey : Option String)
  /-- The waiting submission at position `slot` resumes. -/
  | resume (slot : Nat)

namespace Serving

/-- A submission comes in: one refused for its body or its API key is answered
at once, any other waits. -/
def submit (serving : Serving) (body : Body) (key apiKey : Option String) :
    Option IntakeReply × Serving :=
  match Intake.refusal serving.intake.settings body apiKey with
  | some refused => (some refused, serving)
  | none => (none, { serving with waiting := serving.waiting ++ [key] })

/-- The waiting submission at `slot` resumes and is answered; a slot where
none waits changes nothing. -/
def resume (serving : Serving) (slot : Nat) : Except Failure (Option IntakeReply × Serving) :=
  match serving.waiting[slot]? with
  | none => .ok (none, serving)
  | some key => do
      let (reply, intake) ← serving.intake.resume key
      pure (some reply, { intake := intake, waiting := serving.waiting.eraseIdx slot })

/-- The answer an event gives, if any, and the intake after it. -/
def apply (serving : Serving) : ServingEvent → Except Failure (Option IntakeReply × Serving)
  | .submit body key apiKey => .ok (serving.submit body key apiKey)
  | .resume slot => serving.resume slot

/-- The intake after a sequence of events, or the failure that stopped it. -/
def replay (serving : Serving) : List ServingEvent → Except Failure Serving
  | [] => .ok serving
  | event :: rest => do
      let (_, next) ← serving.apply event
      next.replay rest

end Serving

end LoadHarness
