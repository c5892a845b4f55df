import LoadHarness.Measure.Sample
import LoadHarness.Failure

/-!
# Scripted targets

A scripted target stands in for the order endpoint: it answers call `i` with
cue `i mod n` of a script of `n` cues, and an empty script with the default
cue.  A cue either raises an exception of a named kind, or answers with a
sample built from its fields: latency 1.0 ms, success and status 200 unless
the cue says otherwise.

The sample a cue gives is what a driver records for the call.  An exception,
and a sample whose fields the sample schema rejects, are recorded as a failed
attempt of latency 0 with the exception as its outcome, because a frozen
clock measures nothing.
-/

namespace LoadHarness

/-- What a scripted target does on one call. -/
inductive Cue where
  /-- Raise an exception of kind `kind` with `message`. -/
  | raise (kind message : String)
  /-- Answer with a sample of these fields: an object of `latency_ms`, `ok`,
  `status_code` and `error`. -/
  | answer (fields : Value)
  deriving Inhabited

namespace Cue

/-- The sample fields a step names: `latency_ms` (default `latency`), `ok`
(default true), `status_code` (default 200) and `error` (default null). -/
def sampleFields (latency : Value) (step : Value) : Value :=
  let given (key : String) (fallback : Value) := (step.field? key).getD fallback
  .obj [("latency_ms", given "latency_ms" latency), ("ok", given "ok" (.bool true)),
    ("status_code", given "status_code" (.int 200)), ("error", given "error" .null)]

/-- The cue of an empty script: a successful sample of 1.0 ms and status 200. -/
def standard : Cue := .answer (sampleFields (.float 1.0) (.obj []))

/-- A cue read from data: `raise` and `message` for an exception, otherwise
the sample fields of the step, the latency defaulting to `latency`. -/
def ofValue (latency : Value) (step : Value) : Cue :=
  match step.field? "raise" with
  | some kind => .raise kind.text ((step.field? "message").getD (.str "")).text
  | none => .answer (sampleFields latency step)

/-- The attempt recorded when a call fails with `failure` after `latency` ms. -/
def failedAttempt (failure : Failure) (latency : Float := 0.0) : Sample :=
  ⟨latency, false, none, some failure.outcomeText⟩

/-- The sample a driver records for a call answered by the cue after
`elapsed` ms (an exception measures the elapsed time; an answer brings its
own latency). -/
def sample (cue : Cue) (elapsed : Float := 0.0) : Sample :=
  match cue with
  | .raise kind message => failedAttempt (.raised kind message) elapsed
  | .answer fields =>
      match Sample.validate fields with
      | .ok sample => sample
      | .error rejection => failedAttempt (.rejected rejection) elapsed

end Cue

/-- The cues of a scripted target, used in turn. -/
abbrev Script := List Cue

namespace Script

/-- The cue for call `call`, counted from 0. -/
def cueAt (script : Script) (call : Nat) : Cue :=
  (script[call % script.length]?).getD Cue.standard

end Script

end LoadHarness
