import LoadHarness.Validation.Record
import LoadHarness.Value.Compare

/-!
# Latency samples

A `Sample` is one round trip: its latency in milliseconds (never negative),
whether it counts as a success, the status code of the response if there was
one, and the error if there was one.  `Sample.validate` reads one from loose
data; `Sample.precedes` is the order in which finished runs list their
samples: by latency, failures before successes, samples without a status
before those with one, then by status code and by error text.
-/

namespace LoadHarness

/-- One measured round trip. -/
structure Sample where
  latencyMs : Float
  ok : Bool
  statusCode : Option Int := none
  error : Option String := none
  deriving Inhabited

namespace Sample

/-- The schema title of samples. -/
def title : String := "LatencySample"

/-- The keys of a sample's fields, in declaration order. -/
def keys : List FieldKey :=
  [.plain "latency_ms", .plain "ok", .plain "status_code", .plain "error"]

/-- A sample read from an object of loose data. -/
def validate (input : Value) : Except Rejection Sample := do
  let fields ← objectFields title (.modelType title) input
  let latency := FieldRead.required input fields (.plain "latency_ms") (Lax.floatAtLeast 0.0 "0")
  let ok := FieldRead.required input fields (.plain "ok") Lax.bool
  let status := FieldRead.withDefault fields (.plain "status_code") none (Lax.nullable Lax.int)
  let error := FieldRead.withDefault fields (.plain "error") none (Lax.nullable Lax.string)
  let surplus := surplusIssues fields keys
  match latency, ok, status, error, surplus with
  | .ok latency, .ok ok, .ok status, .ok error, [] => pure ⟨latency, ok, status, error⟩
  | _, _, _, _, _ =>
      .error ⟨title, [latency.issue?, ok.issue?, status.issue?, error.issue?].filterMap id ++ surplus⟩

/-- A sample as data: `latency_ms`, `ok`, `status_code`, `error`. -/
def toValue (sample : Sample) : Value :=
  .obj [("latency_ms", .float sample.latencyMs), ("ok", .bool sample.ok),
    ("status_code", Value.ofOptionInt sample.statusCode), ("error", Value.ofOptionString sample.error)]

/-- The order of finished samples: by latency, then failures first, then
samples without a status first, then by status code (none counting as 0),
then by error text (none counting as empty). -/
def precedes (a b : Sample) : Bool :=
  if a.latencyMs < b.latencyMs then true
  else if b.latencyMs < a.latencyMs then false
  else if a.ok != b.ok then !a.ok
  else if a.statusCode.isSome != b.statusCode.isSome then a.statusCode.isNone
  else
    let statusA := a.statusCode.getD 0
    let statusB := b.statusCode.getD 0
    if statusA != statusB then statusA < statusB
    else Value.textOrder (a.error.getD "") (b.error.getD "") == .lt

/-- Samples in the order of `precedes`, equal ones kept in their order. -/
def arrange (samples : List Sample) : List Sample :=
  samples.mergeSort fun a b => !precedes b a

end Sample

end LoadHarness
