import LoadHarness.Validation.Record
import LoadHarness.Failure

/-!
# Run configuration

The address of the target is built from a host and a port: a host that
already names its scheme (`http://` or `https://`) loses its trailing slashes,
any other host gets `http://` in front.  The host must be text; the port is
written in its text form.

A closed-loop run is configured by `ClosedConfig` (host, a port strictly
between 0 and 65536, a number of orders of at least 0 and a concurrency of at
least 1), an open-loop run by `OpenConfig` (a positive rate and duration, at
least one pre-allocated caller, at least one caller in all and no fewer than
the pre-allocated ones, and a non-negative grace period).

An open-loop run makes the arrivals due strictly before its deadline: `k` is
due at `k / rate`, and `expectedArrivals` counts them as the least integer not
below `rate · duration - 10⁻⁹`, computed in doubles.
-/

namespace LoadHarness

/-- The address of the target at `host` and `port`. -/
def baseUrl (host : String) (port : Value) : String :=
  if host.startsWith "http://" || host.startsWith "https://" then
    String.ofList ((host.toList.reverse.dropWhile (· == '/')).reverse) ++ ":" ++ port.text
  else "http://" ++ host ++ ":" ++ port.text

/-- The address of the target at a host and port given as data: the host must
be text, since its scheme is looked for. -/
def baseUrlOf (host port : Value) : Except Failure String :=
  match host with
  | .str text => .ok (baseUrl text port)
  | other => .error (.noAttribute other.kindName "startswith")

/-- The parameters of a closed-loop run. -/
structure ClosedConfig where
  host : String := "localhost"
  port : Int := 8080
  totalOrders : Int := 1000
  concurrency : Int := 20
  deriving Inhabited

namespace ClosedConfig

/-- The schema title of closed-loop parameters. -/
def title : String := "ClosedLoopConfig"

/-- The keys of the fields, in declaration order. -/
def keys : List FieldKey :=
  [.plain "host", .plain "port", .plain "total_orders", .plain "concurrency"]

/-- Closed-loop parameters read from named arguments; absent ones take their defaults. -/
def validate (input : Value) : Except Rejection ClosedConfig := do
  let fields ← objectFields title (.modelType title) input
  let host := FieldRead.withDefault fields (.plain "host") "localhost" Lax.string
  let port := FieldRead.withDefault fields (.plain "port") 8080 (Lax.intBetween 0 65536)
  let total := FieldRead.withDefault fields (.plain "total_orders") 1000 (Lax.intAtLeast 0)
  let concurrency := FieldRead.withDefault fields (.plain "concurrency") 20 (Lax.intAtLeast 1)
  let surplus := surplusIssues fields keys
  match host, port, total, concurrency, surplus with
  | .ok host, .ok port, .ok total, .ok concurrency, [] => pure ⟨host, port, total, concurrency⟩
  | _, _, _, _, _ =>
      .error ⟨title, [host.issue?, port.issue?, total.issue?, concurrency.issue?].filterMap id ++ surplus⟩

/-- The parameters as data. -/
def toValue (config : ClosedConfig) : Value :=
  .obj [("host", .str config.host), ("port", .int config.port),
    ("total_orders", .int config.totalOrders), ("concurrency", .int config.concurrency)]

end ClosedConfig

/-- The parameters of an open-loop run. -/
structure OpenConfig where
  rate : Float := 2000.0
  duration : Float := 30.0
  preAllocated : Int := 500
  maxCallers : Int := 2000
  gracefulStop : Float := 30.0
  deriving Inhabited

namespace OpenConfig

/-- The schema title of open-loop parameters. -/
def title : String := "OpenLoopConfig"

/-- The keys of the fields, in declaration order. -/
def keys : List FieldKey :=
  [.plain "rate", .plain "duration", .plain "pre_allocated_callers", .plain "max_callers",
    .plain "graceful_stop"]

/-- Open-loop parameters read from named arguments; absent ones take their
defaults.  Once every field is valid, the callers in all must be at least the
pre-allocated ones. -/
def validate (input : Value) : Except Rejection OpenConfig := do
  let fields ← objectFields title (.modelType title) input
  let rate := FieldRead.withDefault fields (.plain "rate") 2000.0 (Lax.floatAbove 0.0 "0")
  let duration := FieldRead.withDefault fields (.plain "duration") 30.0 (Lax.floatAbove 0.0 "0")
  let pre := FieldRead.withDefault fields (.plain "pre_allocated_callers") 500 (Lax.intAtLeast 1)
  let most := FieldRead.withDefault fields (.plain "max_callers") 2000 (Lax.intAtLeast 1)
  let grace := FieldRead.withDefault fields (.plain "graceful_stop") 30.0 (Lax.floatAtLeast 0.0 "0")
  let surplus := surplusIssues fields keys
  match rate, duration, pre, most, grace, surplus with
  | .ok rate, .ok duration, .ok pre, .ok most, .ok grace, [] =>
      if most < pre then
        .error ⟨title, [⟨.valueError "max_callers must be >= pre_allocated_callers", [], input⟩]⟩
      else pure ⟨rate, duration, pre, most, grace⟩
  | _, _, _, _, _, _ =>
      .error ⟨title, [rate.issue?, duration.issue?, pre.issue?, most.issue?, grace.issue?].filterMap id
        ++ surplus⟩

/-- The parameters as data. -/
def toValue (config : OpenConfig) : Value :=
  .obj [("rate", .float config.rate), ("duration", .float config.duration),
    ("pre_allocated_callers", .int config.preAllocated), ("max_callers", .int config.maxCallers),
    ("graceful_stop", .float config.gracefulStop)]

/-- The slack subtracted before rounding up the product of rate and duration: `10⁻⁹`. -/
def slack : Float := Binary.nearest false 1 1000000000

/-- The number of arrivals due strictly before the deadline: the least integer
not below `rate · duration - 10⁻⁹`; an infinite product cannot be counted. -/
def expectedArrivals (config : OpenConfig) : Except Failure Int :=
  match FloatShape.of (config.rate * config.duration - slack) with
  | .finite value => .ok (Binary.ceilOf value)
  | .infinite _ => .error .infiniteToInteger
  | .nan => .error .nanToInteger

end OpenConfig

end LoadHarness
