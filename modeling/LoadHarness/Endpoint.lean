import LoadHarness.Order.Basic
import LoadHarness.Measure.Sample
import LoadHarness.Header
import LoadHarness.Address

/-!
# The order endpoint

Orders are submitted one by one to an endpoint of the target: a POST of the
order's JSON to the endpoint's address, with the content type, an idempotency
key and, when one is configured (and is not empty, zero or false), an API key
among the headers.  The base address must be text, as its trailing slashes
are stripped; the path is appended in its text form.  A status
counts as success when it is the expected one, or, when no status is
expected, any status from 200 to 299.

Submitting never fails: every way the attempt can go wrong is recorded in the
sample it gives, with the time the attempt took on the clock.

* A header value that is not text, or is text outside ASCII, cannot be
  encoded, and nothing is sent.
* A timeout of the transport is recorded as `timeout:` and its kind; any other
  exception as `error:`, its kind and its message.
* An address that cannot be read (see `Address.parse`) is refused before
  anything is sent.
* A relative address (without scheme or host) is taken against the empty
  base, and refused once the response has arrived, when the response's
  cookies are read: their reader knows no address without a scheme.
-/

namespace LoadHarness

/-- Which statuses count as success. -/
inductive SuccessRule where
  /-- Exactly the given status. -/
  | exactly (status : Value)
  /-- Any status from 200 to 299. -/
  | anyOk
  deriving Inhabited

namespace SuccessRule

/-- Whether the rule accepts a status given as data; a status that cannot be
compared with 200 or 300 is refused with the reason. -/
def accepts : SuccessRule → Value → Except OperandFault Bool
  | .exactly expected, status => .ok (Value.equals status expected)
  | .anyOk, status =>
      match Value.relate .lessEqual (.int 200) status with
      | .ok true => Value.relate .less status (.int 300)
      | outcome => outcome

/-- Whether the rule accepts a status code. -/
def acceptsCode : SuccessRule → Int → Bool
  | .exactly expected, code => Value.equals (.int code) expected
  | .anyOk, code => 200 ≤ code && code < 300

end SuccessRule

/-- The endpoint orders are submitted to. -/
structure Endpoint where
  /-- The address: the base address without trailing slashes, then the path. -/
  url : String
  /-- The API key configured, sent with each order when it is not empty, zero,
  false or null. -/
  apiKey : Value := .null
  success : SuccessRule := .exactly (.int 200)
  deriving Inhabited

/-- What the transport does with a request: answer with a status, or raise an
exception of the named kind. -/
inductive Reply where
  | status (code : Int)
  | raise (kind message : String)
  deriving Inhabited

/-- A request as it reached the transport. -/
structure Request where
  method : String
  /-- Header names in lower case, with their values. -/
  headers : List (String × String)
  body : String
  deriving Inhabited

/-- Why a submission did not get a status. -/
inductive SendFault where
  /-- The transport timed out. -/
  | timeout (kind : String)
  /-- The transport raised an exception other than a timeout. -/
  | raised (kind message : String)
  /-- A header value could not be encoded. -/
  | header (failure : Failure)
  /-- The address cannot be read. -/
  | invalidUrl (message : String)
  /-- The address, as sent, has no scheme. -/
  | unknownUrlType (url : String)
  deriving Inhabited

namespace SendFault

/-- The kinds of exception that are timeouts. -/
def timeoutKinds : List String := ["ConnectTimeout", "ReadTimeout", "WriteTimeout", "PoolTimeout"]

/-- The fault of an exception raised by the transport. -/
def ofRaised (kind message : String) : SendFault :=
  if timeoutKinds.contains kind then .timeout kind else .raised kind message

/-- How the fault is recorded in a sample. -/
def outcome : SendFault → String
  | .timeout kind => "timeout:" ++ kind
  | .raised kind message => (Failure.raised kind message).outcomeText
  | .header failure => failure.outcomeText
  | .invalidUrl message => (Failure.raised "InvalidURL" message).outcomeText
  | .unknownUrlType url =>
      (Failure.raised "ValueError" ("unknown url type: " ++ Quoted.quote url)).outcomeText

end SendFault

/-- The outcome of one submission: the request, when it reached the transport,
and the sample recorded. -/
structure Exchange where
  request : Option Request
  sample : Sample
  deriving Inhabited

namespace Endpoint

/-- The endpoint for a base address and a path. -/
def ofParts (baseUrl path : String) (apiKey : Value) (success : SuccessRule) : Endpoint :=
  let base := String.ofList ((baseUrl.toList.reverse.dropWhile (· == '/')).reverse)
  ⟨base ++ path, apiKey, success⟩

/-- The endpoint for a base address and a path given as data: the base
address must be text, and the path is taken in its text form. -/
def ofData (baseUrl path apiKey : Value) (success : SuccessRule) : Except Failure Endpoint :=
  match baseUrl with
  | .str base => .ok (ofParts base path.text apiKey success)
  | other => .error (.noAttribute other.kindName "rstrip")

/-- The headers sent with an order under an idempotency key, as data. -/
def headers (endpoint : Endpoint) (key : Value) : List (String × Value) :=
  [("Content-Type", .str "application/json"), ("Idempotency-Key", key)] ++
    if endpoint.apiKey.truthy then [("X-API-Key", endpoint.apiKey)] else []

/-- Whether a status code counts as success. -/
def isSuccess (endpoint : Endpoint) (code : Int) : Bool := endpoint.success.acceptsCode code

/-- What the client makes of one POST of an order under an idempotency key, to a
transport that replies with `reply`: the request as it reached the transport, if
it did, and the status of the response or the fault raised. -/
def send (endpoint : Endpoint) (reply : Reply) (order : Order) (key : Value) :
    Option Request × Except SendFault Int :=
  match Address.parse endpoint.url with
  | .error message => (none, .error (.invalidUrl message))
  | .ok address =>
      match (endpoint.headers key).mapM fun (name, value) => (Header.encode value).map (name, ·) with
      | .error failure => (none, .error (.header failure))
      | .ok headers =>
          let request : Request :=
            ⟨"POST", headers.map fun (name, value) => (Ascii.lower name, value), order.toJson⟩
          (some request,
            match reply with
            | .raise kind message => .error (SendFault.ofRaised kind message)
            | .status code =>
                if address.isAbsolute then .ok code else .error (.unknownUrlType address.againstEmptyBase))

/-- The sample of an attempt that took `latency` ms: a response counts as
success by its status, a fault as a failure without a status. -/
def record (endpoint : Endpoint) (outcome : Except SendFault Int) (latency : Float) : Sample :=
  match outcome with
  | .ok code => ⟨latency, endpoint.isSuccess code, some code, none⟩
  | .error fault => ⟨latency, false, none, some fault.outcome⟩

/-- Submit an order under an idempotency key to a transport that replies with
`reply`, the clock reading `started` before the request and `finished` once it
ended: the latency is their difference in milliseconds. -/
def submit (endpoint : Endpoint) (reply : Reply) (order : Order) (key : Value)
    (started finished : Float := 0.0) : Exchange :=
  let (request, outcome) := endpoint.send reply order key
  ⟨request, endpoint.record outcome ((finished - started) * 1000.0)⟩

end Endpoint

end LoadHarness
