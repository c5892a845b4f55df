import LoadHarness.Order.Basic
import LoadHarness.Json.Bytes
import LoadHarness.Header

/-!
# The order intake

The order intake is the target that load is driven against.  It accepts an
order body, deduplicates submissions by their idempotency key, may demand an
API key, and may be set to fail every order.

A submission is checked in this order:

1. the body: an empty body is missing; the bytes of a body are read as text
   in the encoding they suggest (see `Json.textOfBytes`), and a body that is
   not a JSON document is refused at the character where decoding stopped;
   a body that cannot be read at all (bytes in no encoding, an integer of
   more than 4300 digits, lists and objects nested more than 950 deep) is
   unreadable; and the document must be an order (issues are located under
   `body`);
2. the API key, when the intake demands one: a submission without the key, or
   with another, is unauthorized, and a demanded key that is not text admits
   no submission at all;
3. a failing intake refuses every order;
4. a key the intake has already accepted gets that acceptance again;
5. otherwise the order is accepted under the next order number, and its key,
   if it has one, is remembered.  When more keys are remembered than the
   limit, the oldest one is forgotten; only one is forgotten per acceptance,
   so a limit below 1 forgets the new key at once.  The count is compared
   with the limit as numbers are, so a limit that is not a number fails the
   first acceptance under a key.

A refusal lists its issues with their inputs, and is sent as JSON: when an
input holds an infinite or NaN double, the refusal cannot be written and the
request fails instead.

A client sending to the intake encodes its header values as ASCII, and sends
raw content only when it is text (`Body.ofParts`); a request that breaks
either rule fails before it reaches the intake (`Intake.send`).
-/

namespace LoadHarness

/-- How an intake is set up. -/
structure IntakeSettings where
  /-- Fail every order. -/
  failing : Bool := false
  /-- The API key demanded, if any; a key that is not text matches no header. -/
  apiKey : Option Value := none
  /-- The most idempotency keys remembered, compared with the number held as
  numbers are compared. -/
  keyLimit : Value := .int 100000
  deriving Inhabited

namespace IntakeSettings

/-- Whether an API key header lets a submission through: any header when no
key is demanded, otherwise exactly the key demanded. -/
def admits (settings : IntakeSettings) (apiKey : Option String) : Bool :=
  match settings.apiKey with
  | none => true
  | some (.str key) => apiKey == some key
  | some _ => false

/-- Whether `held` keys are more than the limit, or why the two cannot be compared. -/
def exceeded (settings : IntakeSettings) (held : Nat) : Except Failure Bool :=
  (Value.relate .greater (.int held) settings.keyLimit).mapError Failure.unorderable

end IntakeSettings

/-- The body of a submission as it arrives. -/
inductive Body where
  /-- No body at all. -/
  | empty
  /-- A body of raw text. -/
  | text (raw : String)
  /-- A body that is a JSON document. -/
  | document (value : Value)
  deriving Inhabited

/-- The body a client sends: a JSON document goes as its JSON text, so a null
document is the text null and not a missing body; raw content must be text,
and no content at all is an empty body. -/
def Body.ofParts (document raw : Option Value) : Except Failure Body :=
  match document, raw with
  | some value, _ => .ok (.document value)
  | none, some (.str content) => .ok (.text content)
  | none, some .null | none, none => .ok .empty
  | none, some other => .error (.contentType other.kindName)

/-- The intake's answer to a request. -/
inductive IntakeReply where
  /-- The order was accepted as order number `order`, under `key`. -/
  | accepted (order : Nat) (key : Option String)
  /-- The intake is up and remembers `keys` keys. -/
  | healthy (keys : Nat)
  /-- The body was refused for these issues. -/
  | invalid (issues : List Issue)
  /-- The body could not be read. -/
  | unreadable
  /-- The API key was missing or wrong. -/
  | unauthorized
  /-- The intake is set to fail. -/
  | failed
  deriving Inhabited

namespace IntakeReply

/-- The status code of a reply. -/
def status : IntakeReply → Nat
  | .accepted _ _ => 200
  | .healthy _ => 200
  | .invalid _ => 422
  | .unreadable => 400
  | .unauthorized => 401
  | .failed => 500

/-- The explanation sent with a refusal that is not about the body. -/
def detail : IntakeReply → Option String
  | .unauthorized => some "Unauthorized"
  | .failed => some "Simulated order intake failure"
  | .unreadable => some "There was an error parsing the body"
  | _ => none

end IntakeReply

/-- The state of an intake: its settings, the keys it remembers with their
order numbers (oldest first), and how many orders it accepted. -/
structure Intake where
  settings : IntakeSettings
  remembered : List (String × Nat) := []
  orders : Nat := 0
  deriving Inhabited

namespace Intake

/-- The schema title of order bodies. -/
def bodyTitle : String := "OrderCreateRequest"

/-- Why a body was refused. -/
inductive Refusal where
  /-- The body could not be read. -/
  | unreadable
  /-- The body is not an order, for these issues. -/
  | issues (found : List Issue)
  deriving Inhabited

/-- The bounds the intake sets on the documents it reads. -/
def bodyBounds : Json.Bounds := ⟨some 4300, some 950⟩

/-- The refusal of a submission without a body. -/
def missingBody : Refusal := .issues [⟨.missing, [.key "body"], .null⟩]

/-- The order a body holds, or why it is refused. -/
def readBody : Body → Except Refusal Order
  | .empty => .error missingBody
  | .text raw =>
      if raw.isEmpty then .error missingBody
      else
      match Json.textOfBytes raw.toUTF8 with
      | none => .error .unreadable
      | some text =>
          match Json.decodeWithin bodyBounds text with
          | .error (.invalid _ position) =>
              .error (.issues [⟨.bodyNotJson, [.key "body", .index position], .obj []⟩])
          | .error _ => .error .unreadable
          | .ok value => readBody.document value
  | .document value => readBody.document value
where
  /-- The order a decoded body holds. -/
  document (value : Value) : Except Refusal Order :=
    match Order.validate bodyTitle .modelAttributesType value with
    | .ok order => .ok order
    | .error rejection => .error (.issues (rejection.under (.key "body")).issues)

/-- The intake's health. -/
def health (intake : Intake) : IntakeReply := .healthy intake.remembered.length

/-- Accept a new order under `key`, or fail when the keys held cannot be
compared with the limit. -/
def accept (intake : Intake) (key : Option String) : Except Failure (IntakeReply × Intake) := do
  let order := intake.orders + 1
  let remembered ←
    match key with
    | none => pure intake.remembered
    | some key =>
        let grown := intake.remembered ++ [(key, order)]
        let overflowing ← intake.settings.exceeded grown.length
        pure (if overflowing then grown.drop 1 else grown)
  pure (.accepted order key, { intake with remembered := remembered, orders := order })

/-- What a submission meets before the handler waits out its delay: the body,
then the API key.  None when it passes; nothing the intake remembers is read. -/
def refusal (settings : IntakeSettings) (body : Body) (apiKey : Option String) :
    Option IntakeReply :=
  match readBody body with
  | .error .unreadable => some .unreadable
  | .error (.issues found) => some (.invalid found)
  | .ok _ => if !settings.admits apiKey then some .unauthorized else none

/-- What the handler does with a submission under `key` once the delay is over:
a failing intake refuses it, a key already accepted gets that acceptance
again, and anything else is accepted.  Nothing in it waits, so the keys
remembered are read and updated in one go. -/
def resume (intake : Intake) (key : Option String) : Except Failure (IntakeReply × Intake) :=
  if intake.settings.failing then .ok (.failed, intake)
  else
    match key.bind fun key => (intake.remembered.find? (·.1 == key)).map (·.2) with
    | some order => .ok (.accepted order key, intake)
    | none => intake.accept key

/-- The reply to a submission of `body` with the given idempotency key and API
key headers, and the intake after it; or the failure of an acceptance. -/
def reply (intake : Intake) (body : Body) (key apiKey : Option String) :
    Except Failure (IntakeReply × Intake) :=
  match refusal intake.settings body apiKey with
  | some refused => .ok (refused, intake)
  | none => intake.resume key

mutual

/-- Whether every double in a datum, however deeply nested, is finite. -/
def finiteThroughout : Value → Bool
  | .float x => Binary.isFinite x
  | .arr items => finiteItems items
  | .obj fields => finiteFields fields
  | _ => true

/-- Whether every double in a list of data is finite. -/
def finiteItems : List Value → Bool
  | [] => true
  | item :: rest => finiteThroughout item && finiteItems rest

/-- Whether every double in the values of an object's fields is finite. -/
def finiteFields : List (String × Value) → Bool
  | [] => true
  | (_, value) :: rest => finiteThroughout value && finiteFields rest

end

/-- Whether a reply can be written as JSON: no input of its issues holds an
infinite or NaN double. -/
def writable : IntakeReply → Bool
  | .invalid issues => issues.all fun issue => finiteThroughout issue.input
  | _ => true

/-- A submission of `body` with the given idempotency key and API key headers:
the reply and the intake after it, or the failure of a reply that cannot be
written. -/
def submit (intake : Intake) (body : Body) (key apiKey : Option String) :
    Except Failure (IntakeReply × Intake) := do
  let (answer, after) ← intake.reply body key apiKey
  if writable answer then pure (answer, after) else .error .notJsonCompliant

/-- A request to the intake as a client sends it: the idempotency key and API
key headers must be ASCII text, or the request fails before it is sent;
otherwise the intake replies as `submit` says. -/
def send (intake : Intake) (body : Body) (key apiKey : Option Value) :
    Except Failure (IntakeReply × Intake) := do
  let key ← key.mapM Header.encode
  let apiKey ← apiKey.mapM Header.encode
  intake.submit body key apiKey

end Intake

end LoadHarness
