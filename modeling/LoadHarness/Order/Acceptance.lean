import LoadHarness.Validation.Record

/-!
# Order acceptances

An `Acceptance` is what the order intake answers for an accepted order: the
order's id, the idempotency key it was submitted under (if any), its status,
always `open`, and when it was created.
-/

namespace LoadHarness

/-- The answer to an accepted order. -/
structure Acceptance where
  orderId : String
  idempotencyKey : Option String := none
  status : String := "open"
  createdAt : String
  deriving Inhabited

namespace Acceptance

/-- The schema title of acceptances. -/
def title : String := "OrderAccepted"

/-- The keys of an acceptance's fields, in declaration order. -/
def keys : List FieldKey :=
  [.plain "order_id", .plain "idempotency_key", .plain "status", .plain "created_at"]

/-- An acceptance read from an object of loose data. -/
def validate (input : Value) : Except Rejection Acceptance := do
  let fields ← objectFields title (.modelType title) input
  let orderId := FieldRead.required input fields (.plain "order_id") Lax.string
  let key := FieldRead.withDefault fields (.plain "idempotency_key") none (Lax.nullable Lax.string)
  let status := FieldRead.withDefault fields (.plain "status") "open" (Lax.literal ["open"])
  let createdAt := FieldRead.required input fields (.plain "created_at") Lax.string
  let surplus := surplusIssues fields keys
  match orderId, key, status, createdAt, surplus with
  | .ok orderId, .ok key, .ok status, .ok createdAt, [] => pure ⟨orderId, key, status, createdAt⟩
  | _, _, _, _, _ =>
      .error ⟨title, [orderId.issue?, key.issue?, status.issue?, createdAt.issue?].filterMap id ++ surplus⟩

/-- An acceptance as data: `order_id`, `idempotency_key`, `status`, `created_at`. -/
def toValue (acceptance : Acceptance) : Value :=
  .obj [("order_id", .str acceptance.orderId),
    ("idempotency_key", Value.ofOptionString acceptance.idempotencyKey),
    ("status", .str acceptance.status), ("created_at", .str acceptance.createdAt)]

end Acceptance

end LoadHarness
