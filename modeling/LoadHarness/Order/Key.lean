import LoadHarness.Value.Show

/-!
# Idempotency keys

Every submission carries an idempotency key: the caller's name, a dash, and
the caller's sequence number, each written as its bare text.  A caller that
never reuses a sequence number never reuses a key.
-/

namespace LoadHarness

/-- The idempotency key of submission `sequence` of `caller`. -/
def idempotencyKey (caller sequence : Value) : String :=
  caller.text ++ "-" ++ sequence.text

end LoadHarness
