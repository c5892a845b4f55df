import LoadHarness.Failure

/-!
# Header values

A request's header values travel as ASCII bytes.  Only text can be a header
value, and only text in ASCII can be encoded; any other value stops the
request before it is sent.
-/

namespace LoadHarness

namespace Header

/-- The text a header value is sent as, or why it cannot be sent. -/
def encode : Value → Except Failure String
  | .str text =>
      match Ascii.fault? text with
      | some fault => .error (.headerNotAscii fault)
      | none => .ok text
  | other => .error (.headerType other.kindName)

end Header

end LoadHarness
