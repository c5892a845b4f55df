import LoadHarness.Value.Arith
import LoadHarness.Validation.Issue
import LoadHarness.Text.Conversion
import LoadHarness.Text.Ascii

/-!
# Failures

Every way an operation of the harness can fail, by cause.  A failure has a
class name and a message, the two texts a caller sees; `Failure.outcomeText`
is how a failed attempt is recorded in a latency sample, `error:` followed by
both.
-/

namespace LoadHarness

/-- Why an operation failed. -/
inductive Failure where
  /-- A summary was asked of no latency samples. -/
  | noSamples
  /-- A percentile rank outside `[0, 1)`. -/
  | percentileRange (rank : Value)
  /-- Two data that cannot be ordered were compared. -/
  | unorderable (fault : OperandFault)
  /-- An arithmetic operation on data failed. -/
  | arithmetic (fault : ArithFault)
  /-- A record schema rejected its input. -/
  | rejected (rejection : Rejection)
  /-- A closed loop was asked for fewer than one slot. -/
  | concurrency (given : Value)
  /-- The source of orders broke off. -/
  | sourceFailed
  /-- An infinite double was turned into an integer. -/
  | infiniteToInteger
  /-- A NaN was turned into an integer. -/
  | nanToInteger
  /-- A logging level that is neither a number nor a string. -/
  | levelType (given : Value)
  /-- A count that is not a whole number. -/
  | notAnInteger (kind : String)
  /-- Data without a length was used as a sequence. -/
  | noLength (kind : String)
  /-- Data that cannot be iterated over was used as a sequence. -/
  | notIterable (kind : String)
  /-- A key was looked up that an object does not have. -/
  | missingKey (key : Value)
  /-- A template could not be filled with its argument. -/
  | template (fault : Conversion.Fault)
  /-- A reply held an infinite or NaN double and could not be written as JSON. -/
  | notJsonCompliant
  /-- A header value held characters outside ASCII. -/
  | headerNotAscii (fault : Ascii.EncodeFault)
  /-- A header value of the named kind, which is not text. -/
  | headerType (kind : String)
  /-- An attribute was asked of data of the named kind, which does not have it. -/
  | noAttribute (kind name : String)
  /-- A request body of the named kind, which is neither text nor bytes. -/
  | contentType (kind : String)
  /-- A random source was seeded with data that is neither nothing, a number nor text. -/
  | seedType
  /-- An exception of the named class raised by a collaborator, with its message. -/
  | raised (kind : String) (message : String)
  deriving Inhabited

namespace Failure

/-- The class name of a failure. -/
def className : Failure → String
  | .noSamples => "NoSamplesError"
  | .percentileRange _ => "ValueError"
  | .unorderable _ => "TypeError"
  | .arithmetic (.unsupported _) => "TypeError"
  | .arithmetic .wholeTooLarge => "OverflowError"
  | .arithmetic .quotientTooLarge => "OverflowError"
  | .arithmetic (.divisionByZero _) => "ZeroDivisionError"
  | .rejected _ => "ValidationError"
  | .concurrency _ => "ConfigurationError"
  | .sourceFailed => "RuntimeError"
  | .infiniteToInteger => "OverflowError"
  | .nanToInteger => "ValueError"
  | .levelType _ => "TypeError"
  | .notAnInteger _ => "TypeError"
  | .noLength _ => "TypeError"
  | .notIterable _ => "TypeError"
  | .missingKey _ => "KeyError"
  | .template fault => fault.kind
  | .notJsonCompliant => "ValueError"
  | .headerNotAscii _ => "UnicodeEncodeError"
  | .headerType _ => "TypeError"
  | .noAttribute _ _ => "AttributeError"
  | .contentType _ => "TypeError"
  | .seedType => "TypeError"
  | .raised kind _ => kind

/-- The message of a failure; for a rejection, its full report. -/
def message : Failure → String
  | .noSamples => "no latency samples recorded"
  | .percentileRange rank => "percentile must be in [0, 1), got " ++ rank.text
  | .unorderable fault =>
      "'" ++ fault.symbol ++ "' not supported between instances of '" ++ fault.left ++
        "' and '" ++ fault.right ++ "'"
  | .arithmetic (.unsupported fault) =>
      "unsupported operand type(s) for " ++ fault.symbol ++ ": '" ++ fault.left ++
        "' and '" ++ fault.right ++ "'"
  | .arithmetic .wholeTooLarge => "int too large to convert to float"
  | .arithmetic .quotientTooLarge => "integer division result too large for a float"
  | .arithmetic (.divisionByZero doubles) =>
      if doubles then "float division by zero" else "division by zero"
  | .rejected rejection => rejection.report
  | .concurrency given => "concurrency must be >= 1, got " ++ given.text
  | .sourceFailed => "order source failed"
  | .infiniteToInteger => "cannot convert float infinity to integer"
  | .nanToInteger => "cannot convert float NaN to integer"
  | .levelType given => "Level not an integer or a valid string: " ++ given.repr
  | .notAnInteger kind => "'" ++ kind ++ "' object cannot be interpreted as an integer"
  | .noLength kind => "object of type '" ++ kind ++ "' has no len()"
  | .notIterable kind => "'" ++ kind ++ "' object is not iterable"
  | .missingKey key => key.repr
  | .template fault => fault.message
  | .notJsonCompliant => "Out of range float values are not JSON compliant"
  | .headerNotAscii fault => fault.message
  | .headerType kind => "Header value must be str or bytes, not <class '" ++ kind ++ "'>"
  | .noAttribute kind name => "'" ++ kind ++ "' object has no attribute '" ++ name ++ "'"
  | .contentType kind => "Unexpected type for 'content', <class '" ++ kind ++ "'>"
  | .seedType => "The only supported seed types are: None,\nint, float, str, bytes, and bytearray."
  | .raised kind message => if kind == "KeyError" then Quoted.quote message else message

/-- How a failed attempt is recorded: `error:`, the class name, `:`, the message. -/
def outcomeText (failure : Failure) : String :=
  "error:" ++ failure.className ++ ":" ++ failure.message

end Failure

end LoadHarness
