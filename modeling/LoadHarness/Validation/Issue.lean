import LoadHarness.Value.Show

/-!
# Validation issues

Validating loose data against a record schema either gives the record or a
`Rejection`: the schema's title and the `Issue`s found, in the order the
schema's fields are declared, surplus keys last.  An issue names its
`Problem`, where it was found (a path of keys and list positions) and the
offending input.

Every problem has a code and a message, the texts that reports print.  A
rejection has two texts:

* `Rejection.summary`, one line: `location: message` for each issue, joined by
  `; ` (an issue at the top has an empty location);
* `Rejection.report`, the full report: a header counting the issues, then for
  each its location, its message with code and input, and the address of the
  code's documentation.  An input whose quoted text takes more than 50
  bytes is shortened to its first 25 and last 24 bytes, whole characters only.
-/

namespace LoadHarness

/-- One step of a path into nested data: a key of an object or a position in a list. -/
inductive Step where
  | key (name : String)
  | index (position : Nat)
  deriving Repr, Inhabited, BEq

namespace Step

/-- The text of a step in a dotted path. -/
def text : Step → String
  | .key name => name
  | .index position => toString position

/-- The step as data: a string or an integer. -/
def toValue : Step → Value
  | .key name => .str name
  | .index position => .int position

end Step

/-- The way one input fails a schema. -/
inductive Problem where
  /-- A required field is absent. -/
  | missing
  /-- A key that the schema does not declare. -/
  | extraForbidden
  /-- A number not greater than the bound. -/
  | greaterThan (bound : String)
  /-- A number smaller than the bound. -/
  | greaterThanEqual (bound : String)
  /-- A number not smaller than the bound. -/
  | lessThan (bound : String)
  /-- A string shorter than the minimum. -/
  | stringTooShort (minimum : Nat)
  /-- A value outside the listed strings. -/
  | literal (allowed : List String)
  /-- Not something a double can be read from. -/
  | floatType
  /-- A string that does not spell a number. -/
  | floatParsing
  /-- Not something an integer can be read from. -/
  | intType
  /-- A string that does not spell an integer. -/
  | intParsing
  /-- A string of an integer too long to read. -/
  | intParsingSize
  /-- A double with a fractional part where an integer is wanted. -/
  | intFromFloat
  /-- An infinite or NaN double where an integer is wanted. -/
  | finiteNumber
  /-- Not something a truth value can be read from. -/
  | boolType
  /-- A string or number that does not spell a truth value. -/
  | boolParsing
  /-- Not a string. -/
  | stringType
  /-- Not an object, where the record `title` was wanted from loose data. -/
  | modelType (title : String)
  /-- Not an object, where a record was wanted from a JSON document. -/
  | objectType
  /-- Not an object, where a record was wanted from an object's fields. -/
  | modelAttributesType
  /-- The text is not a JSON document. -/
  | jsonInvalid (detail : String)
  /-- A request body is not a JSON document. -/
  | bodyNotJson
  /-- A rule across fields does not hold. -/
  | valueError (detail : String)
  deriving Repr, Inhabited

namespace Problem

/-- The allowed strings in quotes, the last two joined by `or`. -/
def alternatives : List String → String
  | [] => ""
  | [only] => Quoted.quote only
  | [first, last] => Quoted.quote first ++ " or " ++ Quoted.quote last
  | first :: rest => Quoted.quote first ++ ", " ++ alternatives rest

/-- The code of a problem. -/
def code : Problem → String
  | .missing => "missing"
  | .extraForbidden => "extra_forbidden"
  | .greaterThan _ => "greater_than"
  | .greaterThanEqual _ => "greater_than_equal"
  | .lessThan _ => "less_than"
  | .stringTooShort _ => "string_too_short"
  | .literal _ => "literal_error"
  | .floatType => "float_type"
  | .floatParsing => "float_parsing"
  | .intType => "int_type"
  | .intParsing => "int_parsing"
  | .intParsingSize => "int_parsing_size"
  | .intFromFloat => "int_from_float"
  | .finiteNumber => "finite_number"
  | .boolType => "bool_type"
  | .boolParsing => "bool_parsing"
  | .stringType => "string_type"
  | .modelType _ => "model_type"
  | .objectType => "model_type"
  | .modelAttributesType => "model_attributes_type"
  | .jsonInvalid _ => "json_invalid"
  | .bodyNotJson => "json_invalid"
  | .valueError _ => "value_error"

/-- The message of a problem. -/
def message : Problem → String
  | .missing => "Field required"
  | .extraForbidden => "Extra inputs are not permitted"
  | .greaterThan bound => "Input should be greater than " ++ bound
  | .greaterThanEqual bound => "Input should be greater than or equal to " ++ bound
  | .lessThan bound => "Input should be less than " ++ bound
  | .stringTooShort minimum =>
      "String should have at least " ++ toString minimum ++
        (if minimum == 1 then " character" else " characters")
  | .literal allowed => "Input should be " ++ alternatives allowed
  | .floatType => "Input should be a valid number"
  | .floatParsing => "Input should be a valid number, unable to parse string as a number"
  | .intType => "Input should be a valid integer"
  | .intParsing => "Input should be a valid integer, unable to parse string as an integer"
  | .intParsingSize => "Unable to parse input string as an integer, exceeded maximum size"
  | .intFromFloat => "Input should be a valid integer, got a number with a fractional part"
  | .finiteNumber => "Input should be a finite number"
  | .boolType => "Input should be a valid boolean"
  | .boolParsing => "Input should be a valid boolean, unable to interpret input"
  | .stringType => "Input should be a valid string"
  | .modelType title => "Input should be a valid dictionary or instance of " ++ title
  | .objectType => "Input should be an object"
  | .modelAttributesType => "Input should be a valid dictionary or object to extract fields from"
  | .jsonInvalid detail => "Invalid JSON: " ++ detail
  | .bodyNotJson => "JSON decode error"
  | .valueError detail => "Value error, " ++ detail

end Problem

/-- One thing wrong with validated data: the problem, where, and the offending input. -/
structure Issue where
  problem : Problem
  location : List Step
  input : Value
  deriving Inhabited

namespace Issue

/-- The location as a dotted path. -/
def path (issue : Issue) : String :=
  ".".intercalate (issue.location.map Step.text)

/-- The issue placed under one more step: its location is prefixed by `step`. -/
def under (step : Step) (issue : Issue) : Issue :=
  { issue with location := step :: issue.location }

/-- The longest run of leading characters whose encoded size stays within
`budget` bytes. -/
def leadingWithin : List Char → Nat → List Char
  | [], _ => []
  | c :: rest, budget =>
      if c.utf8Size ≤ budget then c :: leadingWithin rest (budget - c.utf8Size) else []

/-- The quoted text of an input, shortened around `...` when its encoding is
longer than 50 bytes: it keeps the longest head of at most 25 bytes and the
longest tail of at most 24 bytes, so no character is ever split. -/
def shortened (text : String) : String :=
  let chars := text.toList
  if text.utf8ByteSize > 50 then
    String.ofList (leadingWithin chars 25) ++ "..." ++
      String.ofList (leadingWithin chars.reverse 24).reverse
  else text

/-- The site that documents the problem codes, and the documentation version. -/
def documentationSite : String × String := ("errors.pydantic.dev", "2.14")

/-- The address of the documentation of a problem code. -/
def documentation (code : String) : String :=
  "https://" ++ documentationSite.1 ++ "/" ++ documentationSite.2 ++ "/v/" ++ code

/-- The lines of the issue in a full report. -/
def reportLines (issue : Issue) : List String :=
  let code := issue.problem.code
  let detail :=
    "  " ++ issue.problem.message ++ " [type=" ++ code ++ ", input_value=" ++
      shortened issue.input.repr ++ ", input_type=" ++ issue.input.kindName ++ "]"
  let link := "    For further information visit " ++ documentation code
  (if issue.location.isEmpty then [] else [issue.path]) ++ [detail, link]

end Issue

/-- The issues that made a record schema reject its input. -/
structure Rejection where
  /-- The schema's title. -/
  title : String
  /-- The issues, in the order they were found. -/
  issues : List Issue
  deriving Inhabited

namespace Rejection

/-- One line: each issue's location and message, joined by `; `. -/
def summary (rejection : Rejection) : String :=
  "; ".intercalate (rejection.issues.map fun issue => issue.path ++ ": " ++ issue.problem.message)

/-- The full report: a header counting the issues, then the lines of each. -/
def report (rejection : Rejection) : String :=
  let count := rejection.issues.length
  let header :=
    toString count ++ (if count == 1 then " validation error for " else " validation errors for ") ++
      rejection.title
  "\n".intercalate (header :: rejection.issues.flatMap Issue.reportLines)

/-- The rejection with every issue placed under one more step. -/
def under (step : Step) (rejection : Rejection) : Rejection :=
  { rejection with issues := rejection.issues.map (Issue.under step) }

end Rejection

end LoadHarness
