import LoadHarness.Validation.Issue
import LoadHarness.Number.Read

/-!
# Lax reading of fields

A field of a record schema is read from loose data leniently:

* **doubles** accept doubles, integers (the nearest double; an integer too
  large for a double is refused), truth values (`0.0`, `1.0`) and strings
  spelling a number;
* **integers** accept integers, truth values, doubles without a fractional
  part, and strings spelling an integer, possibly followed by a point and
  zeros;
* **truth values** accept truth values, the integers and whole doubles 0 and
  1, and the words `0 f n no off false` and `1 t y on yes true` in any case;
* **strings** accept only strings.

A string spells a number when, without surrounding white space, it has the
form `±digits.digits e±digits` (at least one digit before the exponent) or is
`inf`, `infinity` or `nan` in any case; failing that, the string is read once
more with its underscores removed, provided none leads, trails or follows
another.  A string spells an integer when, trimmed, it is an optional sign,
digits with single underscores between them, and possibly a point followed by
at least one zero.  Doubles become integers only strictly between -2^63 and
2^63, and integers become truth values only within 64-bit bounds.
-/

namespace LoadHarness

namespace Lax

/-- The white space that is trimmed from strings read as numbers: the
characters with the Unicode `White_Space` property. -/
def isSpace (c : Char) : Bool :=
  let code := c.toNat
  (0x09 ≤ code && code ≤ 0x0D) || code == 0x20 || code == 0x85 || code == 0xA0 ||
    code == 0x1680 || (0x2000 ≤ code && code ≤ 0x200A) || code == 0x2028 || code == 0x2029 ||
    code == 0x202F || code == 0x205F || code == 0x3000

/-- A string without its leading and trailing white space. -/
def trim (text : String) : String :=
  String.ofList (((text.toList.dropWhile isSpace).reverse.dropWhile isSpace).reverse)

/-- The characters without underscores, when no underscore leads, trails or
follows another one. -/
def withoutUnderscores (text : String) : Option String :=
  let chars := text.toList
  let rec check : List Char → Bool
    | '_' :: '_' :: _ => false
    | _ :: rest => check rest
    | [] => true
  if chars.head? == some '_' || chars.getLast? == some '_' || !check chars then none
  else some (String.ofList (chars.filter (· != '_')))

/-- A double spelled by a string, surrounding white space and single
underscores between characters allowed. -/
def readFloat (text : String) : Option Float :=
  match Decimal.readNumber (trim text) with
  | some x => some x
  | none => (withoutUnderscores text).bind Decimal.readNumber

/-- The digits of a run of decimal digits in which single underscores may
stand between two digits: the run must start and end with a digit and hold no
two underscores in a row. -/
def groupedDigits (chars : List Char) : Option (List Char) :=
  let rec spaced : List Char → Bool
    | '_' :: '_' :: _ => false
    | c :: rest => (c.isDigit || c == '_') && spaced rest
    | [] => true
  if (chars.head?.any Char.isDigit) && (chars.getLast?.any Char.isDigit) && spaced chars then
    some (chars.filter Char.isDigit)
  else none

/-- Whether the characters are empty, or a point followed by at least one zero. -/
def zeroFraction : List Char → Bool
  | [] => true
  | '.' :: zeros => !zeros.isEmpty && zeros.all (· == '0')
  | _ => false

/-- An integer spelled as an optional sign, grouped digits, and possibly a
point followed by zeros. -/
def readInteger (text : String) : Option Int :=
  let (negative, body) :=
    match text.toList with
    | '-' :: rest => (true, rest)
    | '+' :: rest => (false, rest)
    | chars => (false, chars)
  let whole := body.takeWhile (· != '.')
  if zeroFraction (body.dropWhile (· != '.')) then
    (groupedDigits whole).map fun digits =>
      let magnitude : Int := Decimal.digitsValue digits
      if negative then -magnitude else magnitude
  else none

/-- A string read as an integer: trimmed, at most 4300 bytes, an integer
possibly followed by a point and zeros. -/
def integerOfString (text : String) : Except Problem Int :=
  let trimmed := trim text
  if trimmed.utf8ByteSize > 4300 then .error .intParsingSize
  else
    match readInteger trimmed with
    | some n => .ok n
    | none => .error .intParsing

/-- The bounds of 64-bit signed integers. -/
def inWordRange (n : Int) : Bool := -Int.pow 2 63 ≤ n && n < Int.pow 2 63

/-- The whole number a double stands for, when it has no fractional part and
lies strictly between the bounds of 64-bit signed integers. -/
def wholeOfFloat (x : Float) : Except Problem Int :=
  match FloatShape.of x with
  | .finite value =>
      if !Binary.isWhole value then .error .intFromFloat
      else
        let n := Binary.truncOf value
        if -Int.pow 2 63 < n && n < Int.pow 2 63 then .ok n else .error .intParsingSize
  | _ => .error .finiteNumber

/-- A double read leniently. -/
def float : Value → Except Problem Float
  | .float x => .ok x
  | .int n =>
      let x := Binary.ofInt n
      if Binary.isInfinite x then .error .floatType else .ok x
  | .bool truth => .ok (if truth then 1.0 else 0.0)
  | .str text =>
      match readFloat text with
      | some x => .ok x
      | none => .error .floatParsing
  | _ => .error .floatType

/-- A double read leniently from a parsed JSON document: as `float`, except
that an integer too large for a double is an infinity, as a JSON number is. -/
def documentFloat : Value → Except Problem Float
  | .int n => .ok (Binary.ofInt n)
  | value => float value

/-- An integer read leniently. -/
def int : Value → Except Problem Int
  | .int n => .ok n
  | .bool truth => .ok (if truth then 1 else 0)
  | .float x => wholeOfFloat x
  | .str text => integerOfString text
  | _ => .error .intType

/-- The words read as truth values, compared without regard to the case of
ASCII letters. -/
def truthWord (text : String) : Option Bool :=
  let lower := String.ofList (text.toList.map Char.toLower)
  if text == "0" || ["f", "n", "no", "off", "false"].contains lower then some false
  else if text == "1" || ["t", "y", "on", "yes", "true"].contains lower then some true
  else none

/-- A truth value of a whole number: 0 and 1, other numbers refused. -/
def truthOfWhole (n : Int) : Except Problem Bool :=
  if n == 0 then .ok false else if n == 1 then .ok true else .error .boolParsing

/-- A truth value read leniently. -/
def bool : Value → Except Problem Bool
  | .bool truth => .ok truth
  | .str text =>
      match truthWord text with
      | some truth => .ok truth
      | none => .error .boolParsing
  | .int n => if inWordRange n then truthOfWhole n else .error .boolType
  | .float x =>
      match wholeOfFloat x with
      | .ok n => truthOfWhole n
      | .error _ => .error .boolType
  | _ => .error .boolType

/-- A string, nothing else. -/
def string : Value → Except Problem String
  | .str text => .ok text
  | _ => .error .stringType

/-- A string of at least `minimum` characters. -/
def stringAtLeast (minimum : Nat) (value : Value) : Except Problem String := do
  let text ← string value
  if text.length < minimum then .error (.stringTooShort minimum) else pure text

/-- One of the listed strings. -/
def literal (allowed : List String) : Value → Except Problem String
  | .str text => if allowed.contains text then .ok text else .error (.literal allowed)
  | _ => .error (.literal allowed)

/-- Null, or what `read` reads. -/
def nullable {α : Type} (read : Value → Except Problem α) : Value → Except Problem (Option α)
  | .null => .ok none
  | value => (read value).map some

/-- A double read by `read` and greater than `bound`, the bound written as `shown`. -/
def above (read : Value → Except Problem Float) (bound : Float) (shown : String) (value : Value) :
    Except Problem Float := do
  let x ← read value
  if x > bound then pure x else .error (.greaterThan shown)

/-- A double greater than `bound`, the bound written as `shown`. -/
def floatAbove (bound : Float) (shown : String) (value : Value) : Except Problem Float :=
  above float bound shown value

/-- A double at least `bound`, the bound written as `shown`. -/
def floatAtLeast (bound : Float) (shown : String) (value : Value) : Except Problem Float := do
  let x ← float value
  if x ≥ bound then pure x else .error (.greaterThanEqual shown)

/-- An integer greater than `bound`. -/
def intAbove (bound : Int) (value : Value) : Except Problem Int := do
  let n ← int value
  if n > bound then pure n else .error (.greaterThan (toString bound))

/-- An integer at least `bound`. -/
def intAtLeast (bound : Int) (value : Value) : Except Problem Int := do
  let n ← int value
  if n ≥ bound then pure n else .error (.greaterThanEqual (toString bound))

/-- An integer strictly between `low` and `high`. -/
def intBetween (low high : Int) (value : Value) : Except Problem Int := do
  let n ← int value
  if n ≤ low then .error (.greaterThan (toString low))
  else if n ≥ high then .error (.lessThan (toString high))
  else pure n

end Lax

end LoadHarness
