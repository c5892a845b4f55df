import LoadHarness.Number.Binary

/-!
# Reading decimal numbers

A decimal text `±digits.digits e±digits` denotes an exact rational; its double
is the nearest one (`Binary.nearest`).  Exponents far outside the range of
doubles are settled without building huge powers: the value is then zero or
infinite whatever its digits.

`Decimal.readNumber` accepts the grammar of numbers in loose configuration
text: an optional sign, digits with an optional point (at least one digit in
all), an optional exponent, or the words `inf`, `infinity` and `nan` in any
case.
-/

namespace LoadHarness

/-- The parts of a decimal literal: sign, all digits as one number, how many of
them follow the point, the count of significant digits, and the exponent. -/
structure DecimalParts where
  negative : Bool
  digits : Nat
  fractionLength : Nat
  digitCount : Nat
  exponent : Int
  deriving Repr, Inhabited

/-- The double nearest to the decimal. -/
def DecimalParts.toFloat (parts : DecimalParts) : Float :=
  let scale : Int := parts.exponent - parts.fractionLength
  if parts.digits == 0 then Binary.nearest parts.negative 0 1
  else if scale + parts.digitCount > 330 then Binary.nearest parts.negative 1 0
  else if scale + parts.digitCount < -400 then Binary.nearest parts.negative 0 1
  else if scale ≥ 0 then Binary.nearest parts.negative (parts.digits * Nat.pow 10 scale.toNat) 1
  else Binary.nearest parts.negative parts.digits (Nat.pow 10 (-scale).toNat)

namespace Decimal

/-- The value of a digit character. -/
def digitValue (c : Char) : Nat := c.toNat - '0'.toNat

/-- The number spelled by a list of digit characters. -/
def digitsValue (chars : List Char) : Nat :=
  chars.foldl (fun acc c => acc * 10 + digitValue c) 0

/-- Split off the leading run of characters satisfying `p`. -/
def span (p : Char → Bool) (chars : List Char) : List Char × List Char :=
  (chars.takeWhile p, chars.dropWhile p)

/-- An optional sign followed by digits: the exponent part of a literal. -/
def readExponent (chars : List Char) : Option Int :=
  let (negative, rest) :=
    match chars with
    | '-' :: rest => (true, rest)
    | '+' :: rest => (false, rest)
    | _ => (false, chars)
  if !rest.isEmpty && rest.all Char.isDigit then
    let magnitude : Int := digitsValue rest
    some (if negative then -magnitude else magnitude)
  else none

/-- An unsigned literal: digits, an optional point with digits, an optional
exponent; at least one digit before the exponent. -/
def readUnsigned (negative : Bool) (chars : List Char) : Option DecimalParts :=
  let (whole, rest) := span Char.isDigit chars
  let (fraction, rest) :=
    match rest with
    | '.' :: after => span Char.isDigit after
    | _ => ([], rest)
  let hasPoint := match chars.drop whole.length with
    | '.' :: _ => true
    | _ => false
  let mantissaOk := !(whole.isEmpty && fraction.isEmpty)
  let exponent : Option Int :=
    match rest with
    | [] => some 0
    | c :: after => if c == 'e' || c == 'E' then readExponent after else none
  let _ := hasPoint
  match exponent with
  | some e =>
      if mantissaOk then
        let all := whole ++ fraction
        let significant := all.dropWhile (· == '0')
        some ⟨negative, digitsValue all, fraction.length, significant.length, e⟩
      else none
  | none => none

/-- Whether a text spells a word, ignoring the case of its letters. -/
def spells (chars : List Char) (word : String) : Bool :=
  chars.map Char.toLower == word.toList

/-- A number of loose configuration text: sign, digits, point, exponent, or
one of the words `inf`, `infinity`, `nan` in any case. -/
def readNumber (text : String) : Option Float :=
  let chars := text.toList
  let (negative, rest) :=
    match chars with
    | '-' :: rest => (true, rest)
    | '+' :: rest => (false, rest)
    | _ => (false, chars)
  if spells rest "inf" || spells rest "infinity" then some (Binary.nearest negative 1 0)
  else if spells rest "nan" then some (0.0 / 0.0)
  else (readUnsigned negative rest).map DecimalParts.toFloat

end Decimal

end LoadHarness
