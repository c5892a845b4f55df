import LoadHarness.Number.Shortest

/-!
# Writing a double

A double is written with its shortest digits (`Digits.shortest`).  Where the
point goes, how an exponent looks and how the special values are spelled is a
matter of the format, fixed by one `FloatStyle` record per format:

* `FloatStyle.plain` is the text of a double in messages and keys: positional
  for leading exponents from `-4` to `15`, otherwise `d.ddde±XX` with at least
  two exponent digits; `inf`, `-inf`, `nan`.
* `FloatStyle.wire` is the text of a double inside JSON documents the harness
  writes: positional from `-5` to `15`, exponents without padding, and `null`
  for the values JSON cannot hold.

Both keep `.0` on whole numbers written positionally and a minus on negative
zero.
-/

namespace LoadHarness

/-- The decisions of one format for writing doubles. -/
structure FloatStyle where
  /-- The smallest leading-digit exponent written without an exponent part. -/
  lowest : Int
  /-- The largest leading-digit exponent written without an exponent part. -/
  highest : Int
  /-- The least number of digits of a written exponent. -/
  exponentWidth : Nat
  /-- Spellings of positive infinity, negative infinity and not-a-number. -/
  infinity : String
  negativeInfinity : String
  notANumber : String

namespace FloatStyle

/-- Doubles in messages, keys and other plain text. -/
def plain : FloatStyle :=
  ⟨-4, 15, 2, "inf", "-inf", "nan"⟩

/-- Doubles inside JSON documents written by the harness. -/
def wire : FloatStyle :=
  ⟨-5, 15, 1, "null", "null", "null"⟩

/-- `count` copies of the digit zero. -/
def zeros (count : Nat) : String :=
  String.ofList (List.replicate count '0')

/-- A decimal written with the point in place. -/
def positional (digits : String) (leading : Int) : String :=
  if leading ≥ 0 then
    let whole := leading.toNat + 1
    if digits.length ≤ whole then digits ++ zeros (whole - digits.length) ++ ".0"
    else
      String.ofList (digits.toList.take whole) ++ "." ++ String.ofList (digits.toList.drop whole)
  else
    "0." ++ zeros ((-leading).toNat - 1) ++ digits

/-- A decimal written as leading digit, fraction and exponent. -/
def scientific (style : FloatStyle) (digits : String) (leading : Int) : String :=
  let chars := digits.toList
  let mantissa :=
    match chars with
    | [] => "0"
    | [first] => String.singleton first
    | first :: rest => String.singleton first ++ "." ++ String.ofList rest
  let magnitude := toString leading.natAbs
  let padded := zeros (style.exponentWidth - magnitude.length) ++ magnitude
  mantissa ++ "e" ++ (if leading < 0 then "-" else "+") ++ padded

/-- The text of a double in this style. -/
def render (style : FloatStyle) (x : Float) : String :=
  match FloatShape.of x with
  | .nan => style.notANumber
  | .infinite negative => if negative then style.negativeInfinity else style.infinity
  | .finite value =>
      let sign := if value.negative then "-" else ""
      if value.mantissa == 0 then sign ++ "0.0"
      else
        let digits := Digits.shortest value
        let text := digits.digitText
        let leading := digits.scientificExponent
        if style.lowest ≤ leading && leading ≤ style.highest then sign ++ positional text leading
        else sign ++ style.scientific text leading

end FloatStyle

end LoadHarness
