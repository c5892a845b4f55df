import LoadHarness.Number.Binary

/-!
# Decimal places

Rounding a double to a fixed number of decimal places works on its exact
binary value: the value times `10^places` is rounded to a whole number, a
half going to the even neighbour.  `fixedText` writes the result with exactly
that many places (so `2.675` gives `2.67`, its binary value being a little
below); `toPlaces` turns it back into the nearest double.
-/

namespace LoadHarness

namespace Fixed

/-- `round(a / b)` for `b > 0`, a half going to the even neighbour. -/
def roundHalfEven (a b : Nat) : Nat :=
  let quotient := a / b
  let remainder := a % b
  if 2 * remainder > b || (2 * remainder == b && quotient % 2 == 1) then quotient + 1
  else quotient

/-- The magnitude of a finite double times `10^places`, rounded half to even. -/
def scaledUnits (value : Dyadic) (places : Nat) : Nat :=
  let num := value.mantissa * Nat.pow 2 (max value.exponent 0).toNat * Nat.pow 10 places
  let den := Nat.pow 2 (max (-value.exponent) 0).toNat
  roundHalfEven num den

/-- A count of units of `10^-places` written with the point in place. -/
def unitsText (units places : Nat) : String :=
  let scale := Nat.pow 10 places
  let whole := toString (units / scale)
  if places == 0 then whole
  else
    let fraction := toString (units % scale)
    whole ++ "." ++ String.ofList (List.replicate (places - fraction.length) '0') ++ fraction

/-- A double written with exactly `places` decimals; the special values are
`inf`, `-inf` and `nan`, and a negative value keeps its minus even when it
rounds to zero. -/
def fixedText (x : Float) (places : Nat) : String :=
  match FloatShape.of x with
  | .nan => "nan"
  | .infinite negative => if negative then "-inf" else "inf"
  | .finite value =>
      (if value.negative then "-" else "") ++ unitsText (scaledUnits value places) places

/-- The double nearest to `x` rounded to `places` decimals, half to even on
the exact value; the special values are kept. -/
def toPlaces (x : Float) (places : Nat) : Float :=
  match FloatShape.of x with
  | .finite value => Binary.nearest value.negative (scaledUnits value places) (Nat.pow 10 places)
  | _ => x

end Fixed

end LoadHarness
