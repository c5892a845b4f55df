import LoadHarness.Number.Binary

/-!
# Shortest decimal digits of a double

A positive double `m · 2^q` stands for every real that rounds to it: the
interval halfway to its two neighbours, ends included exactly when `m` is
even (a tie on reading goes to the even mantissa).  `Digits.shortest` finds the
fewest significant decimal digits of a number in that interval, and of those
the one nearest to the double; an exact tie goes to the even last digit.

For `k = 1, 2, …, 17` the value's two neighbours on the grid of `k`-digit
decimals are tested with exact natural-number arithmetic: if any point of the
grid lies in the interval, one of the two neighbours does, so the first `k`
with a hit gives the fewest digits.  Seventeen digits always suffice.
-/

namespace LoadHarness

/-- A decimal `significand · 10^exponent`; the significand has no trailing zero
unless it is zero. -/
structure Digits where
  significand : Nat
  exponent : Int
  deriving Repr, Inhabited, BEq

namespace Digits

/-- Order of `x · 2^a` against `y · 10^b`, for natural `x`, `y`. -/
def compareScaled (x : Nat) (a : Int) (y : Nat) (b : Int) : Ordering :=
  let low := min a b
  let left := x * Nat.pow 2 (a - low).toNat * (if b < 0 then Nat.pow 5 (-b).toNat else 1)
  let right := y * Nat.pow 2 (b - low).toNat * (if b ≥ 0 then Nat.pow 5 b.toNat else 1)
  compare left right

/-- `⌊m · 2^q / 10^e⌋` and whether the division leaves no remainder. -/
def floorOnGrid (m : Nat) (q e : Int) : Nat × Bool :=
  let num := m * Nat.pow 2 (max (q - e) 0).toNat * Nat.pow 5 (max (-e) 0).toNat
  let den := Nat.pow 2 (max (e - q) 0).toNat * Nat.pow 5 (max e 0).toNat
  (num / den, num % den == 0)

/-- The exponent of the leading decimal digit of `m · 2^q` (for `m > 0`): the
largest `e` with `10^e ≤ m · 2^q`. -/
def leadingExponent (m : Nat) (q : Int) : Int :=
  let guess : Int := ((Nat.log2 m : Int) + q) * 30103 / 100000
  let raised := if compareScaled m q 1 (guess + 1) != .lt then guess + 1 else guess
  let raised := if compareScaled m q 1 (raised + 1) != .lt then raised + 1 else raised
  let lowered := if compareScaled m q 1 raised == .lt then raised - 1 else raised
  if compareScaled m q 1 lowered == .lt then lowered - 1 else lowered

/-- Drop trailing zeros of the significand, raising the exponent. -/
def normalize (significand : Nat) (exponent : Int) : Digits :=
  let rec go (fuel : Nat) (s : Nat) (e : Int) : Digits :=
    match fuel with
    | 0 => ⟨s, e⟩
    | fuel + 1 => if s != 0 && s % 10 == 0 then go fuel (s / 10) (e + 1) else ⟨s, e⟩
  go 20 significand exponent

/-- The rounding interval of a positive double `m · 2^q`, scaled by `2^(q-2)`:
its lower end, its upper end, and whether the ends belong to it. -/
def interval (value : Dyadic) : Nat × Nat × Bool :=
  let m := value.mantissa
  let lowerCloser := m == Nat.pow 2 52 && value.exponent > -1074
  let low := if lowerCloser then 4 * m - 1 else 4 * m - 2
  (low, 4 * m + 2, m % 2 == 0)

/-- Whether `c · 10^e` lies in the rounding interval of `value`. -/
def inInterval (value : Dyadic) (c : Nat) (e : Int) : Bool :=
  let (low, high, inclusive) := interval value
  let q := value.exponent - 2
  let aboveLow := compareScaled low q c e
  let belowHigh := compareScaled high q c e
  if inclusive then aboveLow != .gt && belowHigh != .lt
  else aboveLow == .lt && belowHigh == .gt

/-- The candidate with `k` significant digits, when one reads back to `value`. -/
def candidate (value : Dyadic) (leading : Int) (k : Nat) : Option Digits :=
  let e := leading - (k : Int) + 1
  let (low, exact) := floorOnGrid value.mantissa value.exponent e
  if exact then some (normalize low e)
  else
    let high := low + 1
    match inInterval value low e, inInterval value high e with
    | true, true =>
        -- the nearer of the two; an exact tie keeps the even digit
        match compareScaled value.mantissa (value.exponent + 1) (2 * low + 1) e with
        | .lt => some (normalize low e)
        | .gt => some (normalize high e)
        | .eq => some (normalize (if low % 2 == 0 then low else high) e)
    | true, false => some (normalize low e)
    | false, true => some (normalize high e)
    | false, false => none

/-- The shortest digits that read back to a positive finite double; zero for zero. -/
def shortest (value : Dyadic) : Digits :=
  if value.mantissa == 0 then ⟨0, 0⟩
  else
    let leading := leadingExponent value.mantissa value.exponent
    let found := (List.range 17).findSome? fun index => candidate value leading (index + 1)
    found.getD (normalize (floorOnGrid value.mantissa value.exponent (leading - 16)).1 (leading - 16))

/-- The decimal digits of the significand, most significant first. -/
def digitText (d : Digits) : String :=
  toString d.significand

/-- The exponent of the leading digit: the value lies in `[10^e, 10^(e+1))`. -/
def scientificExponent (d : Digits) : Int :=
  d.exponent + ((digitText d).length : Int) - 1

end Digits

end LoadHarness
