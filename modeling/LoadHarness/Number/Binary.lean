/-!
# Doubles as exact binary fractions

A finite double is `(-1)^s · m · 2^q` with a 53-bit mantissa `m`.  This module
reads that triple off the bit pattern, and builds the double nearest to an
exact ratio of whole numbers, with ties going to the even mantissa, gradual
underflow below `2^-1022` and overflow to infinity.  Every conversion of the
harness into doubles (integers, quotients of integers, decimal texts) goes
through `nearest`, so each of them is correctly rounded.
-/

namespace LoadHarness

/-- The exact value of a finite double: sign, mantissa and binary exponent. -/
structure Dyadic where
  negative : Bool
  mantissa : Nat
  exponent : Int
  deriving Repr, Inhabited

/-- What a bit pattern holds: a finite value, an infinity, or not a number. -/
inductive FloatShape where
  | finite (value : Dyadic)
  | infinite (negative : Bool)
  | nan
  deriving Repr, Inhabited

namespace Dyadic

/-- Two to a whole power, kept as a natural number. -/
def pow2 (exponent : Nat) : Nat := Nat.pow 2 exponent

/-- The value as a numerator over a power-of-two denominator. -/
def ratio (value : Dyadic) : Int × Nat :=
  let magnitude : Int :=
    if value.exponent ≥ 0 then value.mantissa * pow2 value.exponent.toNat else value.mantissa
  let denominator := if value.exponent ≥ 0 then 1 else pow2 (-value.exponent).toNat
  (if value.negative then -magnitude else magnitude, denominator)

/-- Whether the value is zero. -/
def isZero (value : Dyadic) : Bool := value.mantissa == 0

end Dyadic

namespace FloatShape

/-- The shape of a double, read from its bit pattern. -/
def of (x : Float) : FloatShape :=
  let bits := x.toBits
  let negative := (bits >>> 63) == 1
  let biased := ((bits >>> 52) &&& 0x7FF).toNat
  let fraction := (bits &&& 0xFFFFFFFFFFFFF).toNat
  if biased == 0x7FF then
    if fraction == 0 then .infinite negative else .nan
  else if biased == 0 then
    .finite ⟨negative, fraction, -1074⟩
  else
    .finite ⟨negative, fraction + Nat.pow 2 52, (biased : Int) - 1075⟩

end FloatShape

namespace Binary

/-- `⌊num · 2^-shift / den⌋` together with whether the division was exact. -/
def scaledQuotient (num den : Nat) (shift : Int) : Nat × Nat × Nat :=
  let top := if shift ≤ 0 then num * Nat.pow 2 (-shift).toNat else num
  let bottom := if shift ≤ 0 then den else den * Nat.pow 2 shift.toNat
  (top / bottom, top % bottom, bottom)

/-- The binary exponent that puts `num / den` into `[2^52, 2^53)` once divided by
two to that power, before the floor of the subnormal range is applied. -/
def leadingShift (num den : Nat) : Int :=
  let guess : Int := (Nat.log2 num : Int) - (Nat.log2 den : Int) - 52
  let (low, _, _) := scaledQuotient num den guess
  if low ≥ Nat.pow 2 53 then guess + 1
  else if low < Nat.pow 2 52 then guess - 1
  else guess

/-- The double with the given sign and magnitude bits. -/
def assemble (negative : Bool) (magnitude : UInt64) : Float :=
  Float.ofBits (if negative then magnitude ||| ((1 : UInt64) <<< 63) else magnitude)

/-- The bit pattern of infinity, without sign. -/
def infinityBits : UInt64 := 0x7FF0000000000000

/-- The double nearest to `num / den`, negated when `negative`; a tie goes to
the even mantissa.  A zero denominator is read as an infinite ratio. -/
def nearest (negative : Bool) (num den : Nat) : Float :=
  if den == 0 then assemble negative infinityBits
  else if num == 0 then assemble negative 0
  else
    let shift := max (leadingShift num den) (-1074)
    let (quotient, remainder, divisor) := scaledQuotient num den shift
    let roundUp := 2 * remainder > divisor || (2 * remainder == divisor && quotient % 2 == 1)
    let mantissa := if roundUp then quotient + 1 else quotient
    let (mantissa, shift) := if mantissa == Nat.pow 2 53 then (Nat.pow 2 52, shift + 1) else (mantissa, shift)
    if shift > 971 then assemble negative infinityBits
    else if mantissa < Nat.pow 2 52 then assemble negative mantissa.toUInt64
    else
      let biased := (shift + 1075).toNat
      assemble negative ((biased.toUInt64 <<< 52) ||| (mantissa - Nat.pow 2 52).toUInt64)

/-- The double nearest to an integer. -/
def ofInt (number : Int) : Float :=
  nearest (number < 0) number.natAbs 1

/-- The double nearest to the quotient of two integers (the divisor is not zero). -/
def ofQuotient (num den : Int) : Float :=
  nearest ((num < 0) != (den < 0)) num.natAbs den.natAbs

/-- Whether a double is infinite. -/
def isInfinite (x : Float) : Bool :=
  match FloatShape.of x with
  | .infinite _ => true
  | _ => false

/-- Whether a double is not a number. -/
def isNan (x : Float) : Bool :=
  match FloatShape.of x with
  | .nan => true
  | _ => false

/-- Whether a double is finite. -/
def isFinite (x : Float) : Bool :=
  match FloatShape.of x with
  | .finite _ => true
  | _ => false

/-- Whether the sign bit of a double is set. -/
def signBit (x : Float) : Bool := (x.toBits >>> 63) == 1

/-- Exact comparison of an integer with a finite double, as ordering of reals. -/
def compareIntDyadic (number : Int) (value : Dyadic) : Ordering :=
  let (num, den) := value.ratio
  compare (number * den) num

/-- Exact order of an integer and a double: `none` when the double is not a number. -/
def compareIntFloat (number : Int) (x : Float) : Option Ordering :=
  match FloatShape.of x with
  | .finite value => some (compareIntDyadic number value)
  | .infinite negative => some (if negative then .gt else .lt)
  | .nan => none

/-- The integer part of a finite double, rounded toward negative infinity. -/
def floorOf (value : Dyadic) : Int :=
  let (num, den) := value.ratio
  num / (den : Int)

/-- The least integer not below a finite double. -/
def ceilOf (value : Dyadic) : Int :=
  let (num, den) := value.ratio
  Int.neg ((Int.neg num) / (den : Int))

/-- The integer value of a finite double with no fractional part, toward zero otherwise. -/
def truncOf (value : Dyadic) : Int :=
  let (num, den) := value.ratio
  num.tdiv (den : Int)

/-- Whether a finite double is a whole number. -/
def isWhole (value : Dyadic) : Bool :=
  let (num, den) := value.ratio
  num % (den : Int) == 0

end Binary

end LoadHarness
