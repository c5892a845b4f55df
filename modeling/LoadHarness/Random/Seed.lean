import LoadHarness.Random.Sha512
import LoadHarness.Failure

/-!
# Seeds

A random source is seeded from a natural number, and a seed given as data is
first turned into one:

* an integer gives its absolute value, and a truth value counts as 0 or 1;
* a double gives its hash read as an unsigned 64-bit word.  The hash of a
  finite double `±m · 2^q` is `m · 2^q` reduced modulo the prime `2^61 - 1`
  with the sign of the double, where `2^q` is `2^(q mod 61)` since `2^61` is 1
  modulo that prime; a hash of `-1` is taken as `-2`, and the infinities hash
  to `±314159`.  So `-1.0` seeds as `2^64 - 2`, not as `1`;
* a string gives the big-endian number of its UTF-8 bytes followed by their
  SHA-512 digest;
* no seed at all stands for a fresh seed from the system, which no
  computation can reproduce; it is taken as zero here;
* any other data cannot seed a source.
-/

namespace LoadHarness

namespace Seed

/-- The prime `2^61 - 1` that hashes of numbers are reduced by. -/
def modulus : Nat := Nat.pow 2 61 - 1

/-- The hash of a double.  A NaN has no hash of its own value, and counts as zero. -/
def floatHash (x : Float) : Int :=
  match FloatShape.of x with
  | .finite value =>
      let reduced := value.mantissa % modulus * Nat.pow 2 (value.exponent % 61).toNat % modulus
      let signed : Int := if value.negative then -(reduced : Int) else reduced
      if signed == -1 then -2 else signed
  | .infinite negative => if negative then -314159 else 314159
  | .nan => 0

/-- An integer read as an unsigned 64-bit word. -/
def unsignedWord (n : Int) : Nat := (n % Int.pow 2 64).toNat

/-- The number whose big-endian bytes these are. -/
def bigEndian (bytes : List UInt8) : Nat := bytes.foldl (fun n byte => n * 256 + byte.toNat) 0

/-- The number a seed given as data stands for, or why it cannot seed a source. -/
def number : Value → Except Failure Nat
  | .int n => .ok n.natAbs
  | .bool truth => .ok (if truth then 1 else 0)
  | .float x => .ok (unsignedWord (floatHash x))
  | .str text =>
      let bytes := text.toUTF8.toList
      .ok (bigEndian (bytes ++ Sha512.hash bytes))
  | .null => .ok 0
  | _ => .error .seedType

end Seed

end LoadHarness
