/-!
# Punycode

Punycode writes a sequence of code points in ASCII letters, digits and
hyphens: the ASCII code points first, then (after a hyphen, if there were
any) the others as a series of deltas, each a variable-length number in base
36 whose digit thresholds follow an adapting bias.

Decoding reads that form back.  It fails on a digit that is neither a letter
nor a digit, on a number cut off at the end, and on a code point past
`10FFFF`; a decoded surrogate, which no label may hold, fails as well.
-/

namespace LoadHarness

namespace Punycode

/-- The threshold of the `j`-th digit of a number under `bias`: `36 (j + 1) - bias`
kept between 1 and 26. -/
def threshold (j bias : Nat) : Nat :=
  let raw := 36 * (j + 1)
  if raw ≤ bias + 1 then 1 else if bias + 26 ≤ raw then 26 else raw - bias

/-- The ASCII character of a digit: `a` to `z` for 0 to 25, `0` to `9` for 26 to 35. -/
def digitChar (digit : Nat) : Char :=
  if digit < 26 then Char.ofNat (0x61 + digit) else Char.ofNat (0x30 + digit - 26)

/-- The value of a digit character, letters read in either case. -/
def digitValue (code : Nat) : Option Nat :=
  if 0x41 ≤ code && code ≤ 0x5A then some (code - 0x41)
  else if 0x61 ≤ code && code ≤ 0x7A then some (code - 0x61)
  else if 0x30 ≤ code && code ≤ 0x39 then some (code - 22)
  else none

/-- The bias after a delta: `first` for the first delta of a text, `count`
the number of code points written so far. -/
def adapt (delta count : Nat) (first : Bool) : Nat :=
  let scaled := if first then delta / 700 else delta / 2
  let grown := scaled + scaled / count
  let rec shrink (fuel value divisions : Nat) : Nat × Nat :=
    match fuel with
    | 0 => (value, divisions)
    | fuel + 1 => if value > 455 then shrink fuel (value / 35) (divisions + 36) else (value, divisions)
  let (value, divisions) := shrink (grown + 1) grown 0
  divisions + 36 * value / (value + 38)

/-- The digits of a number under `bias`, from its `j`-th digit on. -/
def numberDigits (bias : Nat) (fuel j value : Nat) : List Char :=
  match fuel with
  | 0 => []
  | fuel + 1 =>
      let t := threshold j bias
      if value < t then [digitChar value]
      else digitChar (t + (value - t) % (36 - t)) :: numberDigits bias fuel (j + 1) ((value - t) / (36 - t))

/-- The state of encoding: the digits written, the delta and bias, and how
many code points are handled. -/
structure Encoding where
  digits : List Char
  delta : Nat
  bias : Nat
  handled : Nat

/-- Encoding after one more code point of the text, while code point `current`
is being written; `basic` is the number of ASCII code points. -/
def Encoding.visit (basic current : Nat) (state : Encoding) (code : Nat) : Encoding :=
  if code < current then { state with delta := state.delta + 1 }
  else if code == current then
    { digits := state.digits ++ numberDigits state.bias (state.delta + 1) 0 state.delta,
      delta := 0,
      bias := adapt state.delta (state.handled + 1) (state.handled == basic),
      handled := state.handled + 1 }
  else state

/-- Encoding of the code points `pending` (ascending, distinct, none ASCII),
`next` being the smallest not yet reached. -/
def encodeFrom (codes : List Nat) (basic : Nat) : List Nat → Nat → Encoding → Encoding
  | [], _, state => state
  | current :: pending, next, state =>
      let state := { state with delta := state.delta + (current - next) * (state.handled + 1) }
      let state := codes.foldl (Encoding.visit basic current) state
      encodeFrom codes basic pending (current + 1) { state with delta := state.delta + 1 }

/-- The code points at least `0x80`, ascending and without repeats. -/
def extendedPoints (codes : List Nat) : List Nat :=
  ((codes.filter (0x80 ≤ ·)).mergeSort fun a b => a ≤ b).eraseDups

/-- The Punycode form of a sequence of code points. -/
def encode (codes : List Nat) : List Char :=
  let basic := (codes.filter (· < 0x80)).map Char.ofNat
  let state := encodeFrom codes basic.length (extendedPoints codes) 0x80 ⟨[], 0, 72, basic.length⟩
  if basic.isEmpty then state.digits else basic ++ '-' :: state.digits

/-- A number under `bias` read from the front of `digits`: its value, and the
digits after it. -/
def readNumber (bias : Nat) : List Nat → Nat → Nat → Nat → Option (Nat × List Nat)
  | [], _, _, _ => none
  | code :: rest, j, weight, total =>
      match digitValue code with
      | none => none
      | some digit =>
          let t := threshold j bias
          let total := total + digit * weight
          if digit < t then some (total, rest) else readNumber bias rest (j + 1) (weight * (36 - t)) total

/-- The code points decoded from `digits`, inserted into `decoded`; `point`
is the code point reached and `position` the place after the last insertion. -/
def decodeFrom (fuel : Nat) (digits : List Nat) (decoded : List Nat) (point position bias : Nat) (first : Bool) :
    Option (List Nat) :=
  match fuel, digits with
  | _, [] => some decoded
  | 0, _ :: _ => none
  | fuel + 1, digits@(_ :: _) =>
      match readNumber bias digits 0 1 0 with
      | none => none
      | some (delta, rest) =>
          let slots := decoded.length + 1
          let reached := position + delta
          let point := point + reached / slots
          let place := reached % slots
          if 0x10FFFF < point || (0xD800 ≤ point && point ≤ 0xDFFF) then none
          else
            let decoded := decoded.insertIdx place point
            decodeFrom fuel rest decoded point (place + 1) (adapt delta decoded.length first) false

/-- The code points a Punycode form stands for: those before its last hyphen,
with the others inserted as its digits say. -/
def decode (codes : List Nat) : Option (List Nat) :=
  let (basic, digits) :=
    match (codes.reverse.span (· != 0x2D)) with
    | (_, []) => ([], codes)
    | (after, _ :: before) => (before.reverse, after.reverse)
  decodeFrom (digits.length + 1) digits basic 0x80 0 72 true

end Punycode

end LoadHarness
