import LoadHarness.Number.Binary

/-!
# The Mersenne Twister

`Twister` is the 32-bit Mersenne Twister MT19937: 624 words of state and a
position in them.  `Twister.ofSeed` seeds it from an integer the standard way
for arbitrary-length keys: the key is the little-endian 32-bit words of the
seed's absolute value (the single word 0 for zero), mixed into the state by
the initialization by array.  `Twister.uniform` draws a double in `[0, 1)`
with 53 random bits: the top 27 bits of one word and the top 26 of the next,
`(a · 2²⁶ + b) / 2⁵³`.
-/

namespace LoadHarness

/-- The state of a Mersenne Twister: 624 words and the position of the next one. -/
structure Twister where
  words : Array UInt32
  position : Nat
  deriving Inhabited

namespace Twister

/-- The number of state words. -/
def size : Nat := 624

/-- The offset of the word mixed in when the state is regenerated. -/
def shift : Nat := 397

/-- The word at a position, zero outside the state. -/
def word (words : Array UInt32) (index : Nat) : UInt32 := words.getD index 0

/-- The state seeded from one word by the linear recurrence. -/
def ofWord (seed : UInt32) : Array UInt32 :=
  (List.range (size - 1)).foldl
    (fun words index =>
      let previous := word words index
      words.push ((1812433253 : UInt32) * (previous ^^^ (previous >>> 30)) + (index + 1).toUInt32))
    #[seed]

/-- One step of mixing a key into the state: the word at `index` is combined
with its predecessor, scaled by `factor`, and `addend` is added. -/
def mixStep (words : Array UInt32) (index : Nat) (factor addend : UInt32) : Array UInt32 :=
  let previous := word words (index - 1)
  words.set! index ((word words index ^^^ ((previous ^^^ (previous >>> 30)) * factor)) + addend)

/-- Advance the mixing position, wrapping to 1 and copying the last word to
the first when it passes the end. -/
def nextIndex (words : Array UInt32) (index : Nat) : Array UInt32 × Nat :=
  if index + 1 ≥ size then (words.set! 0 (word words (size - 1)), 1) else (words, index + 1)

/-- The state initialized from a key of words. -/
def ofKey (key : Array UInt32) : Array UInt32 :=
  let keyLength := max key.size 1
  let rounds := max size key.size
  let first := (List.range rounds).foldl
    (fun (state : Array UInt32 × Nat × Nat) _ =>
      let (words, index, position) := state
      let words := mixStep words index 1664525 (word key position + position.toUInt32)
      let (words, index) := nextIndex words index
      let position := if position + 1 ≥ keyLength then 0 else position + 1
      (words, index, position))
    (ofWord 19650218, 1, 0)
  let second := (List.range (size - 1)).foldl
    (fun (state : Array UInt32 × Nat) _ =>
      let (words, index) := state
      let words := mixStep words index 1566083941 (0 - index.toUInt32)
      nextIndex words index)
    (first.1, first.2.1)
  second.1.set! 0 0x80000000

/-- The little-endian 32-bit words of a natural number; the single word 0 for zero. -/
def keyWords (n : Nat) : Array UInt32 :=
  let rec go (fuel n : Nat) (acc : Array UInt32) : Array UInt32 :=
    match fuel with
    | 0 => acc
    | fuel + 1 => if n == 0 then acc else go fuel (n / Nat.pow 2 32) (acc.push (n % Nat.pow 2 32).toUInt32)
  let words := go (n.log2 / 32 + 2) n #[]
  if words.isEmpty then #[0] else words

/-- A generator seeded from an integer through the words of its absolute value. -/
def ofSeed (seed : Int) : Twister :=
  ⟨ofKey (keyWords seed.natAbs), size⟩

/-- The state regenerated: each word is replaced by a twist of itself, its
successor and the word `shift` places on. -/
def regenerate (words : Array UInt32) : Array UInt32 :=
  let twist (words : Array UInt32) (index : Nat) : Array UInt32 :=
    let upper := word words index &&& 0x80000000
    let lower := word words ((index + 1) % size) &&& 0x7fffffff
    let y := upper ||| lower
    let mixed := word words ((index + shift) % size) ^^^ (y >>> 1) ^^^
      (if y &&& 1 == 1 then 0x9908b0df else 0)
    words.set! index mixed
  (List.range size).foldl twist words

/-- The tempering of a state word into an output word. -/
def temper (y : UInt32) : UInt32 :=
  let y := y ^^^ (y >>> 11)
  let y := y ^^^ ((y <<< 7) &&& 0x9d2c5680)
  let y := y ^^^ ((y <<< 15) &&& 0xefc60000)
  y ^^^ (y >>> 18)

/-- The next output word and the advanced generator. -/
def next (twister : Twister) : UInt32 × Twister :=
  let (words, position) :=
    if twister.position ≥ size then (regenerate twister.words, 0) else (twister.words, twister.position)
  (temper (word words position), ⟨words, position + 1⟩)

/-- A double drawn uniformly from `[0, 1)` with 53 random bits. -/
def uniform (twister : Twister) : Float × Twister :=
  let (a, twister) := twister.next
  let (b, twister) := twister.next
  let numerator := (a >>> 5).toNat * Nat.pow 2 26 + (b >>> 6).toNat
  (Binary.nearest false numerator (Nat.pow 2 53), twister)

end Twister

end LoadHarness
