/-!
# SHA-512

The SHA-512 digest of a sequence of bytes.  The message is padded with a one
bit, zeros, and its length in bits as a 128-bit big-endian number, to a whole
number of 128-byte blocks; each block is read as sixteen big-endian 64-bit
words, extended to eighty by the message schedule, and folded into the
working state by eighty rounds of compression.  The digest is the final state
written as eight big-endian words.
-/

namespace LoadHarness

namespace Sha512

/-- The round constants: the first 64 bits of the fractional parts of the cube
roots of the first eighty primes. -/
def roundConstants : Array UInt64 := #[
  0x428a2f98d728ae22, 0x7137449123ef65cd, 0xb5c0fbcfec4d3b2f, 0xe9b5dba58189dbbc,
  0x3956c25bf348b538, 0x59f111f1b605d019, 0x923f82a4af194f9b, 0xab1c5ed5da6d8118,
  0xd807aa98a3030242, 0x12835b0145706fbe, 0x243185be4ee4b28c, 0x550c7dc3d5ffb4e2,
  0x72be5d74f27b896f, 0x80deb1fe3b1696b1, 0x9bdc06a725c71235, 0xc19bf174cf692694,
  0xe49b69c19ef14ad2, 0xefbe4786384f25e3, 0x0fc19dc68b8cd5b5, 0x240ca1cc77ac9c65,
  0x2de92c6f592b0275, 0x4a7484aa6ea6e483, 0x5cb0a9dcbd41fbd4, 0x76f988da831153b5,
  0x983e5152ee66dfab, 0xa831c66d2db43210, 0xb00327c898fb213f, 0xbf597fc7beef0ee4,
  0xc6e00bf33da88fc2, 0xd5a79147930aa725, 0x06ca6351e003826f, 0x142929670a0e6e70,
  0x27b70a8546d22ffc, 0x2e1b21385c26c926, 0x4d2c6dfc5ac42aed, 0x53380d139d95b3df,
  0x650a73548baf63de, 0x766a0abb3c77b2a8, 0x81c2c92e47edaee6, 0x92722c851482353b,
  0xa2bfe8a14cf10364, 0xa81a664bbc423001, 0xc24b8b70d0f89791, 0xc76c51a30654be30,
  0xd192e819d6ef5218, 0xd69906245565a910, 0xf40e35855771202a, 0x106aa07032bbd1b8,
  0x19a4c116b8d2d0c8, 0x1e376c085141ab53, 0x2748774cdf8eeb99, 0x34b0bcb5e19b48a8,
  0x391c0cb3c5c95a63, 0x4ed8aa4ae3418acb, 0x5b9cca4f7763e373, 0x682e6ff3d6b2b8a3,
  0x748f82ee5defb2fc, 0x78a5636f43172f60, 0x84c87814a1f0ab72, 0x8cc702081a6439ec,
  0x90befffa23631e28, 0xa4506cebde82bde9, 0xbef9a3f7b2c67915, 0xc67178f2e372532b,
  0xca273eceea26619c, 0xd186b8c721c0c207, 0xeada7dd6cde0eb1e, 0xf57d4f7fee6ed178,
  0x06f067aa72176fba, 0x0a637dc5a2c898a6, 0x113f9804bef90dae, 0x1b710b35131c471b,
  0x28db77f523047d84, 0x32caab7b40c72493, 0x3c9ebe0a15c9bebc, 0x431d67c49c100d4c,
  0x4cc5d4becb3e42b6, 0x597f299cfc657e2a, 0x5fcb6fab3ad6faec, 0x6c44198c4a475817
]

/-- The eight words of the working state. -/
structure Working where
  a : UInt64
  b : UInt64
  c : UInt64
  d : UInt64
  e : UInt64
  f : UInt64
  g : UInt64
  h : UInt64
  deriving Inhabited

/-- The initial state: the first 64 bits of the fractional parts of the square
roots of the first eight primes. -/
def initial : Working :=
  ⟨0x6a09e667f3bcc908, 0xbb67ae8584caa73b, 0x3c6ef372fe94f82b, 0xa54ff53a5f1d36f1,
    0x510e527fade682d1, 0x9b05688c2b3e6c1f, 0x1f83d9abfb41bd6b, 0x5be0cd19137e2179⟩

/-- A word rotated right by `count` places. -/
def rotr (word : UInt64) (count : UInt64) : UInt64 :=
  (word >>> count) ||| (word <<< (64 - count))

/-- The message padded to whole blocks. -/
def padding (message : List UInt8) : List UInt8 :=
  let zeros := (239 - message.length % 128) % 128
  let bits := message.length * 8
  message ++ 0x80 :: List.replicate zeros 0 ++
    (List.range 16).reverse.map fun place => (bits / Nat.pow 2 (8 * place) % 256).toUInt8

/-- The big-endian 64-bit words of a block. -/
def blockWords (block : List UInt8) : Array UInt64 :=
  (List.range 16).toArray.map fun index =>
    ((block.drop (8 * index)).take 8).foldl (fun word byte => (word <<< 8) ||| byte.toUInt64) 0

/-- The message schedule of a block: its sixteen words, extended to eighty. -/
def schedule (block : List UInt8) : Array UInt64 :=
  (List.range 64).foldl
    (fun words index =>
      let t := index + 16
      let early := words.getD (t - 15) 0
      let late := words.getD (t - 2) 0
      let low := rotr early 1 ^^^ rotr early 8 ^^^ (early >>> 7)
      let high := rotr late 19 ^^^ rotr late 61 ^^^ (late >>> 6)
      words.push (high + words.getD (t - 7) 0 + low + words.getD (t - 16) 0))
    (blockWords block)

/-- One round of compression with round constant `constant` and schedule word `word`. -/
def Working.round (state : Working) (constant word : UInt64) : Working :=
  let upper := rotr state.e 14 ^^^ rotr state.e 18 ^^^ rotr state.e 41
  let choice := (state.e &&& state.f) ^^^ (~~~state.e &&& state.g)
  let first := state.h + upper + choice + constant + word
  let lower := rotr state.a 28 ^^^ rotr state.a 34 ^^^ rotr state.a 39
  let majority := (state.a &&& state.b) ^^^ (state.a &&& state.c) ^^^ (state.b &&& state.c)
  ⟨first + lower + majority, state.a, state.b, state.c, state.d + first, state.e, state.f, state.g⟩

/-- The state after one block: eighty rounds, added word by word to the state before. -/
def compressionStep (block : List UInt8) (prior : Working) : Working :=
  let words := schedule block
  let last := (List.range 80).foldl
    (fun state index => state.round (roundConstants.getD index 0) (words.getD index 0)) prior
  ⟨prior.a + last.a, prior.b + last.b, prior.c + last.c, prior.d + last.d,
    prior.e + last.e, prior.f + last.f, prior.g + last.g, prior.h + last.h⟩

/-- The state after the first `count` blocks of a padded message. -/
def iterateBlocks (message : List UInt8) : Nat → Working → Working
  | 0, state => state
  | count + 1, state => iterateBlocks (message.drop 128) count (compressionStep (message.take 128) state)

/-- The big-endian bytes of a word. -/
def wordBytes (word : UInt64) : List UInt8 :=
  (List.range 8).reverse.map fun place => (word >>> (8 * place).toUInt64).toUInt8

/-- The digest a final state stands for. -/
def output (state : Working) : List UInt8 :=
  [state.a, state.b, state.c, state.d, state.e, state.f, state.g, state.h].flatMap wordBytes

/-- The SHA-512 digest of a message. -/
def hash (message : List UInt8) : List UInt8 :=
  let padded := padding message
  output (iterateBlocks padded (padded.length / 128) initial)

end Sha512

end LoadHarness
