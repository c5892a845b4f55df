import LoadHarness.Text.Tables.Lowercase

/-!
# Lowercase text

The lowercase form of a text lowers each of its characters by itself: ASCII
capitals by their fixed distance, other letters by the run of
`Lowercase.runs` that holds them, and capital I with dot above into two
characters.  Characters without a lowercase form stay as they are.

A capital sigma lowers to the medial small sigma wherever it stands; the final
form differs from it only in its code point, never in what a host name may
hold.
-/

namespace LoadHarness

namespace Lowercase

/-- Whether a run `(first, last, step, shift)` holds a code point. -/
def runHolds (run : Nat × Nat × Nat × Int) (code : Nat) : Bool :=
  let (first, last, step, _) := run
  first ≤ code && code ≤ last && (code - first) % step == 0

/-- The lowercase form of one character. -/
def lowerChar (c : Char) : List Char :=
  let code := c.toNat
  if code < 0x80 then [c.toLower]
  else if code == 0x130 then ['i', Char.ofNat 0x307]
  else
    match runs.find? (runHolds · code) with
    | some (_, _, _, shift) => [Char.ofNat ((code : Int) + shift).toNat]
    | none => [c]

/-- The lowercase form of a text. -/
def lower (text : List Char) : List Char := text.flatMap lowerChar

end Lowercase

end LoadHarness
