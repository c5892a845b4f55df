import LoadHarness.Text.Tables.Canonical

/-!
# Canonical composition

The normalization form C of a sequence of code points, for the characters
that labels of host names may hold:

1. every character is replaced by its full canonical decomposition;
2. each maximal run of characters with a non-zero combining class is sorted
   by class, characters of one class keeping their order;
3. from left to right, a character combines with the last starter when the
   pair has a primary composite and nothing between them blocks it: the
   character follows the starter directly, or every character kept between
   them has a smaller combining class.

Hangul syllables neither decompose nor compose here: the conjoining jamo they
would combine with are never part of a label.
-/

namespace LoadHarness

namespace Canonical

/-- The canonical combining class of a code point. -/
def combiningClass (code : Nat) : Nat :=
  match combiningClasses.find? fun (first, last, _) => first ≤ code && code ≤ last with
  | some (_, _, cls) => cls
  | none => 0

/-- The full canonical decomposition of a code point. -/
def decompose (code : Nat) : List Nat :=
  match decompositions.find? (·.1 == code) with
  | some (_, parts) => parts
  | none => [code]

/-- The primary composite of two code points, if they have one. -/
def compose (first second : Nat) : Option Nat :=
  (compositions.find? fun (a, b, _) => a == first && b == second).map fun (_, _, composite) => composite

/-- The characters with their runs of non-starters sorted by combining class;
`pending` is the run read so far. -/
def canonicalOrder (pending : List Nat) : List Nat → List Nat
  | [] => pending.mergeSort fun a b => combiningClass a ≤ combiningClass b
  | code :: rest =>
      if combiningClass code == 0 then
        pending.mergeSort (fun a b => combiningClass a ≤ combiningClass b) ++ code :: canonicalOrder [] rest
      else canonicalOrder (pending ++ [code]) rest

/-- The state of composition: the finished characters (last first), the last
starter, and the characters kept after it (last first). -/
structure Composing where
  finished : List Nat
  starter : Option Nat
  kept : List Nat

/-- The characters composed so far, last first. -/
def Composing.flush (state : Composing) : List Nat :=
  state.kept ++ (state.starter.toList ++ state.finished)

/-- Composition after one more character. -/
def Composing.step (state : Composing) (code : Nat) : Composing :=
  let cls := combiningClass code
  let lastClass := match state.kept with
    | [] => 0
    | last :: _ => combiningClass last
  let keep : Composing :=
    if cls == 0 then ⟨state.flush, some code, []⟩ else { state with kept := code :: state.kept }
  match state.starter.bind (compose · code) with
  | some composite => if lastClass < cls || lastClass == 0 then { state with starter := some composite } else keep
  | none => keep

/-- The canonical composition of characters in canonical order. -/
def composeAll (codes : List Nat) : List Nat :=
  (codes.foldl Composing.step ⟨[], none, []⟩).flush.reverse

/-- The normalization form C of a sequence of code points. -/
def nfc (codes : List Nat) : List Nat :=
  composeAll (canonicalOrder [] (codes.flatMap decompose))

end Canonical

end LoadHarness
