import LoadHarness.Validation.Record

/-!
# Check tallies

A `Tally` counts how often a named check passed and failed.  Its text starts
with a check mark while nothing failed and with a cross once something did.
-/

namespace LoadHarness

/-- Passes and failures of one named check. -/
structure Tally where
  name : String
  passes : Int := 0
  fails : Int := 0
  deriving Inhabited

namespace Tally

/-- The schema title of tallies. -/
def title : String := "CheckTally"

/-- The keys of a tally's fields, in declaration order. -/
def keys : List FieldKey := [.plain "name", .plain "passes", .plain "fails"]

/-- A tally read from an object of loose data: a name, and counts that default to 0. -/
def validate (input : Value) : Except Rejection Tally := do
  let fields ← objectFields title (.modelType title) input
  let name := FieldRead.required input fields (.plain "name") Lax.string
  let passes := FieldRead.withDefault fields (.plain "passes") 0 Lax.int
  let fails := FieldRead.withDefault fields (.plain "fails") 0 Lax.int
  let surplus := surplusIssues fields keys
  match name, passes, fails, surplus with
  | .ok name, .ok passes, .ok fails, [] => pure ⟨name, passes, fails⟩
  | _, _, _, _ => .error ⟨title, [name.issue?, passes.issue?, fails.issue?].filterMap id ++ surplus⟩

/-- The tally after one more observation. -/
def observe (tally : Tally) (passed : Bool) : Tally :=
  if passed then { tally with passes := tally.passes + 1 } else { tally with fails := tally.fails + 1 }

/-- The text of a tally: a mark, the name, passes and failures. -/
def text (tally : Tally) : String :=
  (if tally.fails == 0 then "✓" else "✗") ++ " " ++ tally.name ++ ": " ++
    toString tally.passes ++ " / " ++ toString tally.fails

end Tally

end LoadHarness
