import LoadHarness.Measure.Sample
import LoadHarness.Failure
import LoadHarness.Sorting
import LoadHarness.Number.Fixed

/-!
# Run reports

A `Report` summarizes the latencies of a run: how many samples, how many
failed, three rank percentiles, the extremes and the mean.

Percentiles are by rank, without interpolation: the `q` percentile of `n`
ascending values is the value at position `⌊q · n⌋`, capped at the last one.
`summarizeLatencies` sorts the values, takes the percentiles at `0.5`, `0.9`
and `0.99`, the first and last value, and the mean (the sum from left to right
divided by the count), and validates the result as a report; the number of
failures comes from the caller.

Latencies and percentile values given as data are used as sequences: a
text is the sequence of its characters and an object that of its keys, whose
positions are never keys.

`Report.lines` are the printed lines of a report: the count, the failures and
the three percentiles with two decimals, or the single line `no data`.
-/

namespace LoadHarness

/-- The summary of a run's latencies, in milliseconds. -/
structure Report where
  count : Int
  failures : Int
  p50 : Float
  p90 : Float
  p99 : Float
  minimum : Float
  maximum : Float
  mean : Float
  deriving Inhabited

namespace Report

/-- The schema title of reports. -/
def title : String := "RunReport"

/-- The keys of a report's fields, in declaration order. -/
def keys : List FieldKey :=
  ["count", "failures", "p50", "p90", "p99", "min", "max", "mean"].map FieldKey.plain

/-- A report read from an object of loose data: a positive count, a
non-negative number of failures (0 when absent) and six doubles. -/
def validate (input : Value) : Except Rejection Report := do
  let fields ← objectFields title (.modelType title) input
  let required (name : String) := FieldRead.required input fields (.plain name) Lax.float
  let count := FieldRead.required input fields (.plain "count") (Lax.intAbove 0)
  let failures := FieldRead.withDefault fields (.plain "failures") 0 (Lax.intAtLeast 0)
  let p50 := required "p50"
  let p90 := required "p90"
  let p99 := required "p99"
  let low := required "min"
  let high := required "max"
  let mean := required "mean"
  let surplus := surplusIssues fields keys
  match count, failures, p50, p90, p99, low, high, mean, surplus with
  | .ok count, .ok failures, .ok p50, .ok p90, .ok p99, .ok low, .ok high, .ok mean, [] =>
      pure ⟨count, failures, p50, p90, p99, low, high, mean⟩
  | _, _, _, _, _, _, _, _, _ =>
      .error ⟨title, [count.issue?, failures.issue?, p50.issue?, p90.issue?, p99.issue?,
        low.issue?, high.issue?, mean.issue?].filterMap id ++ surplus⟩

/-- The samples that succeeded: the count less the failures. -/
def successes (report : Report) : Int := report.count - report.failures

/-- A report as data, with its successes. -/
def toValue (report : Report) : Value :=
  .obj [("count", .int report.count), ("failures", .int report.failures),
    ("p50", .float report.p50), ("p90", .float report.p90), ("p99", .float report.p99),
    ("min", .float report.minimum), ("max", .float report.maximum), ("mean", .float report.mean),
    ("successes", .int report.successes)]

/-- The printed lines of a report, or `no data` without one. -/
def lines : Option Report → List String
  | none => ["no data"]
  | some report =>
      ["Completed " ++ toString report.count ++ " orders",
       "Failures " ++ toString report.failures,
       "p50 latency ms: " ++ Fixed.fixedText report.p50 2,
       "p90 latency ms: " ++ Fixed.fixedText report.p90 2,
       "p99 latency ms: " ++ Fixed.fixedText report.p99 2]

end Report

/-- An index from a rank: `⌊rank · count⌋`, exact for whole ranks and a
product of doubles otherwise. -/
def rankIndex (rank : Number) (count : Nat) : Except Failure Int :=
  match rank with
  | .whole value => .ok (value * count)
  | .double value =>
      match FloatShape.of (value * Binary.ofInt count) with
      | .finite product => .ok (Binary.floorOf product)
      | .infinite _ => .error .infiniteToInteger
      | .nan => .error .nanToInteger

/-- The length of data used as a sequence: a list's items, a text's
characters, an object's keys; other data has no length. -/
def sequenceLength : Value → Except Failure Nat
  | .arr items => .ok items.length
  | .str text => .ok text.length
  | .obj fields => .ok fields.length
  | other => .error (.noLength other.kindName)

/-- The item at a position of data used as a sequence: a list's item, a
text's character; an object is indexed by its keys, which are texts, so no
position is among them. -/
def sequenceItem (values : Value) (position : Nat) : Except Failure Value :=
  match values with
  | .arr items =>
      match items[position]? with
      | some item => .ok item
      | none => .error .noSamples
  | .str text =>
      match text.toList[position]? with
      | some c => .ok (.str (String.singleton c))
      | none => .error .noSamples
  | _ => .error (.missingKey (.int position))

/-- The items of data iterated over: a list's items, a text's characters, an
object's keys; other data cannot be iterated over. -/
def iterated : Value → Except Failure (List Value)
  | .arr items => .ok items
  | .str text => .ok (text.toList.map fun c => .str (String.singleton c))
  | .obj fields => .ok (fields.map fun (key, _) => .str key)
  | other => .error (.notIterable other.kindName)

/-- The value at rank `rank` of the sequence `values`: position `⌊rank · n⌋`,
capped at the last one; no values, or a rank outside `[0, 1)`, is a failure. -/
def percentile (values : Value) (rank : Value) : Except Failure Value := do
  let count ← sequenceLength values
  if count == 0 then throw .noSamples
  let atLeastZero ← (Value.relate .lessEqual (.int 0) rank).mapError Failure.unorderable
  if !atLeastZero then throw (.percentileRange rank)
  let belowOne ← (Value.relate .less rank (.int 1)).mapError Failure.unorderable
  if !belowOne then throw (.percentileRange rank)
  match rank.number? with
  | none => throw (.percentileRange rank)
  | some number =>
      let index ← rankIndex number count
      sequenceItem values (min index.toNat (count - 1))

/-- The report of a list of latencies with the given number of failures. -/
def summarizeLatencies (latencies : List Value) (failures : Value) : Except Failure Report := do
  let ordered ← (Sorting.sortBy Value.less latencies).mapError Failure.unorderable
  if ordered.isEmpty then throw .noSamples
  let p50 ← percentile (.arr ordered) (.float 0.5)
  let p90 ← percentile (.arr ordered) (.float 0.9)
  let p99 ← percentile (.arr ordered) (.float 0.99)
  let low := ordered.head?.getD .null
  let high := ordered.getLast?.getD .null
  let total ← (Value.sum ordered).mapError Failure.arithmetic
  let mean ← (Value.divide total (.int ordered.length)).mapError Failure.arithmetic
  let fields : List (String × Value) :=
    [("count", .int ordered.length), ("failures", failures), ("min", low), ("max", high),
      ("mean", mean), ("p50", p50), ("p90", p90), ("p99", p99)]
  (Report.validate (.obj fields)).mapError Failure.rejected

/-- The report of latencies given as data, iterated over as a sequence. -/
def summarizeData (latencies : Value) (failures : Value) : Except Failure Report := do
  summarizeLatencies (← iterated latencies) failures

/-- The number of samples that failed. -/
def failureCount (samples : List Sample) : Nat :=
  (samples.filter fun sample => !sample.ok).length

/-- The report of a list of samples: their latencies, failures counted. -/
def summarize (samples : List Sample) : Except Failure Report :=
  summarizeLatencies (samples.map fun sample => .float sample.latencyMs) (.int (failureCount samples))

end LoadHarness
