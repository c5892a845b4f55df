import LoadHarness.Measure.Report

/-!
# Recording samples

A `Recorder` keeps the samples of a run in the order they were recorded.  Its
report is the summary of those samples, or none while it holds none.
-/

namespace LoadHarness

/-- The samples of a run, in recording order. -/
structure Recorder where
  recorded : Array Sample := #[]
  deriving Inhabited

namespace Recorder

/-- The recorded samples, in recording order. -/
def samples (recorder : Recorder) : List Sample := recorder.recorded.toList

/-- The recorder with one more sample at the end. -/
def record (recorder : Recorder) (sample : Sample) : Recorder :=
  ⟨recorder.recorded.push sample⟩

/-- How many samples were recorded. -/
def size (recorder : Recorder) : Nat := recorder.recorded.size

/-- How many recorded samples failed. -/
def failures (recorder : Recorder) : Nat := failureCount recorder.samples

/-- The report of the recorded samples; none when there are none. -/
def report (recorder : Recorder) : Except Failure (Option Report) :=
  match summarize recorder.samples with
  | .ok report => .ok (some report)
  | .error .noSamples => .ok none
  | .error failure => .error failure

end Recorder

end LoadHarness
