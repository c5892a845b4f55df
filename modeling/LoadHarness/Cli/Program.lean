import LoadHarness.Cli.Help
import LoadHarness.Order.Generator
import LoadHarness.Loop.Closed
import LoadHarness.Loop.Paced

/-!
# The command line

`loadgen` has three commands:

* `generate [count] [--seed S]` writes `count` (default 1000) generated
  orders as NDJSON; a negative count is an invalid configuration;
* `load [host] [port] [total_orders] [concurrency]` runs a closed loop and
  prints its report;
* `rate [host] [port] --rate R --duration D --pre-allocated P --max-callers M
  --graceful-stop G` runs a paced open loop and prints its counts, its check
  and its report.

Arguments that cannot be read end the program with status 2, the parser's
usage and the error; a configuration that its schema refuses ends it with
status 2 and the schema's full report.  `-h` prints the parser's help.

Without a network, every submission of `load` and `rate` fails to connect.
-/

namespace LoadHarness

namespace Cli

/-- A `--seed` option. -/
def seedParam : Param := ⟨"--seed", .integer, .none⟩

/-- The options every running command shares. -/
def runParams : List Param :=
  [seedParam, ⟨"--timeout", .decimal, .decimal 10.0⟩, ⟨"--api-key", .text, .none⟩]

/-- The target's host and port. -/
def targetParams : List Param := [⟨"host", .text, .text "localhost"⟩, ⟨"port", .integer, .integer 8080⟩]

/-- The program and its commands. -/
def program : Program where
  name := "loadgen"
  description := "Order-intake load harness"
  options := [⟨"--log-level", .text, .text "INFO"⟩]
  commands :=
    [⟨"generate", "Emit synthetic orders as NDJSON", [⟨"count", .integer, .integer 1000⟩, seedParam]⟩,
     ⟨"load", "Closed-loop batch replay with bounded concurrency",
       targetParams ++ [⟨"total_orders", .integer, .integer 1000⟩, ⟨"concurrency", .integer, .integer 20⟩] ++
         runParams⟩,
     ⟨"rate", "Open-loop constant arrival rate",
       targetParams ++ [⟨"--rate", .decimal, .decimal 2000.0⟩, ⟨"--duration", .decimal, .decimal 30.0⟩,
         ⟨"--pre-allocated", .integer, .integer 500⟩, ⟨"--max-callers", .integer, .integer 2000⟩,
         ⟨"--graceful-stop", .decimal, .decimal 30.0⟩] ++ runParams⟩]

/-- What a run of the program gives: its exit status and its two outputs. -/
structure Outcome where
  exitCode : Nat
  stdout : String := ""
  stderr : String := ""
  deriving Inhabited

/-- An argument value as data. -/
def ArgValue.toValue : ArgValue → Value
  | .none => .null
  | .text given => .str given
  | .integer whole => .int whole
  | .decimal x => .float x

/-- An integer argument value, 0 for any other. -/
def ArgValue.whole : ArgValue → Int
  | .integer whole => whole
  | _ => 0

/-- The outcome of a configuration the program refuses. -/
def invalidConfiguration (reason : String) : Outcome :=
  ⟨2, "", program.name ++ ": invalid configuration: " ++ reason ++ "\n"⟩

/-- The lines as printed text. -/
def printed (lines : List String) : String := String.join (lines.map (· ++ "\n"))

/-- What a failed connection records. -/
def unreachable : Failure := .raised "ConnectError" "All connection attempts failed"

/-- `generate`: NDJSON orders, or the refusal of a negative count. -/
def generateOrders (reading : Reading) : Outcome :=
  let count := (reading.get "count").whole
  if count < 0 then invalidConfiguration "count must be >= 0"
  else
    let generator := Generator.ofSeed (reading.get "seed").whole
    match (generator.batch (.int count)).1 with
    | .ok orders => ⟨0, Generator.ndjson orders, ""⟩
    | .error failure => ⟨1, "", failure.className ++ ": " ++ failure.message ++ "\n"⟩

/-- `load`: a closed loop under the configuration the arguments give. -/
def loadOrders (reading : Reading) : Outcome :=
  let fields := ["host", "port", "total_orders", "concurrency"].map fun key => (key, (reading.get key).toValue)
  match ClosedConfig.validate (.obj fields) with
  | .error rejection => invalidConfiguration rejection.report
  | .ok config =>
      let generator := Generator.ofSeed (reading.get "seed").whole (.str "BTC-USD") (.str "load-client-")
      let outcome := do
        let orders ← (generator.batch (.int config.totalOrders)).1
        let run ← closedLoop (.int config.concurrency) (.str "load") ⟨orders, false⟩
          fun _ _ _ => Cue.failedAttempt unreachable
        run.report
      match outcome with
      | .ok report => ⟨0, printed (Report.lines report), ""⟩
      | .error failure => ⟨1, "", failure.className ++ ": " ++ failure.message ++ "\n"⟩

/-- `rate`: a paced open loop under the configuration the arguments give. -/
def rateOrders (reading : Reading) : Outcome :=
  let fields := [("rate", "rate"), ("duration", "duration"), ("pre_allocated_callers", "pre_allocated"),
    ("max_callers", "max_callers"), ("graceful_stop", "graceful_stop")].map fun (field, key) =>
      (field, (reading.get key).toValue)
  match OpenConfig.validate (.obj fields) with
  | .error rejection => invalidConfiguration rejection.report
  | .ok config =>
      let generator := Generator.ofSeed (reading.get "seed").whole (.str "BTC-USD") (.str "rate-client-")
      let outcome := do
        let arrivals ← config.expectedArrivals
        let run := pacedRun config arrivals.toNat generator [⟨.pass, .raise "ConnectError" "All connection attempts failed"⟩]
        let report ← run.pool.recorder.report
        let pool := run.pool
        let count (name : String) (n : Nat) : String := name ++ "=" ++ toString n
        pure ([" ".intercalate [count "scheduled" pool.scheduled, count "issued" pool.issued,
            count "completed" pool.recorder.size],
          " ".intercalate [count "dropped" pool.dropped, count "abandoned" run.abandoned,
            count "callers" pool.allocated],
          "achieved_rate=" ++ Fixed.fixedText run.achievedRate 1 ++ "/s target_rate=" ++
            Fixed.fixedText config.rate 1 ++ "/s",
          pool.check.text] ++ Report.lines report)
      match outcome with
      | .ok lines => ⟨0, printed lines, ""⟩
      | .error failure => ⟨1, "", failure.className ++ ": " ++ failure.message ++ "\n"⟩

/-- Run the command named `name` on what its arguments gave. -/
def execute (name : String) (reading : Reading) : Outcome :=
  if name == "generate" then generateOrders reading
  else if name == "load" then loadOrders reading
  else rateOrders reading

/-- The outcome of an error in the arguments of the parser named `prog`. -/
def usageError (usage prog message : String) : Outcome :=
  ⟨2, "", usage ++ "\n" ++ prog ++ ": error: " ++ message ++ "\n"⟩

/-- Run the program on its arguments. -/
def run (args : List String) : Outcome :=
  match program.read args with
  | .error ⟨none, .help⟩ => ⟨0, program.help, ""⟩
  | .error ⟨none, .error message⟩ => usageError program.usage program.name message
  | .error ⟨some command, .help⟩ => ⟨0, command.help program.name, ""⟩
  | .error ⟨some command, .error message⟩ =>
      usageError (command.usage program.name) (command.prog program.name) message
  | .ok invocation =>
      if invocation.leftover.isEmpty then execute invocation.command.name invocation.reading
      else
        usageError program.usage program.name
          ("unrecognized arguments: " ++ " ".intercalate invocation.leftover)

end Cli

end LoadHarness
