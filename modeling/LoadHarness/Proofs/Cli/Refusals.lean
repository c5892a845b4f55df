import Mathlib
import LoadHarness.Proofs.Cli.Reading
import LoadHarness.Proofs.Order.Generation
import LoadHarness.Proofs.ClosedLoop.Run

/-!
# Refused configurations

A command line the parser accepts, with nothing left over, names one of the three commands, and
each of the command's parameters holds a value of its type (`Proofs/Cli/Reading`): `generate`
reads a whole `count`, `load` a text host and whole port, order count and concurrency, `rate`
doubles for the rate, the duration and the grace period and whole caller counts
(`Invocation.generate_count`, `Invocation.load_fields`, `Invocation.rate_fields`).

From there each command checks its configuration before it does anything else.  A negative count,
and every configuration that the run schemas refuse (`ClosedConfig.validate_fields_ok`,
`ClosedConfig.validate_fields_error`, `OpenConfig.validate_fields_ok`), ends the program with
status 2, nothing on standard output and the refusal on standard error.  A valid `generate`
writes one line per order and a valid `load` never ends with status 2; without orders it prints
`no data`.  `invalid_configuration_exits_two` puts the three commands together.
-/

namespace LoadHarness

namespace Cli

/-! ### The commands' parameters -/

/-- `key` is the key of some parameter of `command`, and every parameter stored under it is of
`type`, its default too. -/
def Command.Keeps (command : Command) (key : String) (type : ArgType) : Prop :=
  key ∈ command.params.map Param.dest ∧
    ∀ param ∈ command.params, param.dest = key → param.type = type ∧ param.default.hasType type = true

instance (command : Command) (key : String) (type : ArgType) : Decidable (command.Keeps key type) :=
  inferInstanceAs (Decidable (_ ∧ _))

theorem ArgValue.eq_integer_of_hasType {value : ArgValue} (typed : value.hasType .integer = true) :
    ∃ whole, value = .integer whole := by
  cases value <;> simp_all [ArgValue.hasType]

theorem ArgValue.eq_decimal_of_hasType {value : ArgValue} (typed : value.hasType .decimal = true) :
    ∃ x, value = .decimal x := by
  cases value <;> simp_all [ArgValue.hasType]

theorem ArgValue.eq_text_of_hasType {value : ArgValue} (typed : value.hasType .text = true) :
    ∃ text, value = .text text := by
  cases value <;> simp_all [ArgValue.hasType]

/-- The keys each command reads its configuration from, and their types. -/
theorem program_keeps :
    ∀ command ∈ program.commands,
      (command.name = "generate" → command.Keeps "count" .integer) ∧
      (command.name = "load" → command.Keeps "host" .text ∧ command.Keeps "port" .integer ∧
        command.Keeps "total_orders" .integer ∧ command.Keeps "concurrency" .integer) ∧
      (command.name = "rate" → command.Keeps "rate" .decimal ∧ command.Keeps "duration" .decimal ∧
        command.Keeps "pre_allocated" .integer ∧ command.Keeps "max_callers" .integer ∧
        command.Keeps "graceful_stop" .decimal) := by
  decide

theorem Reading.Sound.get_of_keeps {command : Command} {reading : Reading} (sound : reading.Sound command.params)
    {key : String} {type : ArgType} (keeps : command.Keeps key type) : (reading.get key).hasType type = true :=
  sound.get_hasType keeps.1 keeps.2

variable {args : List String} {invocation : Invocation}

/-- An accepted `generate` reads a whole count. -/
theorem Invocation.generate_count (accepted : program.read args = .ok invocation)
    (named : invocation.command.name = "generate") : ∃ count, invocation.reading.get "count" = .integer count := by
  obtain ⟨member, sound⟩ := Program.read_invocation accepted
  exact ArgValue.eq_integer_of_hasType (sound.get_of_keeps ((program_keeps _ member).1 named))

/-- An accepted `load` reads a text host and a whole port, order count and concurrency. -/
theorem Invocation.load_fields (accepted : program.read args = .ok invocation)
    (named : invocation.command.name = "load") :
    ∃ (host : String) (port total concurrency : Int),
      invocation.reading.get "host" = .text host ∧ invocation.reading.get "port" = .integer port ∧
        invocation.reading.get "total_orders" = .integer total ∧
        invocation.reading.get "concurrency" = .integer concurrency := by
  obtain ⟨member, sound⟩ := Program.read_invocation accepted
  obtain ⟨host, port, total, concurrency⟩ := (program_keeps _ member).2.1 named
  obtain ⟨hostText, hostIs⟩ := ArgValue.eq_text_of_hasType (sound.get_of_keeps host)
  obtain ⟨portWhole, portIs⟩ := ArgValue.eq_integer_of_hasType (sound.get_of_keeps port)
  obtain ⟨totalWhole, totalIs⟩ := ArgValue.eq_integer_of_hasType (sound.get_of_keeps total)
  obtain ⟨concurrencyWhole, concurrencyIs⟩ := ArgValue.eq_integer_of_hasType (sound.get_of_keeps concurrency)
  exact ⟨hostText, portWhole, totalWhole, concurrencyWhole, hostIs, portIs, totalIs, concurrencyIs⟩

/-- An accepted `rate` reads doubles for the rate, the duration and the grace period, and whole
caller counts. -/
theorem Invocation.rate_fields (accepted : program.read args = .ok invocation)
    (named : invocation.command.name = "rate") :
    ∃ (rate duration grace : Float) (pre most : Int),
      invocation.reading.get "rate" = .decimal rate ∧ invocation.reading.get "duration" = .decimal duration ∧
        invocation.reading.get "pre_allocated" = .integer pre ∧
        invocation.reading.get "max_callers" = .integer most ∧
        invocation.reading.get "graceful_stop" = .decimal grace := by
  obtain ⟨member, sound⟩ := Program.read_invocation accepted
  obtain ⟨rate, duration, pre, most, grace⟩ := (program_keeps _ member).2.2 named
  obtain ⟨rateDouble, rateIs⟩ := ArgValue.eq_decimal_of_hasType (sound.get_of_keeps rate)
  obtain ⟨durationDouble, durationIs⟩ := ArgValue.eq_decimal_of_hasType (sound.get_of_keeps duration)
  obtain ⟨preWhole, preIs⟩ := ArgValue.eq_integer_of_hasType (sound.get_of_keeps pre)
  obtain ⟨mostWhole, mostIs⟩ := ArgValue.eq_integer_of_hasType (sound.get_of_keeps most)
  obtain ⟨graceDouble, graceIs⟩ := ArgValue.eq_decimal_of_hasType (sound.get_of_keeps grace)
  exact ⟨rateDouble, durationDouble, graceDouble, preWhole, mostWhole, rateIs, durationIs, preIs, mostIs, graceIs⟩

/-- An accepted command line with nothing left over runs its command on what it read. -/
theorem run_accepted (accepted : program.read args = .ok invocation) (nothingLeft : invocation.leftover = []) :
    run args = execute invocation.command.name invocation.reading := by
  simp [run, accepted, nothingLeft]

/-! ### The run schemas on typed fields -/

/-- The fields of a closed-loop configuration. -/
def closedFields (host : String) (port total concurrency : Int) : Value :=
  .obj [("host", .str host), ("port", .int port), ("total_orders", .int total), ("concurrency", .int concurrency)]

/-- The fields of an open-loop configuration. -/
def openFields (rate duration : Float) (pre most : Int) (grace : Float) : Value :=
  .obj [("rate", .float rate), ("duration", .float duration), ("pre_allocated_callers", .int pre),
    ("max_callers", .int most), ("graceful_stop", .float grace)]

theorem ClosedConfig.validate_fields_ok (host : String) {port total concurrency : Int}
    (inRange : 1 ≤ port ∧ port ≤ 65535 ∧ 0 ≤ total ∧ 1 ≤ concurrency) :
    ClosedConfig.validate (closedFields host port total concurrency) = .ok ⟨host, port, total, concurrency⟩ := by
  obtain ⟨portLow, portHigh, totalLow, concurrencyLow⟩ := inRange
  have portAbove : ¬ port ≤ 0 := by omega
  have portBelow : ¬ 65536 ≤ port := by omega
  unfold ClosedConfig.validate closedFields
  simp [objectFields, FieldRead.withDefault, FieldKey.find, FieldKey.plain, Value.lookup, Lax.string,
    Lax.intBetween, Lax.intAtLeast, Lax.int, surplusIssues, ClosedConfig.keys, bind, Except.bind, pure,
    Except.pure, portAbove, portBelow, totalLow, concurrencyLow]

theorem ClosedConfig.validate_fields_error (host : String) {port total concurrency : Int}
    (outOfRange : port < 1 ∨ 65535 < port ∨ total < 0 ∨ concurrency < 1) :
    ∃ rejection, ClosedConfig.validate (closedFields host port total concurrency) = .error rejection := by
  unfold ClosedConfig.validate closedFields
  simp [objectFields, FieldRead.withDefault, FieldKey.find, FieldKey.plain, Value.lookup, Lax.string,
    Lax.intBetween, Lax.intAtLeast, Lax.int, surplusIssues, ClosedConfig.keys, bind, Except.bind, pure,
    Except.pure]
  -- each field read either fails, or passes its bound; not all four pass
  split_ifs <;> simp
  omega

/-- An open-loop configuration read from typed fields passes every bound of its schema. -/
theorem OpenConfig.validate_fields_ok {rate duration grace : Float} {pre most : Int} {config : OpenConfig}
    (valid : OpenConfig.validate (openFields rate duration pre most grace) = .ok config) :
    0.0 < rate ∧ 0.0 < duration ∧ 1 ≤ pre ∧ 1 ≤ most ∧ 0.0 ≤ grace ∧ pre ≤ most := by
  unfold OpenConfig.validate openFields at valid
  simp [objectFields, FieldRead.withDefault, FieldKey.find, FieldKey.plain, Value.lookup, Lax.float,
    Lax.floatAbove, Lax.above, Lax.floatAtLeast, Lax.intAtLeast, Lax.int, surplusIssues, OpenConfig.keys,
    bind, Except.bind, pure, Except.pure] at valid
  split_ifs at valid with rateAbove durationAbove preAtLeast mostAtLeast graceAtLeast
  simp only at valid
  split_ifs at valid with crossed
  exact ⟨rateAbove, durationAbove, preAtLeast, mostAtLeast, graceAtLeast, by omega⟩

/-! ### What each command does with its configuration -/

/-- The outcome of a refused configuration: status 2, nothing on standard output, and the reason on
standard error. -/
theorem invalidConfiguration_eq (reason : String) :
    invalidConfiguration reason = ⟨2, "", "loadgen: invalid configuration: " ++ reason ++ "\n"⟩ := rfl

section Commands

variable {reading : Reading}

theorem generateOrders_negative {count : Int} (given : reading.get "count" = .integer count) (negative : count < 0) :
    generateOrders reading = invalidConfiguration "count must be >= 0" := by
  have whole : (reading.get "count").whole = count := by rw [given]; rfl
  simp only [generateOrders, whole, negative, ↓reduceIte]

/-- A count of at least zero writes that many orders, one JSON text per line. -/
theorem generateOrders_writes {count : Int} (given : reading.get "count" = .integer count) (nonneg : 0 ≤ count) :
    ∃ orders : List Order, orders.length = count.toNat ∧
      generateOrders reading = ⟨0, Generator.ndjson orders, ""⟩ ∧
      (Generator.ndjson orders).toList.splitOn '\n' = orders.map (fun order => order.toJson.toList) ++ [[]] := by
  have named : (Generator.ofSeed (reading.get "seed").whole).instrument = .str "BTC-USD" := rfl
  have long : 1 ≤ "BTC-USD".length := by decide
  obtain ⟨orders, made, length, each⟩ := Generator.batchOf_range' named long 0 count.toNat
  -- every order of the batch is one that reading produces
  have admissible : ∀ order ∈ orders, order.Admissible := by
    intro order member
    obtain ⟨j, h, rfl⟩ := List.getElem_of_mem member
    exact (Generator.readable_of_generate (by rw [Generator.instrument_iterate_afterDraws, named]) long
      (each j h)).1
  have batch : ((Generator.ofSeed (reading.get "seed").whole).batch (.int count)).1 = .ok orders := by
    simp only [Generator.batch, Generator.count, Value.int?, List.range_eq_range', made]
  have whole : (reading.get "count").whole = count := by rw [given]; rfl
  refine ⟨orders, length, ?_, splitOn_ndjson admissible⟩
  simp only [generateOrders, whole, not_lt.2 nonneg, ↓reduceIte, batch]

theorem loadOrders_fields {host : String} {port total concurrency : Int}
    (hostIs : reading.get "host" = .text host) (portIs : reading.get "port" = .integer port)
    (totalIs : reading.get "total_orders" = .integer total)
    (concurrencyIs : reading.get "concurrency" = .integer concurrency) :
    Value.obj (["host", "port", "total_orders", "concurrency"].map fun key => (key, (reading.get key).toValue)) =
      closedFields host port total concurrency := by
  simp [closedFields, hostIs, portIs, totalIs, concurrencyIs, ArgValue.toValue]

/-- A closed loop without orders records nothing, so its report is that there is no data. -/
theorem closedLoop_without_orders {c : Int} (atLeastOne : 1 ≤ c) (keyPrefix : Value)
    (respond : Nat → Order → String → Sample) :
    ∃ run, closedLoop (.int c) keyPrefix ⟨[], false⟩ respond = .ok run ∧ run.report = .ok none := by
  obtain ⟨run, ran⟩ := closedLoop_finishes atLeastOne keyPrefix ⟨[], false⟩ rfl respond
  obtain ⟨-, -, samples⟩ := closedLoop_ok_run atLeastOne ran
  have none : run.samples.length = 0 := by simpa using samples.length_eq
  exact ⟨run, ran, by rw [report_of_length none, if_pos rfl]⟩

theorem loadOrders_refused {host : String} {port total concurrency : Int}
    (hostIs : reading.get "host" = .text host) (portIs : reading.get "port" = .integer port)
    (totalIs : reading.get "total_orders" = .integer total)
    (concurrencyIs : reading.get "concurrency" = .integer concurrency)
    (outOfRange : port < 1 ∨ 65535 < port ∨ total < 0 ∨ concurrency < 1) :
    ∃ rejection : Rejection, loadOrders reading = invalidConfiguration rejection.report := by
  obtain ⟨rejection, refused⟩ := ClosedConfig.validate_fields_error host outOfRange
  refine ⟨rejection, ?_⟩
  simp only [loadOrders]
  rw [loadOrders_fields hostIs portIs totalIs concurrencyIs, refused]

/-- A configuration in range runs the closed loop, which ends with status 0 or 1; without orders
it prints that there is no data. -/
theorem loadOrders_runs {host : String} {port total concurrency : Int}
    (hostIs : reading.get "host" = .text host) (portIs : reading.get "port" = .integer port)
    (totalIs : reading.get "total_orders" = .integer total)
    (concurrencyIs : reading.get "concurrency" = .integer concurrency)
    (inRange : 1 ≤ port ∧ port ≤ 65535 ∧ 0 ≤ total ∧ 1 ≤ concurrency) :
    (loadOrders reading).exitCode ≠ 2 ∧ (total = 0 → loadOrders reading = ⟨0, "no data\n", ""⟩) := by
  have valid := ClosedConfig.validate_fields_ok host inRange
  simp only [loadOrders]
  rw [loadOrders_fields hostIs portIs totalIs concurrencyIs, valid]
  dsimp only
  constructor
  · split <;> simp
  · rintro rfl
    obtain ⟨run, ran, empty⟩ := closedLoop_without_orders inRange.2.2.2 (.str "load")
      (fun _ _ _ => Cue.failedAttempt unreachable)
    have noOrders : ((Generator.ofSeed (reading.get "seed").whole (.str "BTC-USD") (.str "load-client-")).batch
        (.int 0)).1 = .ok [] := rfl
    simp [noOrders, bind, Except.bind, ran, empty, printed, Report.lines]

/-- A configuration that the open-loop schema refuses is refused with the schema's report. -/
theorem rateOrders_refused {rate duration grace : Float} {pre most : Int}
    (rateIs : reading.get "rate" = .decimal rate) (durationIs : reading.get "duration" = .decimal duration)
    (preIs : reading.get "pre_allocated" = .integer pre) (mostIs : reading.get "max_callers" = .integer most)
    (graceIs : reading.get "graceful_stop" = .decimal grace)
    (outOfRange : ¬ (0.0 < rate ∧ 0.0 < duration ∧ 1 ≤ pre ∧ 1 ≤ most ∧ 0.0 ≤ grace ∧ pre ≤ most)) :
    ∃ rejection : Rejection, rateOrders reading = invalidConfiguration rejection.report := by
  cases validated : OpenConfig.validate (openFields rate duration pre most grace) with
  | error rejection =>
      refine ⟨rejection, ?_⟩
      -- the command reads its fields into exactly the typed object
      simp only [rateOrders, List.map_cons, List.map_nil, rateIs, durationIs, preIs, mostIs, graceIs,
        ArgValue.toValue]
      rw [show Value.obj _ = openFields rate duration pre most grace from rfl, validated]
  | ok config => exact absurd (OpenConfig.validate_fields_ok validated) outOfRange

end Commands

/-- The program refused its configuration: status 2, nothing on standard output, and the reason
on standard error after the program's name. -/
def Outcome.Refused (outcome : Outcome) : Prop :=
  ∃ reason, outcome = ⟨2, "", "loadgen: invalid configuration: " ++ reason ++ "\n"⟩

theorem Outcome.refused_invalidConfiguration (reason : String) : (invalidConfiguration reason).Refused :=
  ⟨reason, invalidConfiguration_eq reason⟩

/-- Take a command line that the parser accepts, with nothing left over.  Its command reads typed
values, and refuses its configuration, with status 2, nothing on standard output and
`loadgen: invalid configuration: ` and the reason on standard error, whenever it is out of range:
for `generate` a negative count; for `load` a port outside `[1, 65535]`, a negative order count
or a concurrency below one; for `rate` a rate or duration not above zero, a caller count below
one, a grace period not at least zero or more callers allocated up front than allowed at most.
These are the only refusals of `generate` and `load`: a valid `generate` writes exactly `count`
NDJSON lines with status 0, and a valid `load` does not end with status 2, printing exactly
`no data` when it has no orders. -/
theorem invalid_configuration_exits_two (accepted : program.read args = .ok invocation)
    (nothingLeft : invocation.leftover = []) :
    (invocation.command.name = "generate" → ∃ count : Int,
      invocation.reading.get "count" = .integer count ∧
      (count < 0 → (run args).Refused) ∧
      (0 ≤ count → ∃ orders : List Order, orders.length = count.toNat ∧
        run args = ⟨0, Generator.ndjson orders, ""⟩ ∧
        (Generator.ndjson orders).toList.splitOn '\n' = orders.map (fun order => order.toJson.toList) ++ [[]])) ∧
    (invocation.command.name = "load" → ∃ (host : String) (port total concurrency : Int),
      invocation.reading.get "host" = .text host ∧ invocation.reading.get "port" = .integer port ∧
      invocation.reading.get "total_orders" = .integer total ∧
      invocation.reading.get "concurrency" = .integer concurrency ∧
      ((port < 1 ∨ 65535 < port ∨ total < 0 ∨ concurrency < 1) → (run args).Refused) ∧
      (1 ≤ port ∧ port ≤ 65535 ∧ 0 ≤ total ∧ 1 ≤ concurrency →
        (run args).exitCode ≠ 2 ∧ (total = 0 → run args = ⟨0, "no data\n", ""⟩))) ∧
    (invocation.command.name = "rate" → ∃ (rate duration grace : Float) (pre most : Int),
      invocation.reading.get "rate" = .decimal rate ∧ invocation.reading.get "duration" = .decimal duration ∧
      invocation.reading.get "pre_allocated" = .integer pre ∧
      invocation.reading.get "max_callers" = .integer most ∧
      invocation.reading.get "graceful_stop" = .decimal grace ∧
      (¬ (0.0 < rate ∧ 0.0 < duration ∧ 1 ≤ pre ∧ 1 ≤ most ∧ 0.0 ≤ grace ∧ pre ≤ most) → (run args).Refused)) := by
  have ran := run_accepted accepted nothingLeft
  refine ⟨fun named => ?_, fun named => ?_, fun named => ?_⟩
  · obtain ⟨count, given⟩ := Invocation.generate_count accepted named
    have executed : run args = generateOrders invocation.reading := by simp [ran, execute, named]
    refine ⟨count, given, fun negative => ?_, fun nonneg => ?_⟩
    · rw [executed, generateOrders_negative given negative]
      exact Outcome.refused_invalidConfiguration _
    · rw [executed]
      exact generateOrders_writes given nonneg
  · obtain ⟨host, port, total, concurrency, hostIs, portIs, totalIs, concurrencyIs⟩ :=
      Invocation.load_fields accepted named
    have executed : run args = loadOrders invocation.reading := by simp [ran, execute, named]
    refine ⟨host, port, total, concurrency, hostIs, portIs, totalIs, concurrencyIs, fun outOfRange => ?_,
      fun inRange => ?_⟩
    · obtain ⟨rejection, refused⟩ := loadOrders_refused hostIs portIs totalIs concurrencyIs outOfRange
      rw [executed, refused]
      exact Outcome.refused_invalidConfiguration _
    · rw [executed]
      exact loadOrders_runs hostIs portIs totalIs concurrencyIs inRange
  · obtain ⟨rate, duration, grace, pre, most, rateIs, durationIs, preIs, mostIs, graceIs⟩ :=
      Invocation.rate_fields accepted named
    have executed : run args = rateOrders invocation.reading := by simp [ran, execute, named]
    refine ⟨rate, duration, grace, pre, most, rateIs, durationIs, preIs, mostIs, graceIs, fun outOfRange => ?_⟩
    obtain ⟨rejection, refused⟩ := rateOrders_refused rateIs durationIs preIs mostIs graceIs outOfRange
    rw [executed, refused]
    exact Outcome.refused_invalidConfiguration _

/-- `load target 0` is accepted and refused: port 0 is out of range. -/
theorem load_port_zero_refused :
    (∃ invocation, program.read ["load", "target", "0"] = .ok invocation ∧ invocation.leftover = [] ∧
      invocation.command.name = "load") ∧ (run ["load", "target", "0"]).Refused := by
  -- the kernel runs the parser; the elaborator does not unfold its recursion
  have evaluated : (match program.read ["load", "target", "0"] with
      | .ok invocation => invocation.leftover.isEmpty && invocation.command.name == "load" &&
          (invocation.reading.get "port").whole == 0
      | .error _ => false) = true := by decide +kernel
  cases accepted : program.read ["load", "target", "0"] with
  | error halt => simp [accepted] at evaluated
  | ok invocation =>
      rw [accepted] at evaluated
      simp only [Bool.and_eq_true, List.isEmpty_iff, beq_iff_eq] at evaluated
      obtain ⟨⟨nothingLeft, named⟩, portZero⟩ := evaluated
      obtain ⟨host, port, total, concurrency, -, portIs, -, -, refused, -⟩ :=
        (invalid_configuration_exits_two accepted nothingLeft).2.1 named
      have zero : port = 0 := by rw [portIs] at portZero; exact portZero
      exact ⟨⟨invocation, rfl, nothingLeft, named⟩, refused (Or.inl (by omega))⟩

end Cli

end LoadHarness
