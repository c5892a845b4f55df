import LoadHarness.Config

/-!
# What a validated configuration guarantees

A field read with a default has every property its default and every value its reader
accepts share (`withDefault_of`): a whole number read with a lower bound is never below it,
and a double read with a strict lower bound is above it, whether it was given or took its
default (every default meets its own bound).  An open-loop configuration that validates
therefore starts at least one caller and never more than its ceiling, and runs at a rate and
for a duration above zero (`OpenConfig.validate_reads` says once what it was read from).
-/

namespace LoadHarness

theorem intAtLeast_ok {bound n : Int} {value : Value} (read : Lax.intAtLeast bound value = .ok n) :
    bound ≤ n := by
  unfold Lax.intAtLeast at read
  cases reading : Lax.int value with
  | error problem => simp [reading] at read; cases read
  | ok m =>
      simp only [reading, bind, Except.bind] at read
      split at read
      · cases read; assumption
      · cases read

/-- A field read with a default has each property that its default and every value its reader
accepts have. -/
theorem withDefault_of {α : Type} {P : α → Prop} {fields : List (String × Value)} {key : FieldKey}
    {fallback x : α} {read : Value → Except Problem α} (holds : P fallback)
    (reads : ∀ value y, read value = .ok y → P y) (got : FieldRead.withDefault fields key fallback read = .ok x) :
    P x := by
  unfold FieldRead.withDefault at got
  split at got
  · cases got
    exact holds
  · split at got
    · cases got
      exact reads _ _ (by assumption)
    · cases got

theorem floatAbove_ok {bound x : Float} {shown : String} {value : Value}
    (read : Lax.floatAbove bound shown value = .ok x) : bound < x := by
  unfold Lax.floatAbove Lax.above at read
  cases reading : Lax.float value with
  | error problem => simp [reading] at read; cases read
  | ok y =>
      simp only [reading, bind, Except.bind] at read
      split at read
      · cases read; assumption
      · cases read

theorem withDefault_atLeast {fields : List (String × Value)} {key : FieldKey} {fallback bound n : Int}
    (low : bound ≤ fallback) (read : FieldRead.withDefault fields key fallback (Lax.intAtLeast bound) = .ok n) :
    bound ≤ n :=
  withDefault_of low (fun _ _ => intAtLeast_ok) read

/-- What a validated open-loop configuration was read from: its rate, duration and
pre-allocated callers, each read with its default and reader, and callers in all no fewer than
the pre-allocated ones. -/
theorem OpenConfig.validate_reads {input : Value} {config : OpenConfig}
    (valid : OpenConfig.validate input = .ok config) :
    ∃ fields, FieldRead.withDefault fields (.plain "rate") 2000.0 (Lax.floatAbove 0.0 "0") = .ok config.rate ∧
      FieldRead.withDefault fields (.plain "duration") 30.0 (Lax.floatAbove 0.0 "0") = .ok config.duration ∧
      FieldRead.withDefault fields (.plain "pre_allocated_callers") 500 (Lax.intAtLeast 1) =
        .ok config.preAllocated ∧
      config.preAllocated ≤ config.maxCallers := by
  unfold OpenConfig.validate at valid
  cases object : objectFields OpenConfig.title (.modelType OpenConfig.title) input with
  | error rejection => simp [object] at valid; cases valid
  | ok fields =>
      simp only [object, bind, Except.bind] at valid
      split at valid
      · rename_i rate duration pre most grace rateRead durationRead preRead mostRead graceRead surplus
        split at valid
        · cases valid
        · rename_i enough
          cases valid
          exact ⟨fields, rateRead, durationRead, preRead, by simpa using enough⟩
      · cases valid

theorem OpenConfig.validate_callers {input : Value} {config : OpenConfig}
    (valid : OpenConfig.validate input = .ok config) :
    1 ≤ config.preAllocated ∧ config.preAllocated ≤ config.maxCallers := by
  obtain ⟨fields, -, -, preRead, enough⟩ := OpenConfig.validate_reads valid
  exact ⟨withDefault_atLeast (by decide) preRead, enough⟩

/-- A validated open-loop configuration runs at a rate above zero, given or by default. -/
theorem OpenConfig.validate_rate {input : Value} {config : OpenConfig}
    (valid : OpenConfig.validate input = .ok config) : (0.0 : Float) < config.rate := by
  obtain ⟨fields, rateRead, -⟩ := OpenConfig.validate_reads valid
  exact withDefault_of (by decide +kernel) (fun _ _ => floatAbove_ok) rateRead

/-- A validated open-loop configuration runs for a duration above zero, given or by default. -/
theorem OpenConfig.validate_duration {input : Value} {config : OpenConfig}
    (valid : OpenConfig.validate input = .ok config) : (0.0 : Float) < config.duration := by
  obtain ⟨fields, -, durationRead, -⟩ := OpenConfig.validate_reads valid
  exact withDefault_of (by decide +kernel) (fun _ _ => floatAbove_ok) durationRead

/-- At rate 1 for 3.0000000001 s, arrivals 0 to 3 are all due before the deadline, yet the
configuration counts 3 arrivals: the product lies less than the slack above a whole number, and
subtracting the slack before rounding up takes the last arrival away.  An infinite rate validates
too, and its arrivals cannot be counted at all. -/
theorem expected_arrivals_miss_due_arrival :
    OpenConfig.validate (.obj [("rate", .float 1.0), ("duration", .float 3.0000000001)]) =
        .ok { rate := 1.0, duration := 3.0000000001 } ∧
      (∀ k : Nat, k ≤ 3 → Binary.ofInt k / 1.0 < 3.0000000001) ∧
      ({ rate := 1.0, duration := 3.0000000001 } : OpenConfig).expectedArrivals.toOption = some 3 ∧
      OpenConfig.validate (.obj [("rate", .float (1.0 / 0.0))]) = .ok { rate := 1.0 / 0.0 } ∧
      ∃ failure, ({ rate := 1.0 / 0.0 } : OpenConfig).expectedArrivals = .error failure ∧
        failure.className = "OverflowError" := by
  refine ⟨rfl, by decide +kernel, by decide +kernel, rfl, .infiniteToInteger, ?_, rfl⟩
  rfl

end LoadHarness
