import Mathlib
import LoadHarness.Proofs.Float.Difference
import LoadHarness.Proofs.Order.Draws
import LoadHarness.Proofs.OpenLoop.Pacing
import LoadHarness.Proofs.Settings

/-!
# The wait for the deadline

Once every arrival has been served, the driver holds until the deadline `start + duration`: it
computes the time left, sleeps that long while it is above zero, and looks again
(`PacedRun.hold`).  The time left is recomputed from the clock at every look and compared as a
double, so the wait could in principle go on and on with a remainder that never reaches zero.

It does not.  On any clock on which a sleep of `d > 0` begun at reading `t` ends at a reading of
at least `t + d`, rounded, the driver sleeps at most twice, whatever the reading it starts from
(`hold_sleeps_at_most_twice`):

* from a reading of at least half the deadline, the time left is exact (Sterbenz), so one sleep
  brings the clock to the deadline (`nothing_left_of_half`);
* from a smaller reading, the time left is at least half the deadline, and so is the clock after
  one sleep (`half_reached_of_below_half`).
-/

namespace LoadHarness

/-! ### Sleeping until a positive deadline -/

section Sleeps

variable {deadline t : Float} {m mt : Nat} {q et : Int} {wake : Float → Float → Float}

/-- From a reading of at least half a positive deadline, one sleep of the time left leaves
nothing: the time left is exact, and the clock then reads at least the deadline. -/
theorem nothing_left_of_half (shape : FloatShape.of deadline = .finite ⟨false, m, q⟩) (positive : 0 < m)
    (resumes : ∀ t d : Float, (0.0 : Float) ≤ t → (0.0 : Float) < d → t + d ≤ wake t d)
    (shapeT : FloatShape.of t = .finite ⟨false, mt, et⟩) (positiveT : 0 < mt)
    (half : (m : ℚ) * 2 ^ q ≤ 2 * (mt * 2 ^ et)) (left : (0.0 : Float) < deadline - t) :
    ¬ (0.0 : Float) < deadline - wake t (deadline - t) := by
  have before : (mt : ℚ) * 2 ^ et < m * 2 ^ q := by
    by_contra reached
    exact not_pos_sub_of_value_le shape shapeT positive positiveT (not_lt.1 reached) left
  have reaches := resumes t _ (zero_le_of_shape shapeT positiveT) left
  rw [add_sub_of_half_le shape shapeT positive positiveT before half] at reaches
  exact not_pos_sub_of_le shape positive reaches

/-- From a zero reading, the time left is the whole deadline, and one sleep leaves nothing. -/
theorem nothing_left_of_zero {sign : Float.Model.UnpackedFloat.Sign}
    (shape : FloatShape.of deadline = .finite ⟨false, m, q⟩) (positive : 0 < m)
    (resumes : ∀ t d : Float, (0.0 : Float) ≤ t → (0.0 : Float) < d → t + d ≤ wake t d)
    (zero : t.toModel.unpack = .zero sign) : ¬ (0.0 : Float) < deadline - wake t (deadline - t) := by
  rw [sub_of_zero shape positive zero]
  have nonneg : (0.0 : Float) ≤ t := by
    rw [zero_le_iff_nonneg, zero]
    trivial
  have reaches := resumes t deadline nonneg (zero_lt_of_shape shape positive)
  rw [add_of_zero shape positive zero] at reaches
  exact not_pos_sub_of_le shape positive reaches

/-- From a positive reading below half the deadline, one sleep of the time left brings the clock
to positive infinity or to a positive double of at least half the deadline: the time left is at
least half the deadline, and the clock reads at least the reading plus the time left. -/
theorem half_reached_of_below_half (shape : FloatShape.of deadline = .finite ⟨false, m, q⟩) (positive : 0 < m)
    (resumes : ∀ t d : Float, (0.0 : Float) ≤ t → (0.0 : Float) < d → t + d ≤ wake t d)
    (shapeT : FloatShape.of t = .finite ⟨false, mt, et⟩) (positiveT : 0 < mt)
    (below : 2 * ((mt : ℚ) * 2 ^ et) ≤ m * 2 ^ q) :
    (wake t (deadline - t)).toModel.unpack = .infinity .positive ∨
      ∃ m' q', 0 < m' ∧ FloatShape.of (wake t (deadline - t)) = .finite ⟨false, m', q'⟩ ∧
        (m : ℚ) * 2 ^ q ≤ 2 * (m' * 2 ^ q') := by
  obtain ⟨ml, ql, positiveLeft, shapeLeft, halfLeft⟩ := half_le_sub shape shapeT positive positiveT below
  have reaches := resumes t _ (zero_le_of_shape shapeT positiveT) (zero_lt_of_shape shapeLeft positiveLeft)
  rcases add_cases shapeT shapeLeft positiveT positiveLeft with infinite | ⟨ms, qs, positiveSum, shapeSum, sumReach⟩
  · exact .inl (eq_infinity_of_le infinite reaches)
  · rcases ge_cases shapeSum positiveSum reaches with infinite | ⟨m', q', positive', shape', reach'⟩
    · exact .inl infinite
    · exact .inr ⟨m', q', positive', shape', by linarith⟩

/-- Sleeping the time left to a positive deadline while it is above zero, on a clock on which a
sleep of `d > 0` begun at reading `t` ends at a reading of at least `t + d`, takes at most two
sleeps from any reading not below zero. -/
theorem deadline_sleeps_at_most_twice (shape : FloatShape.of deadline = .finite ⟨false, m, q⟩)
    (positive : 0 < m) (resumes : ∀ t d : Float, (0.0 : Float) ≤ t → (0.0 : Float) < d → t + d ≤ wake t d)
    (nonneg : (0.0 : Float) ≤ t) :
    ¬ ((0.0 : Float) < deadline - t ∧ (0.0 : Float) < deadline - wake t (deadline - t) ∧
      (0.0 : Float) < deadline - wake (wake t (deadline - t)) (deadline - wake t (deadline - t))) := by
  rintro ⟨left, leftAfterOne, leftAfterTwo⟩
  rcases nonneg_cases nonneg with ⟨sign, zero⟩ | ⟨mt, et, positiveT, shapeT⟩ | infinite
  · exact nothing_left_of_zero shape positive resumes zero leftAfterOne
  · by_cases half : (m : ℚ) * 2 ^ q ≤ 2 * (mt * 2 ^ et)
    · exact nothing_left_of_half shape positive resumes shapeT positiveT half left leftAfterOne
    · -- below half the deadline: after one sleep the clock reads at least half of it
      rcases half_reached_of_below_half shape positive resumes shapeT positiveT (by linarith) with
        infinite | ⟨m', q', positive', shape', half'⟩
      · exact not_pos_sub_of_infinity shape positive infinite leftAfterOne
      · exact nothing_left_of_half shape positive resumes shape' positive' half' leftAfterOne leftAfterTwo
  · exact not_pos_sub_of_infinity shape positive infinite left

end Sleeps

/-! ### The driver's hold -/

namespace PacedRun

variable {run : PacedRun} {wake : Float → Float → Float}

/-- When the driver stops holding: `start + duration`. -/
def deadline (run : PacedRun) : Float := run.start + run.duration

/-- What the driver still has to hold for, as `hold` computes it: the deadline less the clock's
reading. -/
def timeLeft (run : PacedRun) : Float := run.deadline - run.now

/-- The run once its driver, holding, has slept the time left, on a clock on which a sleep of `d`
begun at reading `t` ends at reading `wake t d`: its timer then fires and the driver looks
again. -/
def holdOn (wake : Float → Float → Float) (run : PacedRun) : PacedRun :=
  { run.hold with now := wake run.now run.timeLeft }

/-- The driver holds rather than drain only when time is left, and then sleeps the time left. -/
theorem hold_holding (holding : run.hold.driver = .holding) :
    (0.0 : Float) < run.timeLeft ∧ run.hold = run.sleepDriver run.timeLeft .holding := by
  unfold hold at holding ⊢
  dsimp only at holding ⊢
  split_ifs at holding ⊢ with left
  · exact ⟨left, rfl⟩
  · have drains := (beginDrain_drains run).2
    rw [holding] at drains
    exact absurd drains (by decide)

theorem deadline_holdOn (holding : run.hold.driver = .holding) : (run.holdOn wake).deadline = run.deadline := by
  rw [holdOn, (hold_holding holding).2]
  rfl

theorem timeLeft_holdOn (holding : run.hold.driver = .holding) :
    (run.holdOn wake).timeLeft = run.deadline - wake run.now run.timeLeft := by
  rw [timeLeft, deadline_holdOn holding]
  rfl

end PacedRun

/-- Take a paced run whose duration a validated configuration gives, started at a reading not below
zero with a finite deadline, and a clock on which a sleep of `d > 0` begun at a reading `t` not
below zero ends at a reading of at least `t + d`, rounded.  From any reading not below zero, its
driver does not hold three times in a row: the wait for the deadline ends after at most two
sleeps. -/
theorem hold_sleeps_at_most_twice {input : Value} {config : OpenConfig}
    (valid : OpenConfig.validate input = .ok config) (run : PacedRun) (configured : run.duration = config.duration)
    (started : (0.0 : Float) ≤ run.start) (finite : Binary.isFinite (run.start + run.duration) = true)
    (later : (0.0 : Float) ≤ run.now) (wake : Float → Float → Float)
    (resumes : ∀ t d : Float, (0.0 : Float) ≤ t → (0.0 : Float) < d → t + d ≤ wake t d) :
    ¬ (run.hold.driver = .holding ∧ (run.holdOn wake).hold.driver = .holding ∧
      ((run.holdOn wake).holdOn wake).hold.driver = .holding) := by
  rintro ⟨first, second, third⟩
  have lasting : (0.0 : Float) < run.duration := configured ▸ OpenConfig.validate_duration valid
  obtain ⟨m, q, positive, shape⟩ := add_pos_of_isFinite started lasting finite
  -- each hold that sleeps found time left, and kept the deadline
  have left := (PacedRun.hold_holding first).1
  have leftAfterOne := (PacedRun.hold_holding second).1
  have leftAfterTwo := (PacedRun.hold_holding third).1
  rw [PacedRun.timeLeft_holdOn first] at leftAfterOne
  rw [PacedRun.timeLeft_holdOn second, PacedRun.deadline_holdOn first,
    PacedRun.timeLeft_holdOn first] at leftAfterTwo
  exact deadline_sleeps_at_most_twice shape positive resumes later ⟨left, leftAfterOne, leftAfterTwo⟩

/-- The clock of the paced run itself, which wakes a sleeper at exactly the rounded sum of the
reading and the delay, meets the hypothesis: with the default configuration, started at zero, the
driver holds at most twice. -/
theorem hold_sleeps_at_most_twice_on_own_clock :
    OpenConfig.validate (.obj []) = .ok {} ∧
      Binary.isFinite ((PacedRun.initial {} 0 (Generator.ofSeed 0) []).start +
        (PacedRun.initial {} 0 (Generator.ofSeed 0) []).duration) = true ∧
      (∀ t d : Float, (0.0 : Float) ≤ t → (0.0 : Float) < d → t + d ≤ t + d) ∧
      ¬ ((PacedRun.initial {} 0 (Generator.ofSeed 0) []).hold.driver = .holding ∧
        ((PacedRun.initial {} 0 (Generator.ofSeed 0) []).holdOn (· + ·)).hold.driver = .holding ∧
        (((PacedRun.initial {} 0 (Generator.ofSeed 0) []).holdOn (· + ·)).holdOn (· + ·)).hold.driver =
          .holding) := by
  have valid : OpenConfig.validate (.obj []) = .ok {} := rfl
  have finite : Binary.isFinite ((PacedRun.initial {} 0 (Generator.ofSeed 0) []).start +
      (PacedRun.initial {} 0 (Generator.ofSeed 0) []).duration) = true := by decide +kernel
  have resumes : ∀ t d : Float, (0.0 : Float) ≤ t → (0.0 : Float) < d → t + d ≤ t + d :=
    fun t d nonneg positive => le_refl_of_nonneg (zero_le_add nonneg (zero_le_of_pos positive))
  exact ⟨valid, finite, resumes, hold_sleeps_at_most_twice valid _ rfl (by decide +kernel) finite
    (by decide +kernel) (· + ·) resumes⟩

end LoadHarness
