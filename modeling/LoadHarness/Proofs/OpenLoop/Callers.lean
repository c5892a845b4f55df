import Mathlib.Data.List.Nodup
import LoadHarness.Proofs.OpenLoop.Moves
import LoadHarness.Proofs.KeyParts
import LoadHarness.Proofs.Settings

/-!
# The callers of an open loop

An open loop holds its callers in two places: the idle queue, and the
outstanding submissions, each of which holds the caller that serves it.
`CallersSound` is what every state of a session satisfies, whatever order
arrivals, completions, exceptions and cancellations come in:

* the callers in hand are pairwise distinct, numbered within `1 … allocated`;
* every caller is idle, in flight, or lost: a submission that ends without
  returning its caller (cancelled, or whose order could not be made) loses it
  for good, so idle plus in flight plus lost is the number allocated;
* the pool never shrinks below its start nor grows past its ceiling, and
  while no caller has been lost it holds exactly as many callers as were ever
  needed at once (or its starting callers, if more).

`CallersSound.replay` proves it for every sequence of events, counting the
callers lost along the way; `caller_pool_invariant` adds what one more event
can do: the pool grows only on an arrival that finds no caller idle, and an
arrival is dropped exactly when no caller is idle and the ceiling is reached.
-/

namespace LoadHarness

namespace OpenSession

/-- The callers in hand: the idle ones, front first, then those serving the
outstanding submissions, in issue order. -/
def holders (session : OpenSession) : List Caller :=
  session.pool.idleCallers ++ session.pending.map Prod.snd

/-- What `observe` reports of each event of a sequence, in order. -/
def collect {α : Type} (observe : OpenSession → SessionEvent → List α) :
    OpenSession → List SessionEvent → List α
  | _, [] => []
  | session, event :: rest => observe session event ++ collect observe (session.apply event) rest

/-- The keys of the outstanding submissions an event cancels. -/
def cancelledBy (session : OpenSession) : SessionEvent → List String
  | .cancel key => if key ∈ session.pending.map Prod.fst then [key] else []
  | .drain => session.pending.map Prod.fst
  | _ => []

/-- The key of an arrival whose order could not be made. -/
def brokenBy (session : OpenSession) : SessionEvent → List String
  | .arrive index =>
      match (session.arrive index).1 with
      | .broken key _ => [key]
      | _ => []
  | _ => []

@[simp] theorem replay_nil (session : OpenSession) : session.replay [] = session := rfl

@[simp] theorem replay_cons (session : OpenSession) (event : SessionEvent)
    (rest : List SessionEvent) :
    session.replay (event :: rest) = (session.apply event).replay rest := rfl

@[simp] theorem collect_nil {α : Type} (observe : OpenSession → SessionEvent → List α)
    (session : OpenSession) : collect observe session [] = [] := rfl

@[simp] theorem collect_cons {α : Type} (observe : OpenSession → SessionEvent → List α)
    (session : OpenSession) (event : SessionEvent) (rest : List SessionEvent) :
    collect observe session (event :: rest) =
      observe session event ++ collect observe (session.apply event) rest := rfl

theorem collect_append {α : Type} (observe : OpenSession → SessionEvent → List α)
    (session : OpenSession) (first later : List SessionEvent) :
    collect observe session (first ++ later) =
      collect observe session first ++ collect observe (session.replay first) later := by
  induction first generalizing session with
  | nil => rfl
  | cons event rest induction => simp [induction]

/-- The invariant of the callers of a session that started with `pre`
callers and has lost `lost` of them. -/
structure CallersSound (pre lost : Nat) (session : OpenSession) : Prop where
  distinct : (session.holders.map Caller.number).Nodup
  numbered : ∀ number ∈ session.holders.map Caller.number, 1 ≤ number ∧ number ≤ session.pool.allocated
  keyed : ∀ entry ∈ session.pending,
    0 < entry.2.iteration ∧ entry.1 = { entry.2 with iteration := entry.2.iteration - 1 }.key
  conserved : session.pool.idleCallers.length + session.pool.inFlight + lost = session.pool.allocated
  outstanding : session.pool.inFlight = session.pending.length
  atLeastPre : pre ≤ session.pool.allocated
  atMostCeiling : session.pool.allocated ≤ session.pool.ceiling
  inFlight_le : session.pool.inFlight ≤ session.pool.maxInFlight
  maxInFlight_le : session.pool.maxInFlight ≤ session.pool.allocated
  grownOnDemand : lost = 0 → session.pool.allocated ≤ max pre session.pool.maxInFlight

variable {pre lost : Nat} {session : OpenSession}

/-- Outstanding submissions never share a key: their callers differ, and a
key names its caller. -/
theorem CallersSound.keys_distinct (sound : CallersSound pre lost session) :
    (session.pending.map Prod.fst).Nodup := by
  have numbers : (session.pending.map fun entry => entry.2.number).Nodup := by
    have all := sound.distinct
    simp only [holders, List.map_append, List.map_map, List.nodup_append] at all
    exact all.2.1
  apply List.Nodup.map_on _ (List.Nodup.of_map _ numbers)
  intro first firstMember second secondMember sameKey
  have firstKey := (sound.keyed first firstMember).2
  have secondKey := (sound.keyed second secondMember).2
  rw [sameKey, secondKey] at firstKey
  have sameNumber := (idempotencyKey_natCast_inj firstKey).1
  exact List.inj_on_of_nodup_map numbers firstMember secondMember sameNumber.symm

/-- A session starts with callers `1 … pre` idle and nothing lost. -/
theorem callers_sound_start {config : OpenConfig} (generator : Generator)
    (withinCeiling : config.preAllocated ≤ config.maxCallers) :
    CallersSound config.preAllocated.toNat 0 (OpenSession.start config generator) := by
  have ceiling : config.preAllocated.toNat ≤ config.maxCallers.toNat := Int.toNat_le_toNat withinCeiling
  constructor
  · simp only [holders, start, Pool.idleCallers_start, List.map_nil, List.append_nil, List.map_map]
    exact List.nodup_range.map fun _ _ same => by simpa using same
  · intro number member
    simp only [holders, start, Pool.idleCallers_start, List.map_nil, List.append_nil, List.map_map,
      List.mem_map, List.mem_range] at member
    obtain ⟨n, below, rfl⟩ := member
    simp only [start, Pool.start, Function.comp_apply]
    omega
  · simp [start]
  · simp only [start, Pool.idleCallers_start, List.length_map, List.length_range]
    simp [Pool.start]
  · simp [start, Pool.start]
  · simp [start, Pool.start]
  · simpa [start, Pool.start] using ceiling
  · simp [start, Pool.start]
  · simp [start, Pool.start]
  · simp [start, Pool.start]

/-- A dropped arrival changes no caller. -/
theorem CallersSound.drop (sound : CallersSound pre lost session) {pool' : Pool}
    (dropped : session.pool.arrive = (none, pool')) :
    CallersSound pre lost { session with pool := pool' } := by
  obtain ⟨-, -, rfl⟩ := Pool.arrive_dropped dropped
  exact ⟨sound.1, sound.2, sound.3, sound.4, sound.5, sound.6, sound.7, sound.8, sound.9, sound.10⟩

/-- The numbers of the callers in hand after an arrival took `taken`, with
the submission's caller (`taken` one iteration on) joining the outstanding
ones, are those before, the new caller's number added if it was new. -/
private theorem served_numbers {pool pool' : Pool} {taken : Caller}
    {pending : List (String × Caller)} {key : String}
    (front : pool.idleCallers = taken :: pool'.idleCallers) :
    ((pool'.idleCallers ++ (pending ++ [(key, { taken with iteration := taken.iteration + 1 })]).map
        Prod.snd).map Caller.number).Perm
      ((pool.idleCallers ++ pending.map Prod.snd).map Caller.number) := by
  rw [front]
  simp only [List.map_append, List.map_cons, List.map_nil, List.cons_append, ← List.append_assoc]
  exact List.perm_append_singleton _ _

/-- An arrival that got a caller and made its order: the caller, one
iteration on, joins the outstanding submissions under its key. -/
theorem CallersSound.issue (sound : CallersSound pre lost session) {caller : Caller}
    {key : String} {pool' : Pool} (served : session.pool.arrive = (some (caller, key), pool'))
    (generator : Generator) :
    CallersSound pre lost
      { session with pool := pool', generator, pending := session.pending ++ [(key, caller)] } := by
  obtain ⟨taken, rfl, rfl, frame, cases⟩ := Pool.arrive_served served
  have inFlight' : pool'.inFlight = session.pool.inFlight + 1 := by rw [frame]
  have maxInFlight' : pool'.maxInFlight = max session.pool.maxInFlight (session.pool.inFlight + 1) := by
    rw [frame]
  have ceiling' : pool'.ceiling = session.pool.ceiling := by rw [frame]
  have newKeyed : 0 < taken.iteration + 1 ∧
      taken.key = { ({ taken with iteration := taken.iteration + 1 } : Caller) with
        iteration := taken.iteration + 1 - 1 }.key := by
    simp
  have keyed : ∀ entry ∈ session.pending ++ [(taken.key, { taken with iteration := taken.iteration + 1 })],
      0 < entry.2.iteration ∧ entry.1 = { entry.2 with iteration := entry.2.iteration - 1 }.key := by
    intro entry member
    rcases List.mem_append.mp member with old | new
    · exact sound.keyed entry old
    · rw [List.mem_singleton.mp new]
      exact newKeyed
  have conserved := sound.conserved
  have outstanding := sound.outstanding
  have inFlightLe := sound.inFlight_le
  have maxLe := sound.maxInFlight_le
  have atLeastPre := sound.atLeastPre
  rcases cases with ⟨front, allocated'⟩ | ⟨empty, below, takenEq, empty', allocated'⟩
  · -- the caller at the front of the queue serves it
    have numbers : ((pool'.idleCallers ++
        (session.pending ++ [(taken.key, { taken with iteration := taken.iteration + 1 })]).map
          Prod.snd).map Caller.number).Perm (session.holders.map Caller.number) :=
      served_numbers front
    have idleLength : session.pool.idleCallers.length = pool'.idleCallers.length + 1 := by
      simp [front]
    refine ⟨numbers.nodup_iff.mpr sound.distinct, ?_, keyed, ?_, ?_, ?_, ?_, ?_, ?_, ?_⟩
    · intro number member
      simpa [allocated'] using sound.numbered number (numbers.mem_iff.mp member)
    all_goals simp only [inFlight', maxInFlight', ceiling', allocated', List.length_append,
      List.length_singleton]
    · omega
    · omega
    · exact sound.atLeastPre
    · exact sound.atMostCeiling
    · omega
    · omega
    · intro none
      have grown := sound.grownOnDemand none
      omega
  · -- a new caller, numbered after every other, serves it
    have fresh : ∀ number ∈ session.holders.map Caller.number, number < session.pool.allocated + 1 :=
      fun number member => Nat.lt_succ_of_le (sound.numbered number member).2
    have holdersEq : (pool'.idleCallers ++
        (session.pending ++ [(taken.key, { taken with iteration := taken.iteration + 1 })]).map
          Prod.snd).map Caller.number =
        session.holders.map Caller.number ++ [session.pool.allocated + 1] := by
      simp [holders, empty, empty', takenEq]
    refine ⟨?_, ?_, keyed, ?_, ?_, ?_, ?_, ?_, ?_, ?_⟩
    · simp only [holders]
      rw [holdersEq, List.nodup_append]
      refine ⟨sound.distinct, List.nodup_singleton _, ?_⟩
      intro number member other otherMember same
      rw [List.mem_singleton.mp otherMember] at same
      exact absurd (fresh number member) (by omega)
    · intro number member
      simp only [holders] at member
      rw [holdersEq, List.mem_append, List.mem_singleton] at member
      rcases member with old | rfl
      · have bounds := sound.numbered number old
        simp only [allocated']
        omega
      · simp only [allocated']
        omega
    all_goals simp only [inFlight', maxInFlight', ceiling', allocated', empty', empty,
      List.length_append, List.length_singleton, List.length_nil] at conserved ⊢
    · omega
    · omega
    · omega
    · omega
    · omega
    · omega
    · intro none
      omega

/-- An arrival that got a caller but could not make its order: the submission
ends at once, and its caller is lost. -/
theorem CallersSound.breakOff (sound : CallersSound pre lost session) {caller : Caller}
    {key : String} {pool' : Pool} (served : session.pool.arrive = (some (caller, key), pool'))
    (generator : Generator) :
    CallersSound pre (lost + 1) { session with pool := pool'.release, generator } := by
  obtain ⟨taken, rfl, rfl, frame, cases⟩ := Pool.arrive_served served
  have served' : pool'.inFlight = session.pool.inFlight + 1 := by rw [frame]
  have inFlight' : pool'.release.inFlight = session.pool.inFlight := by
    simp only [Pool.release, served']
    omega
  have maxInFlight' :
      pool'.release.maxInFlight = max session.pool.maxInFlight (session.pool.inFlight + 1) := by
    simp only [Pool.release]
    rw [frame]
  have ceiling' : pool'.release.ceiling = session.pool.ceiling := by
    simp only [Pool.release]
    rw [frame]
  have allocatedEq : pool'.release.allocated = pool'.allocated := rfl
  have conserved := sound.conserved
  have outstanding := sound.outstanding
  have maxLe := sound.maxInFlight_le
  have atLeastPre := sound.atLeastPre
  have atMostCeiling := sound.atMostCeiling
  rcases cases with ⟨front, allocated'⟩ | ⟨empty, below, -, empty', allocated'⟩
  · -- the caller taken from the front of the queue is lost
    have tail : (session.holders.map Caller.number) =
        taken.number :: ((pool'.idleCallers ++ session.pending.map Prod.snd).map Caller.number) := by
      simp [holders, front]
    have idleLength : session.pool.idleCallers.length = pool'.idleCallers.length + 1 := by
      simp [front]
    have distinct := sound.distinct
    rw [tail] at distinct
    refine ⟨(List.nodup_cons.mp distinct).2, ?_, sound.keyed, ?_, ?_, ?_, ?_, ?_, ?_, ?_⟩
    · intro number member
      have old := sound.numbered number (by rw [tail]; exact List.mem_cons_of_mem _ member)
      simpa [allocatedEq, allocated'] using old
    all_goals simp only [inFlight', maxInFlight', ceiling', allocatedEq, allocated',
      Pool.release_idleCallers]
    · omega
    · exact outstanding
    · omega
    · omega
    · omega
    · omega
    · omega
  · -- the new caller is lost before it ever served
    have sameHolders : (pool'.release.idleCallers ++ session.pending.map Prod.snd).map Caller.number =
        session.holders.map Caller.number := by
      simp [holders, empty, empty']
    refine ⟨?_, ?_, sound.keyed, ?_, ?_, ?_, ?_, ?_, ?_, ?_⟩
    · simp only [holders]
      rw [sameHolders]
      exact sound.distinct
    · intro number member
      simp only [holders] at member
      rw [sameHolders] at member
      have old := sound.numbered number member
      simp only [allocatedEq, allocated']
      omega
    all_goals simp only [inFlight', maxInFlight', ceiling', allocatedEq, allocated',
      Pool.release_idleCallers, empty', empty, List.length_nil] at conserved ⊢
    · omega
    · exact outstanding
    · omega
    · omega
    · omega
    · omega
    · omega

/-- The numbers of the callers in hand after the submission of `caller`,
between `front` and `back`, ends: back in the queue, or gone. -/
private theorem resolved_numbers (front back : List (String × Caller)) (waiting : List Caller)
    (key : String) (caller : Caller) :
    ((waiting ++ [caller] ++ (front ++ back).map Prod.snd).map Caller.number).Perm
      ((waiting ++ (front ++ (key, caller) :: back).map Prod.snd).map Caller.number) := by
  simp only [List.map_append, List.map_cons, List.append_assoc, List.singleton_append]
  exact List.Perm.append_left _ List.perm_middle.symm

/-- A submission that finished returns its caller to the back of the queue;
a key that is not outstanding changes nothing. -/
theorem CallersSound.resolve (sound : CallersSound pre lost session) (key : String)
    (sample : Sample) :
    CallersSound pre lost (session.resolve key sample) := by
  by_cases present : key ∈ session.pending.map Prod.fst
  · obtain ⟨⟨key, caller⟩, member, rfl⟩ := List.mem_map.mp present
    rw [resolve_of_mem sound.keys_distinct member]
    obtain ⟨front, back, split, filtered⟩ := filter_key_of_mem sound.keys_distinct member
    have numbers := resolved_numbers front back session.pool.idleCallers key caller
    have distinct := sound.distinct
    have conserved := sound.conserved
    have outstanding := sound.outstanding
    have inFlightLe := sound.inFlight_le
    simp only [holders, split] at distinct
    refine ⟨?_, ?_, ?_, ?_, ?_, sound.atLeastPre, sound.atMostCeiling, ?_,
      sound.maxInFlight_le, sound.grownOnDemand⟩
    · simp only [holders, filtered, Pool.finish_idleCallers]
      exact numbers.nodup_iff.mpr distinct
    · intro number member
      simp only [holders, filtered, Pool.finish_idleCallers] at member
      have old := sound.numbered number (by simpa [holders, split] using numbers.mem_iff.mp member)
      simpa [Pool.finish] using old
    · intro entry member
      rw [filtered] at member
      exact sound.keyed entry (by rw [split]; simp at member ⊢; tauto)
    all_goals simp only [Pool.finish_idleCallers, List.length_append, List.length_singleton, filtered]
    all_goals simp only [Pool.finish]
    all_goals simp only [split, List.length_append, List.length_cons] at outstanding
    all_goals omega
  · rw [resolve_of_not_mem present]
    exact sound

/-- A cancelled submission releases its slot and loses its caller; a key
that is not outstanding changes nothing. -/
theorem CallersSound.cancel (sound : CallersSound pre lost session) (key : String) :
    CallersSound pre (lost + (session.cancelledBy (.cancel key)).length) (session.cancel key) := by
  by_cases present : key ∈ session.pending.map Prod.fst
  · simp only [cancelledBy, present, if_true, List.length_singleton]
    obtain ⟨⟨key, caller⟩, member, rfl⟩ := List.mem_map.mp present
    rw [cancel_of_mem sound.keys_distinct member]
    obtain ⟨front, back, split, filtered⟩ := filter_key_of_mem sound.keys_distinct member
    have smaller : ((session.pool.idleCallers ++ (front ++ back).map Prod.snd).map Caller.number).Sublist
        (session.holders.map Caller.number) := by
      simp only [holders, split, List.map_append, List.map_cons]
      exact (List.Sublist.append_left (List.Sublist.append_left
        (List.sublist_cons_self _ _) _) _)
    have conserved := sound.conserved
    have outstanding := sound.outstanding
    have inFlightLe := sound.inFlight_le
    simp only [split, List.length_append, List.length_cons] at outstanding
    refine ⟨?_, ?_, ?_, ?_, ?_, sound.atLeastPre, sound.atMostCeiling, ?_,
      sound.maxInFlight_le, ?_⟩
    · simp only [holders, filtered, Pool.release_idleCallers]
      exact sound.distinct.sublist smaller
    · intro number member
      simp only [holders, filtered, Pool.release_idleCallers] at member
      exact sound.numbered number (smaller.subset member)
    · intro entry member
      rw [filtered] at member
      exact sound.keyed entry (by rw [split]; simp at member ⊢; tauto)
    all_goals simp only [Pool.release_idleCallers, filtered, List.length_append]
    all_goals simp only [Pool.release]
    · omega
    · omega
    · omega
    · omega
  · simp only [cancelledBy, present, if_false, List.length_nil, Nat.add_zero]
    rw [cancel_of_not_mem present]
    exact sound

/-- Draining cancels every outstanding submission: their callers are lost. -/
theorem CallersSound.drain (sound : CallersSound pre lost session) :
    CallersSound pre (lost + (session.cancelledBy .drain).length) session.drain.2 := by
  rw [drain_eq]
  have smaller : (session.pool.idleCallers.map Caller.number).Sublist
      (session.holders.map Caller.number) := by
    simp only [holders, List.map_append]
    exact List.sublist_append_left _ _
  have conserved := sound.conserved
  have outstanding := sound.outstanding
  have inFlightLe := sound.inFlight_le
  have maxLe := sound.maxInFlight_le
  have grown := sound.grownOnDemand
  refine ⟨?_, ?_, by simp, ?_, ?_, sound.atLeastPre, sound.atMostCeiling, ?_, ?_, ?_⟩
  · simpa [holders, Pool.idleCallers] using sound.distinct.sublist smaller
  · intro number member
    simpa [holders, Pool.idleCallers] using sound.numbered number (smaller.subset (by
      simpa [holders, Pool.idleCallers] using member))
  all_goals simp only [cancelledBy, List.length_map, Pool.idleCallers] at conserved grown ⊢
  · omega
  · simp [outstanding]
  · omega
  · omega
  · intro none
    exact grown (by omega)

/-- One event keeps the invariant, counting the callers it loses. -/
theorem CallersSound.apply (sound : CallersSound pre lost session) (event : SessionEvent) :
    CallersSound pre (lost + (session.cancelledBy event).length + (session.brokenBy event).length)
      (session.apply event) := by
  cases event with
  | arrive index =>
      rcases arrive_cases session index with ⟨pool', dropped, outcome⟩ |
        ⟨caller, key, pool', generator, served, ⟨order, outcome⟩ | ⟨failure, outcome⟩⟩
      · simpa [cancelledBy, brokenBy, OpenSession.apply, outcome] using sound.drop dropped
      · simpa [cancelledBy, brokenBy, OpenSession.apply, outcome] using sound.issue served generator
      · simpa [cancelledBy, brokenBy, OpenSession.apply, outcome] using sound.breakOff served generator
  | complete key sample =>
      simpa [cancelledBy, brokenBy, OpenSession.apply] using sound.resolve key sample
  | raise key kind message =>
      simpa [cancelledBy, brokenBy, OpenSession.apply, fail] using sound.resolve key _
  | cancel key => simpa [brokenBy, OpenSession.apply] using sound.cancel key
  | drain => simpa [brokenBy, OpenSession.apply] using sound.drain

/-- Every sequence of events keeps the invariant, counting the callers lost
along the way. -/
theorem CallersSound.replay (sound : CallersSound pre lost session) (events : List SessionEvent) :
    CallersSound pre (lost + (collect cancelledBy session events).length +
      (collect brokenBy session events).length) (session.replay events) := by
  induction events generalizing session lost with
  | nil => simpa using sound
  | cons event rest induction =>
      have next := induction (sound.apply event)
      have regrouped : lost + ((session.cancelledBy event).length +
            (collect cancelledBy (session.apply event) rest).length) +
          ((session.brokenBy event).length + (collect brokenBy (session.apply event) rest).length) =
          lost + (session.cancelledBy event).length + (session.brokenBy event).length +
            (collect cancelledBy (session.apply event) rest).length +
            (collect brokenBy (session.apply event) rest).length := by
        omega
      simp only [replay_cons, collect_cons, List.length_append]
      rw [regrouped]
      exact next

/-- The ceiling of a pool never moves. -/
theorem apply_ceiling (session : OpenSession) (event : SessionEvent) :
    (session.apply event).pool.ceiling = session.pool.ceiling := by
  cases event with
  | arrive index =>
      rcases arrive_cases session index with ⟨pool', dropped, outcome⟩ |
        ⟨caller, key, pool', generator, served, ⟨order, outcome⟩ | ⟨failure, outcome⟩⟩
      · obtain ⟨-, -, rfl⟩ := Pool.arrive_dropped dropped
        simp [OpenSession.apply, outcome]
      · obtain ⟨taken, -, -, frame, -⟩ := Pool.arrive_served served
        simp only [OpenSession.apply, outcome]
        rw [frame]
      · obtain ⟨taken, -, -, frame, -⟩ := Pool.arrive_served served
        simp only [OpenSession.apply, outcome, Pool.release]
        rw [frame]
  | complete key sample =>
      simp only [OpenSession.apply, OpenSession.resolve]
      split <;> simp [Pool.finish]
  | raise key kind message =>
      simp only [OpenSession.apply, fail, OpenSession.resolve]
      split <;> simp [Pool.finish]
  | cancel key =>
      simp only [OpenSession.apply, OpenSession.cancel]
      split <;> simp [Pool.release]
  | drain => simp [OpenSession.apply, drain_eq]

theorem replay_ceiling (session : OpenSession) (events : List SessionEvent) :
    (session.replay events).pool.ceiling = session.pool.ceiling := by
  induction events generalizing session with
  | nil => rfl
  | cons event rest induction => rw [replay_cons, induction, apply_ceiling]

/-- The pool grows only on an arrival that finds no caller idle, and then by
one caller. -/
theorem apply_allocated (session : OpenSession) (event : SessionEvent) :
    (session.apply event).pool.allocated = session.pool.allocated ∨
      ∃ index, event = .arrive index ∧ session.pool.idleCallers = [] ∧
        (session.apply event).pool.allocated = session.pool.allocated + 1 := by
  cases event with
  | arrive index =>
      rcases arrive_cases session index with ⟨pool', dropped, outcome⟩ |
        ⟨caller, key, pool', generator, served, ⟨order, outcome⟩ | ⟨failure, outcome⟩⟩
      · obtain ⟨-, -, rfl⟩ := Pool.arrive_dropped dropped
        simp [OpenSession.apply, outcome]
      all_goals
        obtain ⟨taken, -, -, -, cases⟩ := Pool.arrive_served served
        rcases cases with ⟨-, same⟩ | ⟨empty, -, -, -, grown⟩
        · left
          simpa [OpenSession.apply, outcome, Pool.release] using same
        · right
          exact ⟨index, rfl, empty, by simpa [OpenSession.apply, outcome, Pool.release] using grown⟩
  | complete key sample =>
      left
      simp only [OpenSession.apply, OpenSession.resolve]
      split <;> simp [Pool.finish]
  | raise key kind message =>
      left
      simp only [OpenSession.apply, fail, OpenSession.resolve]
      split <;> simp [Pool.finish]
  | cancel key =>
      left
      simp only [OpenSession.apply, OpenSession.cancel]
      split <;> simp [Pool.release]
  | drain =>
      left
      simp [OpenSession.apply, drain_eq]

/-- An arrival is dropped exactly when no caller is idle and the pool cannot
grow. -/
theorem arrive_dropped_iff (session : OpenSession) (index : Value) :
    (session.arrive index).1 = .dropped ↔
      session.pool.idleCallers = [] ∧ session.pool.ceiling ≤ session.pool.allocated := by
  rw [← Pool.arrive_fst_eq_none]
  rcases arrive_cases session index with ⟨pool', dropped, outcome⟩ |
    ⟨caller, key, pool', generator, served, ⟨order, outcome⟩ | ⟨failure, outcome⟩⟩
  · simp [outcome, dropped]
  · simp [outcome, served]
  · simp [outcome, served]

/-- The callers of an open loop run from a validated configuration, after any
sequence of events: the callers in hand are pairwise distinct, numbered
within `1 … allocated`; idle plus in flight plus the submissions cancelled or
broken off is the number allocated; the pool stays between its start and its
ceiling and grows only on an arrival that finds no caller idle; an arrival is
dropped exactly when no caller is idle at the ceiling; and while no caller
has been lost, the pool holds as many callers as were ever in flight at once,
or its starting ones if more. -/
theorem caller_pool_invariant {input : Value} {config : OpenConfig}
    (valid : OpenConfig.validate input = .ok config) (generator : Generator)
    (events : List SessionEvent) :
    let start := OpenSession.start config generator
    let session := start.replay events
    let cancelled := (collect cancelledBy start events).length
    let broken := (collect brokenBy start events).length
    (session.holders.map Caller.number).Nodup ∧
      (∀ number ∈ session.holders.map Caller.number, 1 ≤ number ∧ number ≤ session.pool.allocated) ∧
      session.pool.idleCallers.length + session.pool.inFlight + cancelled + broken =
        session.pool.allocated ∧
      config.preAllocated.toNat ≤ session.pool.allocated ∧
      session.pool.allocated ≤ config.maxCallers.toNat ∧
      (∀ event, (session.apply event).pool.allocated ≠ session.pool.allocated →
        ∃ index, event = .arrive index ∧ session.pool.idleCallers = []) ∧
      (∀ index, (session.arrive index).1 = .dropped ↔
        session.pool.idleCallers = [] ∧ session.pool.allocated = config.maxCallers.toNat) ∧
      session.pool.inFlight ≤ session.pool.maxInFlight ∧
      session.pool.maxInFlight ≤ config.maxCallers.toNat ∧
      (cancelled + broken = 0 →
        session.pool.allocated = max config.preAllocated.toNat session.pool.maxInFlight) := by
  intro start session cancelled broken
  have withinCeiling := (OpenConfig.validate_callers valid).2
  have sound : CallersSound config.preAllocated.toNat (0 + cancelled + broken) session :=
    (callers_sound_start generator withinCeiling).replay events
  have ceiling : session.pool.ceiling = config.maxCallers.toNat := by
    simp only [session, replay_ceiling]
    rfl
  have conserved := sound.conserved
  have atMostCeiling := sound.atMostCeiling
  have maxLe := sound.maxInFlight_le
  refine ⟨sound.distinct, sound.numbered, by omega, sound.atLeastPre, by omega, ?_, ?_,
    sound.inFlight_le, by omega, ?_⟩
  · intro event grown
    rcases apply_allocated session event with same | ⟨index, rfl, empty, -⟩
    · exact absurd same grown
    · exact ⟨index, rfl, empty⟩
  · intro index
    rw [arrive_dropped_iff, ceiling]
    constructor <;> rintro ⟨empty, bound⟩ <;> exact ⟨empty, by omega⟩
  · intro none
    have atLeastPre := sound.atLeastPre
    have grown := sound.grownOnDemand (by omega)
    omega

/-- Two callers started, at most three: after an arrival and a drain the pool
has not grown past three. -/
theorem caller_pool_invariant_small_pool :
    OpenConfig.validate (.obj [("pre_allocated_callers", .int 2), ("max_callers", .int 3)]) =
        .ok { preAllocated := 2, maxCallers := 3 } ∧
      ((OpenSession.start { preAllocated := 2, maxCallers := 3 } default).replay
        [.arrive (.int 0), .drain]).pool.allocated ≤ 3 :=
  have valid : OpenConfig.validate (.obj [("pre_allocated_callers", .int 2), ("max_callers", .int 3)]) =
      .ok { preAllocated := 2, maxCallers := 3 } := by rfl
  ⟨valid, (caller_pool_invariant valid default [.arrive (.int 0), .drain]).2.2.2.2.1⟩

end OpenSession

end LoadHarness
