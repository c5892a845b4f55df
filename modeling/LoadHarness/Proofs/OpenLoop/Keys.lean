import Mathlib.Data.List.Induction
import LoadHarness.Proofs.OpenLoop.Callers

/-!
# The keys of an open loop

Every issued arrival of an open loop goes out under the key `c-i`, where `c`
is the number of the caller that serves it and `i` counts the arrivals that
caller served before.  `serviceKeys` writes that rule down for a sequence of
services, and `KeysSound` is what every state of a session keeps:

* the keys issued so far are the service keys of the callers served, in order;
* every caller in hand carries as its iteration the number of services it
  made, whether it waits in the idle queue or serves a submission;
* every caller served is numbered within `1 … allocated`, and the first one
  is caller 1.

A caller keeps its count through the idle queue and back, a lost caller is
never handed out again, and a new caller is numbered past every caller made
before, so its count starts from nothing.  Since a key of two whole numbers
names both (`idempotencyKey_natCast_inj`), the keys of a run are pairwise
distinct, whatever order completions, drops and cancellations come in.
-/

namespace LoadHarness

/-- The keys of a sequence of services, the caller numbers in service order:
the `j`-th service, by caller `c`, goes out as `c-i`, where `i` counts the
services of `c` before it. -/
def serviceKeys (served : List Nat) : List String :=
  served.mapIdx fun j (number : Nat) =>
    idempotencyKey (.int number) (.int ((served.take j).count number))

@[simp] theorem serviceKeys_nil : serviceKeys [] = [] := rfl

theorem serviceKeys_concat (served : List Nat) (number : Nat) :
    serviceKeys (served ++ [number]) =
      serviceKeys served ++ [idempotencyKey (.int number) (.int (served.count number))] := by
  have earlier : ∀ j, j ≤ served.length → (served ++ [number]).take j = served.take j :=
    fun j within => List.take_append_of_le_length within
  simp only [serviceKeys, List.mapIdx_concat, earlier served.length (Nat.le_refl _),
    List.take_of_length_le (Nat.le_refl _)]
  congr 1
  -- `mapIdx` only visits the indices of `served`, where the longer prefix is the shorter one
  rw [List.mapIdx_eq_mapIdx_iff]
  intro j within
  rw [earlier j (Nat.le_of_lt within)]

theorem mem_serviceKeys {served : List Nat} {key : String} (member : key ∈ serviceKeys served) :
    ∃ number turn, turn < served.count number ∧
      key = idempotencyKey (.int number) (.int turn) := by
  induction served using List.reverseRecOn with
  | nil => simp at member
  | append_singleton served last induction =>
      rw [serviceKeys_concat, List.mem_append, List.mem_singleton] at member
      rcases member with earlier | rfl
      · obtain ⟨number, turn, taken, rfl⟩ := induction earlier
        refine ⟨number, turn, ?_, rfl⟩
        rw [List.count_append]
        omega
      · refine ⟨last, served.count last, ?_, rfl⟩
        simp

/-- No two services share a key: a caller's turns are counted apart. -/
theorem serviceKeys_nodup (served : List Nat) : (serviceKeys served).Nodup := by
  induction served using List.reverseRecOn with
  | nil => simp
  | append_singleton served last induction =>
      rw [serviceKeys_concat, List.nodup_append]
      refine ⟨induction, List.nodup_singleton _, ?_⟩
      intro earlier member newest newMember same
      rw [List.mem_singleton] at newMember
      subst newMember
      obtain ⟨number, turn, taken, rfl⟩ := mem_serviceKeys member
      obtain ⟨sameNumber, sameTurn⟩ := idempotencyKey_natCast_inj same
      subst sameNumber
      omega

theorem serviceKeys_head? (served : List Nat) :
    (serviceKeys served).head? =
      served.head?.map fun (number : Nat) => idempotencyKey (.int number) (.int 0) := by
  cases served with
  | nil => rfl
  | cons first rest => simp [serviceKeys]

namespace OpenSession

/-- The number of the caller an event hands a submission to: an arrival that
finds an idle caller, or a new one. -/
def servedBy (session : OpenSession) : SessionEvent → List Nat
  | .arrive _ => (session.pool.arrive.1.map fun (caller, _) => caller.number).toList
  | _ => []

/-- The invariant of the keys of a session whose callers have served
`served`, caller numbers in service order. -/
structure KeysSound (served : List Nat) (session : OpenSession) : Prop where
  keys : session.pool.keys.toList = serviceKeys served
  counted : ∀ caller ∈ session.holders, caller.iteration = served.count caller.number
  numbered : ∀ number ∈ served, 1 ≤ number ∧ number ≤ session.pool.allocated
  first : ∀ number ∈ served.head?, number = 1
  unserved : served = [] →
    session.pending = [] ∧ session.pool.idleCallers.map Caller.number = List.range' 1 session.pool.allocated

variable {pre lost : Nat} {served : List Nat} {session : OpenSession}

theorem keys_sound_start (config : OpenConfig) (generator : Generator) :
    KeysSound [] (OpenSession.start config generator) := by
  constructor
  · rfl
  · intro caller member
    simp only [holders, start, Pool.idleCallers_start, List.map_nil, List.append_nil, List.mem_map,
      List.mem_range] at member
    obtain ⟨n, -, rfl⟩ := member
    rfl
  · simp
  · simp
  · intro _
    refine ⟨rfl, ?_⟩
    simp only [start, Pool.idleCallers_start, List.map_map]
    rw [List.range'_eq_map_range]
    simp [Pool.start, Function.comp_def, Nat.add_comm]

/-- What the caller an arrival hands out, `taken`, is against the services so
far: it has taken `taken.iteration` turns, every other caller in hand keeps
its own count under another number, and `taken` is caller 1 when no one has
served yet. -/
structure HandedOut (served : List Nat) (session : OpenSession) (pool' : Pool) (taken : Caller) :
    Prop where
  counted : taken.iteration = served.count taken.number
  others : ∀ held ∈ pool'.idleCallers ++ session.pending.map Prod.snd,
    held.number ≠ taken.number ∧ held.iteration = served.count held.number
  numbered : 1 ≤ taken.number ∧ taken.number ≤ pool'.allocated
  first : served = [] → taken.number = 1
  grown : session.pool.allocated ≤ pool'.allocated

theorem KeysSound.handOut_front (callers : CallersSound pre lost session)
    (sound : KeysSound served session) {pool' : Pool} {taken : Caller}
    (idleFront : session.pool.idleCallers = taken :: pool'.idleCallers)
    (allocated' : pool'.allocated = session.pool.allocated) :
    HandedOut served session pool' taken := by
  have takenHeld : taken ∈ session.holders := by simp [holders, idleFront]
  have distinct := callers.distinct
  simp only [holders, idleFront, List.cons_append, List.map_cons, List.nodup_cons] at distinct
  refine ⟨sound.counted taken takenHeld, ?_, ?_, ?_, by omega⟩
  · intro held member
    refine ⟨fun same => distinct.1 (List.mem_map.mpr ⟨held, member, same⟩), ?_⟩
    exact sound.counted held (by simp [holders, idleFront] at member ⊢; tauto)
  · rw [allocated']
    exact callers.numbered _ (List.mem_map.mpr ⟨taken, takenHeld, rfl⟩)
  · -- before any service the queue holds callers `1 … allocated` in order
    intro none
    have numbers := (sound.unserved none).2
    rw [idleFront, List.map_cons] at numbers
    cases bound : session.pool.allocated with
    | zero => simp [bound] at numbers
    | succ n =>
        rw [bound, List.range'_succ, List.cons.injEq] at numbers
        exact numbers.1

theorem KeysSound.handOut_new (callers : CallersSound pre lost session)
    (sound : KeysSound served session) {pool' : Pool}
    (empty : session.pool.idleCallers = []) (empty' : pool'.idleCallers = [])
    (allocated' : pool'.allocated = session.pool.allocated + 1) :
    HandedOut served session pool' ⟨session.pool.allocated + 1, 0⟩ := by
  -- a new caller is numbered past every caller served so far
  have unseen : served.count (session.pool.allocated + 1) = 0 :=
    List.count_eq_zero_of_not_mem fun member => by
      have bound := sound.numbered _ member
      omega
  refine ⟨unseen.symm, ?_, ⟨by simp, by simp [allocated']⟩, ?_, by omega⟩
  · intro held member
    simp only [empty', List.nil_append, List.mem_map] at member
    obtain ⟨entry, pendingMember, rfl⟩ := member
    have heldMember : entry.2 ∈ session.holders := by
      simp only [holders, List.mem_append, List.mem_map]
      exact .inr ⟨entry, pendingMember, rfl⟩
    have bound := callers.numbered _ (List.mem_map.mpr ⟨_, heldMember, rfl⟩)
    exact ⟨by simp; omega, sound.counted _ heldMember⟩
  · -- with no caller idle before any service, none was ever made
    intro none
    have numbers := (sound.unserved none).2
    rw [empty, List.map_nil] at numbers
    cases bound : session.pool.allocated with
    | zero => rfl
    | succ n => simp [bound, List.range'_succ] at numbers

/-- What an arrival that got a caller does to the keys, whether or not its
order is made: the caller's next turn is issued, and every other caller in
hand keeps its count. -/
theorem KeysSound.take (callers : CallersSound pre lost session) (sound : KeysSound served session)
    {caller : Caller} {key : String} {pool' : Pool}
    (taken : session.pool.arrive = (some (caller, key), pool')) :
    pool'.keys.toList = serviceKeys (served ++ [caller.number]) ∧
      caller.iteration = (served ++ [caller.number]).count caller.number ∧
      (∀ held ∈ pool'.idleCallers ++ session.pending.map Prod.snd,
        held.iteration = (served ++ [caller.number]).count held.number) ∧
      (∀ number ∈ served ++ [caller.number], 1 ≤ number ∧ number ≤ pool'.allocated) ∧
      (∀ number ∈ (served ++ [caller.number]).head?, number = 1) := by
  obtain ⟨front, rfl, rfl, frame, cases⟩ := Pool.arrive_served taken
  have keys' : pool'.keys = session.pool.keys.push front.key := by rw [frame]
  have handed : HandedOut served session pool' front := by
    rcases cases with ⟨idleFront, allocated'⟩ | ⟨empty, -, rfl, empty', allocated'⟩
    · exact sound.handOut_front callers idleFront allocated'
    · exact sound.handOut_new callers empty empty' allocated'
  refine ⟨?_, by simp [handed.counted], ?_, ?_, ?_⟩
  · rw [keys', Array.toList_push, sound.keys, serviceKeys_concat, ← handed.counted]
    rfl
  · intro held member
    obtain ⟨apart, heldCount⟩ := handed.others held member
    simp [List.count_append, heldCount, Ne.symm apart]
  · intro number member
    rcases List.mem_append.mp member with old | new
    · have bound := sound.numbered number old
      have grown := handed.grown
      omega
    · rw [List.mem_singleton.mp new]
      exact handed.numbered
  · intro number member
    cases served with
    | nil =>
        simp only [List.nil_append, List.head?_cons, Option.mem_def, Option.some.injEq] at member
        rw [← member, handed.first rfl]
    | cons head rest => exact sound.first number (by simpa using member)

theorem KeysSound.drop (sound : KeysSound served session) {pool' : Pool}
    (dropped : session.pool.arrive = (none, pool')) :
    KeysSound served { session with pool := pool' } := by
  obtain ⟨-, -, rfl⟩ := Pool.arrive_dropped dropped
  exact ⟨sound.1, sound.2, sound.3, sound.4, sound.5⟩

theorem KeysSound.issue (callers : CallersSound pre lost session) (sound : KeysSound served session)
    {caller : Caller} {key : String} {pool' : Pool}
    (taken : session.pool.arrive = (some (caller, key), pool')) (generator : Generator) :
    KeysSound (served ++ [caller.number])
      { session with pool := pool', generator, pending := session.pending ++ [(key, caller)] } := by
  obtain ⟨keys, counted, others, numbered, first⟩ := sound.take callers taken
  refine ⟨keys, ?_, numbered, first, by simp⟩
  intro held member
  simp only [holders, List.map_append, List.map_cons, List.map_nil, ← List.append_assoc,
    List.mem_append, List.mem_singleton] at member
  rcases member with old | rfl
  · exact others held (List.mem_append.mpr old)
  · exact counted

theorem KeysSound.breakOff (callers : CallersSound pre lost session) (sound : KeysSound served session)
    {caller : Caller} {key : String} {pool' : Pool}
    (taken : session.pool.arrive = (some (caller, key), pool')) (generator : Generator) :
    KeysSound (served ++ [caller.number]) { session with pool := pool'.release, generator } := by
  obtain ⟨keys, -, others, numbered, first⟩ := sound.take callers taken
  exact ⟨keys, others, numbered, first, by simp⟩

/-- An event that hands no caller out moves callers in hand only between the
idle queue and the outstanding submissions, or loses them. -/
structure KeepsKeys (session after : OpenSession) : Prop where
  keys : after.pool.keys = session.pool.keys
  allocated : after.pool.allocated = session.pool.allocated
  holders : ∀ caller ∈ after.holders, caller ∈ session.holders
  idle : session.pending = [] → after = session

theorem keepsKeys_resolve (session : OpenSession) (key : String) (sample : Sample) :
    KeepsKeys session (session.resolve key sample) := by
  unfold resolve
  split
  · exact ⟨rfl, rfl, fun _ member => member, fun _ => rfl⟩
  · rename_i entry found
    have member := List.mem_of_find?_eq_some found
    refine ⟨rfl, rfl, ?_, fun none => by simp [none] at member⟩
    intro caller held
    simp only [holders, Pool.finish_idleCallers, List.mem_append, List.mem_singleton,
      List.mem_map, List.mem_filter] at held ⊢
    rcases held with (idle | rfl) | ⟨other, ⟨pendingMember, -⟩, rfl⟩
    · exact .inl idle
    · exact .inr ⟨_, member, rfl⟩
    · exact .inr ⟨other, pendingMember, rfl⟩

theorem keepsKeys_cancel (session : OpenSession) (key : String) :
    KeepsKeys session (session.cancel key) := by
  unfold cancel
  split
  · exact ⟨rfl, rfl, fun _ member => member, fun _ => rfl⟩
  · rename_i entry found
    have member := List.mem_of_find?_eq_some found
    refine ⟨rfl, rfl, ?_, fun none => by simp [none] at member⟩
    intro caller held
    simp only [holders, Pool.release_idleCallers, List.mem_append, List.mem_map,
      List.mem_filter] at held ⊢
    rcases held with idle | ⟨other, ⟨pendingMember, -⟩, rfl⟩
    · exact .inl idle
    · exact .inr ⟨other, pendingMember, rfl⟩

theorem keepsKeys_drain (session : OpenSession) : KeepsKeys session session.drain.2 := by
  rw [drain_eq]
  refine ⟨rfl, rfl, ?_, ?_⟩
  · intro caller held
    simp only [holders, Pool.idleCallers, List.map_nil, List.append_nil] at held
    exact List.mem_append_left _ held
  · intro none
    obtain ⟨pool, generator, pending⟩ := session
    simp only at none
    subst none
    rfl

theorem KeysSound.keep (sound : KeysSound served session) {after : OpenSession}
    (kept : KeepsKeys session after) : KeysSound served after := by
  refine ⟨?_, ?_, ?_, sound.first, ?_⟩
  · rw [kept.keys]
    exact sound.keys
  · intro caller held
    exact sound.counted caller (kept.holders caller held)
  · intro number member
    rw [kept.allocated]
    exact sound.numbered number member
  · intro none
    rw [kept.idle (sound.unserved none).1]
    exact sound.unserved none

theorem KeysSound.apply (callers : CallersSound pre lost session) (sound : KeysSound served session)
    (event : SessionEvent) :
    KeysSound (served ++ session.servedBy event) (session.apply event) := by
  cases event with
  | arrive index =>
      rcases arrive_cases session index with ⟨pool', dropped, outcome⟩ |
        ⟨caller, key, pool', generator, taken, ⟨order, outcome⟩ | ⟨failure, outcome⟩⟩
      · simpa [servedBy, OpenSession.apply, outcome, dropped] using sound.drop dropped
      · simpa [servedBy, OpenSession.apply, outcome, taken] using sound.issue callers taken generator
      · simpa [servedBy, OpenSession.apply, outcome, taken] using sound.breakOff callers taken generator
  | complete key sample =>
      simpa [servedBy, OpenSession.apply] using sound.keep (keepsKeys_resolve session key sample)
  | raise key kind message =>
      simpa [servedBy, OpenSession.apply, fail] using sound.keep (keepsKeys_resolve session key _)
  | cancel key => simpa [servedBy, OpenSession.apply] using sound.keep (keepsKeys_cancel session key)
  | drain => simpa [servedBy, OpenSession.apply] using sound.keep (keepsKeys_drain session)

theorem KeysSound.replay (callers : CallersSound pre lost session) (sound : KeysSound served session)
    (events : List SessionEvent) :
    KeysSound (served ++ collect servedBy session events) (session.replay events) := by
  -- the callers' invariant travels along, for the distinct numbers each step needs
  induction events generalizing session lost served with
  | nil => simpa using sound
  | cons event rest induction =>
      have next := induction (callers.apply event) (sound.apply callers event)
      simpa only [replay_cons, collect_cons, List.append_assoc] using next

/-- The keys of an open loop run from a validated configuration, after any
sequence of events: the key of the `j`-th issued arrival is `c-i`, where `c`
is the number of the caller that served it and `i` counts the arrivals `c`
served before; so the keys are pairwise distinct, every caller part lies
within `1 … allocated`, and the first key issued is `1-0`. -/
theorem issued_keys_name_caller_and_turn {input : Value} {config : OpenConfig}
    (valid : OpenConfig.validate input = .ok config) (generator : Generator)
    (events : List SessionEvent) :
    let start := OpenSession.start config generator
    let session := start.replay events
    let served := collect servedBy start events
    session.pool.keys.toList =
        served.mapIdx (fun j (number : Nat) =>
          idempotencyKey (.int number) (.int ((served.take j).count number))) ∧
      session.pool.keys.toList.Nodup ∧
      (∀ number ∈ served, 1 ≤ number ∧ number ≤ session.pool.allocated) ∧
      (∀ first ∈ session.pool.keys.toList.head?, first = "1-0") := by
  intro start session served
  have withinCeiling := (OpenConfig.validate_callers valid).2
  have sound : KeysSound ([] ++ served) session :=
    (keys_sound_start config generator).replay (callers_sound_start generator withinCeiling) events
  rw [List.nil_append] at sound
  refine ⟨sound.keys, sound.keys ▸ serviceKeys_nodup served, sound.numbered, ?_⟩
  intro first member
  rw [sound.keys, serviceKeys_head?, Option.mem_def, Option.map_eq_some_iff] at member
  obtain ⟨number, head, rfl⟩ := member
  rw [sound.first number head]
  decide

/-- Two callers started, at most three: two arrivals with a completion between
them go out under distinct keys. -/
theorem issued_keys_name_caller_and_turn_small_pool :
    OpenConfig.validate (.obj [("pre_allocated_callers", .int 2), ("max_callers", .int 3)]) =
        .ok { preAllocated := 2, maxCallers := 3 } ∧
      ((OpenSession.start { preAllocated := 2, maxCallers := 3 } default).replay
        [.arrive (.int 0), .complete "1-0" ⟨1.0, true, some 200, none⟩, .arrive (.int 1)]).pool.keys.toList.Nodup :=
  have valid : OpenConfig.validate (.obj [("pre_allocated_callers", .int 2), ("max_callers", .int 3)]) =
      .ok { preAllocated := 2, maxCallers := 3 } := by rfl
  ⟨valid, (issued_keys_name_caller_and_turn valid default
    [.arrive (.int 0), .complete "1-0" ⟨1.0, true, some 200, none⟩, .arrive (.int 1)]).2.1⟩

end OpenSession

end LoadHarness
