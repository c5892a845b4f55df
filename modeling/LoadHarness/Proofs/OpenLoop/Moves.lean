import LoadHarness.Loop.Session

/-!
# What each move of an open-loop session does

The caller pool of an open loop changes in four ways: an arrival takes a
caller (the idle one at the front, or a new one while below the ceiling) or
is dropped; a finished submission returns its caller to the back of the
queue; a submission that ends without a sample releases its slot only.  This
module states each of them once, through the list of idle callers, so that
the invariants of the session are proved without unfolding the moves again.

The session moves add the outstanding submissions: an arrival that gets a
caller and makes its order adds one at the end; resolving or cancelling a key
that is outstanding removes the one submission under it, provided no two
outstanding submissions share a key.
-/

namespace LoadHarness

theorem queue_dequeue_none {α : Type} {queue : Std.Queue α} :
    queue.dequeue? = none ↔ queue.toArray.toList = [] := by
  obtain ⟨eList, dList⟩ := queue
  cases dList with
  | cons head tail => simp [Std.Queue.dequeue?, Std.Queue.toArray]
  | nil =>
      cases order : eList.reverse with
      | nil => simp [Std.Queue.dequeue?, Std.Queue.toArray, order]
      | cons head tail => simp [Std.Queue.dequeue?, Std.Queue.toArray, order]

theorem queue_dequeue_some {α : Type} {queue rest : Std.Queue α} {front : α}
    (taken : queue.dequeue? = some (front, rest)) :
    queue.toArray.toList = front :: rest.toArray.toList := by
  obtain ⟨eList, dList⟩ := queue
  cases dList with
  | cons head tail =>
      simp only [Std.Queue.dequeue?, Option.some.injEq, Prod.mk.injEq] at taken
      obtain ⟨rfl, rfl⟩ := taken
      simp [Std.Queue.toArray]
  | nil =>
      cases order : eList.reverse with
      | nil => simp [Std.Queue.dequeue?, order] at taken
      | cons head tail =>
          simp only [Std.Queue.dequeue?, order, Option.some.injEq, Prod.mk.injEq] at taken
          obtain ⟨rfl, rfl⟩ := taken
          simp [Std.Queue.toArray, order]

theorem queue_enqueue {α : Type} (queue : Std.Queue α) (item : α) :
    (queue.enqueue item).toArray.toList = queue.toArray.toList ++ [item] := by
  simp [Std.Queue.enqueue, Std.Queue.toArray]

namespace Pool

@[simp] theorem idleCallers_start (pre ceiling : Nat) :
    (Pool.start pre ceiling).idleCallers = (List.range pre).map fun n => ⟨n + 1, 0⟩ := by
  simp [Pool.start, idleCallers, Std.Queue.toArray]

@[simp] theorem finish_idleCallers (pool : Pool) (caller : Caller) (sample : Sample) :
    (pool.finish caller sample).idleCallers = pool.idleCallers ++ [caller] := by
  simp [finish, idleCallers, queue_enqueue]

@[simp] theorem release_idleCallers (pool : Pool) :
    pool.release.idleCallers = pool.idleCallers := rfl

theorem foldl_release (pool : Pool) {α : Type} (items : List α) :
    items.foldl (fun pool _ => pool.release) pool =
      { pool with inFlight := pool.inFlight - items.length } := by
  induction items generalizing pool with
  | nil => rfl
  | cons item items induction =>
      rw [List.foldl_cons, induction]
      simp only [release, List.length_cons, Nat.sub_sub, Nat.add_comm]

theorem acquire_some {pool pool' : Pool} {caller : Caller}
    (taken : pool.acquire = some (caller, pool')) :
    pool' = { pool with idle := pool'.idle, allocated := pool'.allocated } ∧
      ((pool.idleCallers = caller :: pool'.idleCallers ∧ pool'.allocated = pool.allocated) ∨
        (pool.idleCallers = [] ∧ pool.allocated < pool.ceiling ∧ caller = ⟨pool.allocated + 1, 0⟩ ∧
          pool'.idleCallers = [] ∧ pool'.allocated = pool.allocated + 1)) := by
  unfold acquire at taken
  split at taken
  · rename_i front rest dequeued
    simp only [Option.some.injEq, Prod.mk.injEq] at taken
    obtain ⟨rfl, rfl⟩ := taken
    exact ⟨rfl, .inl ⟨queue_dequeue_some dequeued, rfl⟩⟩
  · rename_i dequeued
    split at taken
    · rename_i below
      simp only [Option.some.injEq, Prod.mk.injEq] at taken
      obtain ⟨rfl, rfl⟩ := taken
      have empty := queue_dequeue_none.mp dequeued
      exact ⟨rfl, .inr ⟨empty, below, rfl, empty, rfl⟩⟩
    · cases taken

theorem acquire_eq_none {pool : Pool} :
    pool.acquire = none ↔ pool.idleCallers = [] ∧ pool.ceiling ≤ pool.allocated := by
  unfold acquire
  split
  · rename_i front rest dequeued
    simp [idleCallers, queue_dequeue_some dequeued]
  · rename_i dequeued
    have empty := queue_dequeue_none.mp dequeued
    simp only [idleCallers] at empty ⊢
    split <;> simp_all

theorem arrive_dropped {pool pool' : Pool} (dropped : pool.arrive = (none, pool')) :
    pool.idleCallers = [] ∧ pool.ceiling ≤ pool.allocated ∧
      pool' = { pool with scheduled := pool.scheduled + 1, dropped := pool.dropped + 1 } := by
  dsimp only [arrive] at dropped
  split at dropped
  · rename_i none
    simp only [Prod.mk.injEq] at dropped
    obtain ⟨-, rfl⟩ := dropped
    exact ⟨(acquire_eq_none.mp none).1, (acquire_eq_none.mp none).2, rfl⟩
  · simp at dropped

theorem arrive_served {pool pool' : Pool} {caller : Caller} {key : String}
    (served : pool.arrive = (some (caller, key), pool')) :
    ∃ taken, caller = { taken with iteration := taken.iteration + 1 } ∧ key = taken.key ∧
      pool' = { pool with
                  idle := pool'.idle, allocated := pool'.allocated,
                  scheduled := pool.scheduled + 1, issued := pool.issued + 1,
                  inFlight := pool.inFlight + 1,
                  maxInFlight := max pool.maxInFlight (pool.inFlight + 1),
                  keys := pool.keys.push key } ∧
      ((pool.idleCallers = taken :: pool'.idleCallers ∧ pool'.allocated = pool.allocated) ∨
        (pool.idleCallers = [] ∧ pool.allocated < pool.ceiling ∧ taken = ⟨pool.allocated + 1, 0⟩ ∧
          pool'.idleCallers = [] ∧ pool'.allocated = pool.allocated + 1)) := by
  dsimp only [arrive] at served
  split at served
  · simp at served
  · rename_i taken acquired acquiredEq
    simp only [Prod.mk.injEq, Option.some.injEq] at served
    obtain ⟨⟨rfl, rfl⟩, rfl⟩ := served
    obtain ⟨frame, cases⟩ := acquire_some acquiredEq
    refine ⟨taken, rfl, rfl, ?_, ?_⟩
    · rw [frame]
    · simpa [idleCallers] using cases

theorem arrive_fst_eq_none {pool : Pool} :
    pool.arrive.1 = none ↔ pool.idleCallers = [] ∧ pool.ceiling ≤ pool.allocated := by
  constructor
  · intro dropped
    have outcome : pool.arrive = (none, pool.arrive.2) := by rw [← dropped]
    obtain ⟨empty, full, -⟩ := arrive_dropped outcome
    exact ⟨empty, full⟩
  · rintro ⟨empty, full⟩
    cases served : pool.arrive with
    | mk outcome pool' =>
        cases outcome with
        | none => rfl
        | some taken =>
            obtain ⟨caller, -, -, -, cases⟩ := arrive_served served
            rcases cases with ⟨front, -⟩ | ⟨-, below, -⟩
            · simp [empty] at front
            · omega

end Pool

namespace OpenSession

theorem arrive_cases (session : OpenSession) (index : Value) :
    (∃ pool', session.pool.arrive = (none, pool') ∧
      session.arrive index = (.dropped, { session with pool := pool' })) ∨
    ∃ caller key pool' generator, session.pool.arrive = (some (caller, key), pool') ∧
      ((∃ order, session.arrive index = (.issued key order,
          { session with pool := pool', generator, pending := session.pending ++ [(key, caller)] })) ∨
        ∃ failure, session.arrive index = (.broken key failure,
          { session with pool := pool'.release, generator })) := by
  unfold arrive
  rcases served : session.pool.arrive with ⟨_ | ⟨caller, key⟩, pool'⟩
  · exact .inl ⟨pool', rfl, rfl⟩
  · right
    rcases made : session.generator.generate index with ⟨_ | order, generator⟩
    · exact ⟨caller, key, pool', generator, rfl, .inr ⟨_, rfl⟩⟩
    · exact ⟨caller, key, pool', generator, rfl, .inl ⟨order, rfl⟩⟩

theorem find_key_of_mem {pending : List (String × Caller)} {key : String} {caller : Caller}
    (distinct : (pending.map Prod.fst).Nodup) (member : (key, caller) ∈ pending) :
    pending.find? (fun (pendingKey, _) => pendingKey == key) = some (key, caller) := by
  induction pending with
  | nil => simp at member
  | cons entry pending induction =>
      simp only [List.map_cons, List.nodup_cons, List.mem_map] at distinct
      rcases List.mem_cons.mp member with here | later
      · subst here
        simp
      · have other : entry.1 ≠ key := fun same => distinct.1 ⟨(key, caller), later, same.symm⟩
        simp [other, induction distinct.2 later]

theorem find_key_of_not_mem {pending : List (String × Caller)} {key : String}
    (absent : key ∉ pending.map Prod.fst) :
    pending.find? (fun (pendingKey, _) => pendingKey == key) = none := by
  simp only [List.find?_eq_none]
  rintro ⟨pendingKey, caller⟩ member
  have other : pendingKey ≠ key := fun same => absent (List.mem_map.mpr ⟨_, member, same⟩)
  simpa using other

theorem filter_key_of_mem {pending : List (String × Caller)} {key : String} {caller : Caller}
    (distinct : (pending.map Prod.fst).Nodup) (member : (key, caller) ∈ pending) :
    ∃ front back, pending = front ++ (key, caller) :: back ∧
      pending.filter (fun (pendingKey, _) => pendingKey != key) = front ++ back := by
  obtain ⟨front, back, split⟩ := List.append_of_mem member
  subst split
  refine ⟨front, back, rfl, ?_⟩
  simp only [List.map_append, List.map_cons] at distinct
  have frontOther : ∀ entry ∈ front, entry.1 ≠ key := fun entry member same =>
    (List.nodup_append.mp distinct).2.2 _ (List.mem_map.mpr ⟨entry, member, same⟩) _ List.mem_cons_self rfl
  have backOther : ∀ entry ∈ back, entry.1 ≠ key := fun entry member same =>
    (List.nodup_cons.mp (List.nodup_append.mp distinct).2.1).1 (List.mem_map.mpr ⟨entry, member, same⟩)
  simp only [List.filter_append, List.filter_cons, bne_self_eq_false, Bool.false_eq_true, ite_false]
  rw [List.filter_eq_self.mpr (by simpa using frontOther), List.filter_eq_self.mpr (by simpa using backOther)]

theorem resolve_of_mem {session : OpenSession} {key : String} {caller : Caller}
    (distinct : (session.pending.map Prod.fst).Nodup) (member : (key, caller) ∈ session.pending)
    (sample : Sample) :
    session.resolve key sample =
      { session with pool := session.pool.finish caller sample,
                     pending := session.pending.filter fun (pendingKey, _) => pendingKey != key } := by
  simp [resolve, find_key_of_mem distinct member]

theorem resolve_of_not_mem {session : OpenSession} {key : String}
    (absent : key ∉ session.pending.map Prod.fst) (sample : Sample) :
    session.resolve key sample = session := by
  simp [resolve, find_key_of_not_mem absent]

theorem cancel_of_mem {session : OpenSession} {key : String} {caller : Caller}
    (distinct : (session.pending.map Prod.fst).Nodup) (member : (key, caller) ∈ session.pending) :
    session.cancel key =
      { session with pool := session.pool.release,
                     pending := session.pending.filter fun (pendingKey, _) => pendingKey != key } := by
  simp [cancel, find_key_of_mem distinct member]

theorem cancel_of_not_mem {session : OpenSession} {key : String}
    (absent : key ∉ session.pending.map Prod.fst) :
    session.cancel key = session := by
  simp [cancel, find_key_of_not_mem absent]

theorem drain_eq (session : OpenSession) :
    session.drain = (session.pending.length,
      { session with pool := { session.pool with inFlight := session.pool.inFlight - session.pending.length },
                     pending := [] }) := by
  simp [drain, Pool.foldl_release]

end OpenSession

end LoadHarness
