import Mathlib.Data.List.Nodup
import LoadHarness.Target.Serving

/-!
# The acceptances an intake remembers

An intake that does not fail and remembers at most `limit` keys, `limit` a
whole number, keeps its keys sound whatever order its concurrent
submissions resume in:

* the keys it remembers are pairwise distinct, at most `max limit 0` of them,
  in the order they were accepted (`StoreSound`);
* a submission under key `k` that resumes while `k` is remembered gets the
  remembered acceptance again and changes nothing; otherwise it is accepted
  under the next order number and `k` joins last, the oldest key being
  forgotten when more than `limit` are then held; a submission without a key
  is accepted and never remembered;
* a key stays remembered as long as fewer than `limit` fresh keyed
  acceptances follow its own (`remembered_while_few_fresh`), and while it stays
  remembered its acceptance does not change (`remembered_while_kept`), so two
  submissions under one key get the same acceptance.

Every step of a run is one of two kinds (`Serving.apply_remembered`): it
leaves the remembered keys alone, or it accepts a key not remembered; the
invariants follow from that alone.
-/

namespace LoadHarness

theorem find?_fst_of_mem {α β : Type} [BEq α] [LawfulBEq α] {entries : List (α × β)} {key : α}
    {value : β} (distinct : (entries.map Prod.fst).Nodup) (member : (key, value) ∈ entries) :
    entries.find? (·.1 == key) = some (key, value) := by
  induction entries with
  | nil => simp at member
  | cons entry entries induction =>
      simp only [List.map_cons, List.nodup_cons, List.mem_map] at distinct
      rcases List.mem_cons.mp member with here | later
      · subst here
        simp
      · have other : entry.1 ≠ key := fun same => distinct.1 ⟨(key, value), later, same.symm⟩
        simp [other, induction distinct.2 later]

theorem find?_fst_of_not_mem {α β : Type} [BEq α] [LawfulBEq α] {entries : List (α × β)} {key : α}
    (absent : key ∉ entries.map Prod.fst) : entries.find? (·.1 == key) = none := by
  rw [List.find?_eq_none]
  intro entry member same
  exact absent (List.mem_map.mpr ⟨entry, member, by simpa using same⟩)

namespace IntakeSettings

theorem exceeded_int {settings : IntakeSettings} {limit : Int}
    (limited : settings.keyLimit = .int limit) (held : Nat) :
    settings.exceeded held = .ok (decide (limit < held)) := by
  unfold exceeded
  rw [limited]
  by_cases above : limit < held <;>
    simp [above, Value.relate, Value.number?, Number.order, Relation.holds, Except.mapError,
      Int.compare_eq_gt]

end IntakeSettings

namespace Intake

variable {limit : Int} {intake : Intake}

theorem resume_remembered (steady : intake.settings.failing = false) {key : String} {order : Nat}
    (distinct : (intake.remembered.map Prod.fst).Nodup) (member : (key, order) ∈ intake.remembered) :
    intake.resume (some key) = .ok (.accepted order (some key), intake) := by
  simp [resume, steady, find?_fst_of_mem distinct member]

theorem resume_of_mem (steady : intake.settings.failing = false) {key : String}
    (remembered : key ∈ intake.remembered.map Prod.fst) :
    ∃ order, intake.resume (some key) = .ok (.accepted order (some key), intake) := by
  cases found : intake.remembered.find? (·.1 == key) with
  | none =>
      obtain ⟨entry, member, rfl⟩ := List.mem_map.mp remembered
      have missed := List.find?_eq_none.mp found entry member
      simp at missed
  | some entry => exact ⟨entry.2, by simp [resume, steady, found]⟩

/-- A key not remembered is accepted under the next order number and joins
the keys last; the oldest is forgotten when more than `limit` are then held. -/
theorem resume_fresh (steady : intake.settings.failing = false)
    (limited : intake.settings.keyLimit = .int limit) {key : String}
    (absent : key ∉ intake.remembered.map Prod.fst) :
    intake.resume (some key) =
      .ok (.accepted (intake.orders + 1) (some key),
        { intake with
          remembered :=
            if limit < ((intake.remembered.length + 1 : Nat) : Int) then
              (intake.remembered ++ [(key, intake.orders + 1)]).tail
            else intake.remembered ++ [(key, intake.orders + 1)],
          orders := intake.orders + 1 }) := by
  by_cases overfull : limit < ((intake.remembered.length + 1 : Nat) : Int) <;>
    simp only [resume, steady, Bool.false_eq_true, if_false, Option.bind_some,
      find?_fst_of_not_mem absent, Option.map_none, accept, IntakeSettings.exceeded_int limited,
      List.length_append, List.length_singleton, overfull, decide_true, decide_false, if_true,
      bind, Except.bind, pure, Except.pure, List.drop_one]

theorem resume_keyless (steady : intake.settings.failing = false) :
    intake.resume none = .ok (.accepted (intake.orders + 1) none, { intake with orders := intake.orders + 1 }) := by
  simp [resume, steady, accept, bind, Except.bind, pure, Except.pure]

/-- The keys an intake with key limit `limit` remembers: pairwise distinct,
at most `max limit 0` of them, in the order they were accepted, each under an
order number already given. -/
structure StoreSound (limit : Int) (intake : Intake) : Prop where
  distinct : (intake.remembered.map Prod.fst).Nodup
  bounded : (intake.remembered.length : Int) ≤ max limit 0
  ordered : (intake.remembered.map Prod.snd).Pairwise (· < ·)
  issued : ∀ entry ∈ intake.remembered, entry.2 ≤ intake.orders

end Intake

namespace Serving

variable {limit : Int} {serving next : Serving} {event : ServingEvent} {answer : Option IntakeReply}

/-- The key an event accepts afresh: a resumed submission under a key not
remembered, at an intake that does not fail. -/
def freshBy (serving : Serving) : ServingEvent → List String
  | .resume slot =>
      match serving.waiting[slot]? with
      | some (some key) =>
          if serving.intake.settings.failing = false ∧ key ∉ serving.intake.remembered.map Prod.fst
          then [key] else []
      | _ => []
  | _ => []

/-- What `observe` reports of each event of a sequence, in order, up to the
first failure. -/
def collect {α : Type} (observe : Serving → ServingEvent → List α) :
    Serving → List ServingEvent → List α
  | _, [] => []
  | serving, event :: rest =>
      observe serving event ++
        match serving.apply event with
        | .ok (_, next) => collect observe next rest
        | .error _ => []

theorem replay_cons_eq_ok {rest : List ServingEvent} {after : Serving} :
    serving.replay (event :: rest) = .ok after ↔
      ∃ answer next, serving.apply event = .ok (answer, next) ∧ next.replay rest = .ok after := by
  simp only [replay, bind, Except.bind]
  cases serving.apply event with
  | error failure => simp
  | ok result =>
      obtain ⟨answer, next⟩ := result
      simp only [Except.ok.injEq, Prod.mk.injEq]
      exact ⟨fun ran => ⟨answer, next, ⟨rfl, rfl⟩, ran⟩, fun ⟨_, _, ⟨_, same⟩, ran⟩ => same ▸ ran⟩

theorem collect_cons_of_ok {α : Type} (observe : Serving → ServingEvent → List α)
    {rest : List ServingEvent} (ran : serving.apply event = .ok (answer, next)) :
    collect observe serving (event :: rest) = observe serving event ++ collect observe next rest := by
  simp [collect, ran]

theorem resume_of_waiting {slot : Nat} {key : Option String} {reply : IntakeReply} {after : Intake}
    (waiting : serving.waiting[slot]? = some key) (resumed : serving.intake.resume key = .ok (reply, after)) :
    serving.resume slot = .ok (some reply, { intake := after, waiting := serving.waiting.eraseIdx slot }) := by
  simp [resume, waiting, resumed, bind, Except.bind, pure, Except.pure]

/-- What one event does to the intake: it gives order numbers at most, or it
accepts a key not remembered, which joins last, the oldest being forgotten
when more than `limit` are then held. -/
theorem apply_intake (limited : serving.intake.settings.keyLimit = .int limit)
    (ran : serving.apply event = .ok (answer, next)) :
    (serving.freshBy event = [] ∧
      ∃ orders, serving.intake.orders ≤ orders ∧ next.intake = { serving.intake with orders := orders }) ∨
    ∃ key, serving.freshBy event = [key] ∧ key ∉ serving.intake.remembered.map Prod.fst ∧
      next.intake =
        { serving.intake with
          remembered :=
            if limit < ((serving.intake.remembered.length + 1 : Nat) : Int) then
              (serving.intake.remembered ++ [(key, serving.intake.orders + 1)]).tail
            else serving.intake.remembered ++ [(key, serving.intake.orders + 1)],
          orders := serving.intake.orders + 1 } := by
  cases event with
  | submit body key apiKey =>
      -- an arrival only joins the waiting submissions
      simp only [apply, submit, Except.ok.injEq] at ran
      left
      split at ran <;>
        (obtain ⟨-, rfl⟩ := Prod.mk.inj ran; exact ⟨rfl, _, Nat.le_refl _, rfl⟩)
  | resume slot =>
      simp only [apply, resume] at ran
      cases waiting : serving.waiting[slot]? with
      | none =>
          simp only [waiting] at ran
          obtain ⟨-, rfl⟩ := Prod.mk.inj (Except.ok.inj ran)
          left
          exact ⟨by simp [freshBy, waiting], _, Nat.le_refl _, rfl⟩
      | some key =>
          simp only [waiting] at ran
          -- the intake's answer, with the submission taken off the waiting ones
          have resumed : ∀ {reply after},
              serving.intake.resume key = .ok (reply, after) → next.intake = after := by
            intro reply after resumedEq
            simp only [resumedEq, bind, Except.bind, pure, Except.pure, Except.ok.injEq] at ran
            obtain ⟨-, rfl⟩ := Prod.mk.inj ran
            rfl
          cases failing : serving.intake.settings.failing with
          | true =>
              -- a failing intake refuses it and changes nothing
              have same := resumed
                (show serving.intake.resume key = .ok (.failed, serving.intake) by
                  simp [Intake.resume, failing])
              left
              refine ⟨?_, _, Nat.le_refl _, same⟩
              cases key <;> simp [freshBy, waiting, failing]
          | false =>
              cases key with
              | none =>
                  have same := resumed (Intake.resume_keyless failing)
                  left
                  exact ⟨by simp [freshBy, waiting], _, Nat.le_succ _, same⟩
              | some key =>
                  by_cases remembered : key ∈ serving.intake.remembered.map Prod.fst
                  · obtain ⟨order, again⟩ := Intake.resume_of_mem failing remembered
                    left
                    exact ⟨by simp [freshBy, waiting, remembered], _, Nat.le_refl _, resumed again⟩
                  · right
                    exact ⟨key, by simp [freshBy, waiting, failing, remembered], remembered,
                      resumed (Intake.resume_fresh failing limited remembered)⟩

theorem apply_settings (limited : serving.intake.settings.keyLimit = .int limit)
    (ran : serving.apply event = .ok (answer, next)) :
    next.intake.settings = serving.intake.settings := by
  rcases apply_intake limited ran with ⟨-, orders, -, same⟩ | ⟨key, -, -, accepted⟩
  · rw [same]
  · rw [accepted]

theorem apply_ok (limited : serving.intake.settings.keyLimit = .int limit) (event : ServingEvent) :
    ∃ answer next, serving.apply event = .ok (answer, next) := by
  cases event with
  | submit body key apiKey => exact ⟨_, _, rfl⟩
  | resume slot =>
      simp only [apply]
      cases waiting : serving.waiting[slot]? with
      | none => exact ⟨none, serving, by simp [resume, waiting]⟩
      | some key =>
          -- the intake answers every key
          have answered : ∃ reply after, serving.intake.resume key = .ok (reply, after) := by
            cases failing : serving.intake.settings.failing with
            | true => exact ⟨.failed, serving.intake, by simp [Intake.resume, failing]⟩
            | false =>
                cases key with
                | none => exact ⟨_, _, Intake.resume_keyless failing⟩
                | some key =>
                    by_cases remembered : key ∈ serving.intake.remembered.map Prod.fst
                    · obtain ⟨order, again⟩ := Intake.resume_of_mem failing remembered
                      exact ⟨_, _, again⟩
                    · exact ⟨_, _, Intake.resume_fresh failing limited remembered⟩
          obtain ⟨reply, after, resumed⟩ := answered
          exact ⟨_, _, resume_of_waiting waiting resumed⟩

theorem replay_ok (limited : serving.intake.settings.keyLimit = .int limit)
    (events : List ServingEvent) : ∃ after, serving.replay events = .ok after := by
  induction events generalizing serving with
  | nil => exact ⟨serving, rfl⟩
  | cons event rest induction =>
      obtain ⟨answer, next, ran⟩ := apply_ok limited event
      obtain ⟨after, rest⟩ := induction (apply_settings limited ran ▸ limited)
      exact ⟨after, replay_cons_eq_ok.mpr ⟨answer, next, ran, rest⟩⟩

theorem settings_replay (limited : serving.intake.settings.keyLimit = .int limit)
    {events : List ServingEvent} {after : Serving} (ran : serving.replay events = .ok after) :
    after.intake.settings = serving.intake.settings := by
  induction events generalizing serving with
  | nil =>
      cases ran
      rfl
  | cons event rest induction =>
      obtain ⟨answer, next, step, ranRest⟩ := replay_cons_eq_ok.mp ran
      have same := apply_settings limited step
      rw [induction (same ▸ limited) ranRest, same]

theorem storeSound_apply (limited : serving.intake.settings.keyLimit = .int limit)
    (sound : Intake.StoreSound limit serving.intake) (ran : serving.apply event = .ok (answer, next)) :
    Intake.StoreSound limit next.intake := by
  rcases apply_intake limited ran with ⟨-, orders, more, same⟩ | ⟨key, -, absent, accepted⟩
  · rw [same]
    exact ⟨sound.distinct, sound.bounded, sound.ordered,
      fun entry member => Nat.le_trans (sound.issued entry member) more⟩
  · -- the new key is distinct from the others, and its order number the largest
    have grownDistinct : ((serving.intake.remembered ++ [(key, serving.intake.orders + 1)]).map
        Prod.fst).Nodup := by
      rw [List.map_append, List.nodup_append]
      refine ⟨sound.distinct, List.nodup_singleton _, ?_⟩
      intro other member newest newMember same
      simp only [List.map_cons, List.map_nil, List.mem_singleton] at newMember
      exact absent (newMember ▸ same ▸ member)
    have grownOrdered : ((serving.intake.remembered ++ [(key, serving.intake.orders + 1)]).map
        Prod.snd).Pairwise (· < ·) := by
      rw [List.map_append, List.pairwise_append]
      refine ⟨sound.ordered, List.pairwise_singleton _ _, ?_⟩
      intro order member newest newMember
      obtain ⟨entry, entryMember, rfl⟩ := List.mem_map.mp member
      simp only [List.map_cons, List.map_nil, List.mem_singleton] at newMember
      have issued := sound.issued entry entryMember
      omega
    have grownIssued : ∀ entry ∈ serving.intake.remembered ++ [(key, serving.intake.orders + 1)],
        entry.2 ≤ serving.intake.orders + 1 := by
      intro entry member
      rcases List.mem_append.mp member with old | new
      · exact Nat.le_succ_of_le (sound.issued entry old)
      · obtain rfl := List.mem_singleton.mp new
        exact Nat.le_refl _
    have bounded := sound.bounded
    rw [accepted]
    split
    · -- the oldest key is forgotten, which keeps the count
      rename_i overfull
      have smaller := List.tail_sublist (serving.intake.remembered ++ [(key, serving.intake.orders + 1)])
      refine ⟨grownDistinct.sublist (smaller.map _), ?_, grownOrdered.sublist (smaller.map _),
        fun entry member => grownIssued entry (smaller.subset member)⟩
      simp only [List.length_tail, List.length_append, List.length_singleton]
      omega
    · rename_i within
      refine ⟨grownDistinct, ?_, grownOrdered, grownIssued⟩
      simp only [List.length_append, List.length_singleton]
      omega

theorem storeSound_replay (limited : serving.intake.settings.keyLimit = .int limit)
    (sound : Intake.StoreSound limit serving.intake) {events : List ServingEvent} {after : Serving}
    (ran : serving.replay events = .ok after) : Intake.StoreSound limit after.intake := by
  induction events generalizing serving with
  | nil =>
      cases ran
      exact sound
  | cons event rest induction =>
      obtain ⟨answer, next, step, ranRest⟩ := replay_cons_eq_ok.mp ran
      exact induction (apply_settings limited step ▸ limited) (storeSound_apply limited sound step) ranRest

/-- A key stays remembered, with its acceptance, while fewer fresh keyed
acceptances follow than it has room before being the oldest at the limit. -/
theorem remembered_while_few_fresh (limited : serving.intake.settings.keyLimit = .int limit)
    {events : List ServingEvent} {after : Serving} (ran : serving.replay events = .ok after)
    {front back : List (String × Nat)} {key : String} {order : Nat}
    (split : serving.intake.remembered = front ++ (key, order) :: back)
    (few : ((back.length + (collect freshBy serving events).length : Nat) : Int) < limit) :
    (key, order) ∈ after.intake.remembered := by
  -- the entry moves towards the front by one for each fresh acceptance that finds the store full
  induction events generalizing serving front back with
  | nil =>
      cases ran
      simp [split]
  | cons event rest induction =>
      obtain ⟨answer, next, step, ranRest⟩ := replay_cons_eq_ok.mp ran
      have limited' := apply_settings limited step ▸ limited
      rw [collect_cons_of_ok freshBy step, List.length_append] at few
      rcases apply_intake limited step with ⟨fresh, orders, -, same⟩ | ⟨newKey, fresh, -, accepted⟩
      · rw [fresh, List.length_nil] at few
        have unchanged : next.intake.remembered = front ++ (key, order) :: back := by
          rw [same, split]
        exact induction limited' ranRest unchanged (by omega)
      · rw [fresh, List.length_singleton] at few
        have grown : serving.intake.remembered ++ [(newKey, serving.intake.orders + 1)] =
            front ++ (key, order) :: (back ++ [(newKey, serving.intake.orders + 1)]) := by
          simp [split]
        have longer : ((back ++ [(newKey, serving.intake.orders + 1)]).length +
            (collect freshBy next rest).length : Int) < limit := by
          simp only [List.length_append, List.length_singleton]
          omega
        by_cases overfull : limit < ((serving.intake.remembered.length + 1 : Nat) : Int)
        · cases front with
          | nil =>
              -- the entry would be the oldest at the limit, which `few` rules out
              simp only [split, List.nil_append, List.length_cons] at overfull
              omega
          | cons oldest front =>
              have moved : next.intake.remembered =
                  front ++ (key, order) :: (back ++ [(newKey, serving.intake.orders + 1)]) := by
                rw [accepted, if_pos overfull, grown, List.cons_append, List.tail_cons]
              exact induction limited' ranRest moved (by simpa using longer)
        · have kept : next.intake.remembered =
              front ++ (key, order) :: (back ++ [(newKey, serving.intake.orders + 1)]) := by
            rw [accepted, if_neg overfull, grown]
          exact induction limited' ranRest kept (by simpa using longer)

/-- While a key stays remembered, its entry does not change: it can leave
only as the oldest, and a key remembered is never accepted afresh. -/
theorem remembered_kept_apply (limited : serving.intake.settings.keyLimit = .int limit)
    (sound : Intake.StoreSound limit serving.intake) (ran : serving.apply event = .ok (answer, next))
    {key : String} {order : Nat} (member : (key, order) ∈ serving.intake.remembered)
    (still : key ∈ next.intake.remembered.map Prod.fst) :
    (key, order) ∈ next.intake.remembered := by
  rcases apply_intake limited ran with ⟨-, orders, -, same⟩ | ⟨newKey, -, absent, accepted⟩
  · rw [same]
    exact member
  · rw [accepted] at still ⊢
    split
    · rename_i overfull
      rw [if_pos overfull] at still
      cases remembered : serving.intake.remembered with
      | nil => simp [remembered] at member
      | cons oldest rest =>
          have distinct := sound.distinct
          rw [remembered] at member distinct still
          simp only [List.cons_append, List.tail_cons, List.map_append, List.map_cons, List.map_nil,
            List.mem_append, List.mem_singleton] at still ⊢
          rcases List.mem_cons.mp member with rfl | later
          · -- the oldest entry left, and with it its key
            simp only [List.map_cons, List.nodup_cons] at distinct
            rcases still with inRest | isNew
            · exact absurd inRest distinct.1
            · exact absurd (isNew ▸ by simp [remembered]) absent
          · exact .inl later
    · exact List.mem_append_left _ member

theorem remembered_while_kept (limited : serving.intake.settings.keyLimit = .int limit)
    (sound : Intake.StoreSound limit serving.intake) {events : List ServingEvent} {after : Serving}
    (ran : serving.replay events = .ok after) {key : String} {order : Nat}
    (member : (key, order) ∈ serving.intake.remembered)
    (kept : ∀ n mid, serving.replay (events.take n) = .ok mid → key ∈ mid.intake.remembered.map Prod.fst) :
    (key, order) ∈ after.intake.remembered := by
  induction events generalizing serving with
  | nil =>
      cases ran
      exact member
  | cons event rest induction =>
      obtain ⟨answer, next, step, ranRest⟩ := replay_cons_eq_ok.mp ran
      -- the key is still remembered after the first event, and after every later prefix
      have first : key ∈ next.intake.remembered.map Prod.fst :=
        kept 1 next (replay_cons_eq_ok.mpr ⟨answer, next, step, rfl⟩)
      refine induction (apply_settings limited step ▸ limited) (storeSound_apply limited sound step)
        ranRest (remembered_kept_apply limited sound step member first) ?_
      intro n mid earlier
      exact kept (n + 1) mid (replay_cons_eq_ok.mpr ⟨answer, next, step, earlier⟩)

end Serving

/-- The keys an intake remembers, for an intake that does not fail and
remembers at most `limit` keys, whatever its concurrent submissions and the
order they resume in: no run fails; the keys remembered are pairwise
distinct, at most `max limit 0` of them, in the order they were accepted; a
waiting submission under a remembered key gets the remembered acceptance and
changes nothing, one under another key is accepted under the next order
number and remembered last (the oldest key forgotten when more than `limit`
are then held), and one without a key is accepted and not remembered; a key
just accepted stays remembered, with its acceptance, while fewer than `limit`
fresh keyed acceptances follow; and while a key stays remembered its
acceptance does not change. -/
theorem intake_replays_remembered_acceptances (apiKey : Option Value) (limit : Int)
    (events : List ServingEvent) :
    let start : Serving :=
      { intake := { settings := { failing := false, apiKey := apiKey, keyLimit := .int limit } } }
    ∃ serving, start.replay events = .ok serving ∧
      (serving.intake.remembered.map Prod.fst).Nodup ∧
      (serving.intake.remembered.length : Int) ≤ max limit 0 ∧
      (serving.intake.remembered.map Prod.snd).Pairwise (· < ·) ∧
      (∀ slot key order, serving.waiting[slot]? = some (some key) →
        (key, order) ∈ serving.intake.remembered →
        serving.resume slot = .ok (some (.accepted order (some key)),
          { serving with waiting := serving.waiting.eraseIdx slot })) ∧
      (∀ slot key, serving.waiting[slot]? = some (some key) →
        key ∉ serving.intake.remembered.map Prod.fst →
        serving.resume slot = .ok (some (.accepted (serving.intake.orders + 1) (some key)),
          { intake :=
              { serving.intake with
                remembered :=
                  if limit < ((serving.intake.remembered.length + 1 : Nat) : Int) then
                    (serving.intake.remembered ++ [(key, serving.intake.orders + 1)]).tail
                  else serving.intake.remembered ++ [(key, serving.intake.orders + 1)],
                orders := serving.intake.orders + 1 },
            waiting := serving.waiting.eraseIdx slot })) ∧
      (∀ slot, serving.waiting[slot]? = some none →
        serving.resume slot = .ok (some (.accepted (serving.intake.orders + 1) none),
          { intake := { serving.intake with orders := serving.intake.orders + 1 },
            waiting := serving.waiting.eraseIdx slot })) ∧
      (∀ front key order later after, serving.intake.remembered = front ++ [(key, order)] →
        serving.replay later = .ok after →
        ((Serving.collect Serving.freshBy serving later).length : Int) < limit →
        (key, order) ∈ after.intake.remembered) ∧
      (∀ key order later after, (key, order) ∈ serving.intake.remembered →
        serving.replay later = .ok after →
        (∀ n mid, serving.replay (later.take n) = .ok mid → key ∈ mid.intake.remembered.map Prod.fst) →
        (key, order) ∈ after.intake.remembered) := by
  intro start
  have limited : start.intake.settings.keyLimit = .int limit := rfl
  obtain ⟨serving, ran⟩ := Serving.replay_ok limited events
  -- the settings never change, and the intake starts with nothing remembered
  have settings := Serving.settings_replay limited ran
  have limited' : serving.intake.settings.keyLimit = .int limit := by rw [settings]
  have steady : serving.intake.settings.failing = false := by rw [settings]
  have started : Intake.StoreSound limit start.intake :=
    ⟨by simp [start], by show (0 : Int) ≤ max limit 0; omega, by simp [start], by simp [start]⟩
  have sound := Serving.storeSound_replay limited started ran
  refine ⟨serving, ran, sound.distinct, sound.bounded, sound.ordered, ?_, ?_, ?_, ?_, ?_⟩
  · intro slot key order waiting member
    exact Serving.resume_of_waiting waiting (Intake.resume_remembered steady sound.distinct member)
  · intro slot key waiting absent
    exact Serving.resume_of_waiting waiting (Intake.resume_fresh steady limited' absent)
  · intro slot waiting
    exact Serving.resume_of_waiting waiting (Intake.resume_keyless steady)
  · intro front key order later after newest ranLater few
    have newestEntry : serving.intake.remembered = front ++ (key, order) :: [] := newest
    exact Serving.remembered_while_few_fresh limited' ranLater newestEntry (by simpa using few)
  · intro key order later after member ranLater kept
    exact Serving.remembered_while_kept limited' sound ranLater member kept

end LoadHarness
