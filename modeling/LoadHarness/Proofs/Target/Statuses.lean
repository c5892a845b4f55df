import LoadHarness.Proofs.Target.Acceptances

/-!
# The order in which the intake answers

A submission meets the intake's checks in a fixed order, and only an
acceptance can touch the keys the intake remembers:

* a body that cannot be read is answered 400, and one that holds no order
  422; a refusal whose issues carry an infinite or NaN double cannot be
  written as JSON, and the request fails instead;
* then a submission without the API key the intake demands is answered 401;
* then a failing intake answers 500;
* anything else is answered 200.

Every answer but 200 leaves the intake exactly as it was.  The remembered
keys change only when a submission under a key not yet remembered is
accepted, so a failing intake keeps its keys, none if it started with none,
whatever it is sent and in whatever order its submissions resume.
-/

namespace LoadHarness

namespace IntakeSettings

/-- The API key check refuses a header exactly when a key is demanded and the
header does not carry it; a demanded key that is not text is carried by no header. -/
theorem admits_eq_false_iff (settings : IntakeSettings) (apiKey : Option String) :
    settings.admits apiKey = false ↔
      ∃ demanded, settings.apiKey = some demanded ∧ apiKey.map Value.str ≠ some demanded := by
  unfold admits
  cases settings.apiKey with
  | none => simp
  | some demanded =>
      cases demanded with
      | str key => cases apiKey <;> simp
      | _ => simp

end IntakeSettings

namespace Intake

variable {intake : Intake} {body : Body} {key apiKey : Option String}

theorem refusal_of_unreadable (unreadable : readBody body = .error .unreadable) :
    refusal intake.settings body apiKey = some .unreadable := by
  simp [refusal, unreadable]

theorem refusal_of_issues {found : List Issue} (invalid : readBody body = .error (.issues found)) :
    refusal intake.settings body apiKey = some (.invalid found) := by
  simp [refusal, invalid]

theorem refusal_of_order {order : Order} (read : readBody body = .ok order) :
    refusal intake.settings body apiKey =
      if intake.settings.admits apiKey then none else some .unauthorized := by
  cases admitted : intake.settings.admits apiKey <;> simp [refusal, read, admitted]

/-- A refused submission is answered with its refusal, which leaves the intake
as it was, unless the refusal cannot be written. -/
theorem submit_of_refusal {refused : IntakeReply}
    (refusing : refusal intake.settings body apiKey = some refused) :
    intake.submit body key apiKey =
      if writable refused then .ok (refused, intake) else .error .notJsonCompliant := by
  simp only [submit, reply, refusing, bind, Except.bind]
  split <;> rfl

/-- What the handler does once a submission has passed the body and key
checks: a failing intake refuses it and changes nothing; otherwise it is
accepted, and the remembered keys change only when its key is new. -/
theorem resume_cases {limit : Int} (limited : intake.settings.keyLimit = .int limit) (key : Option String) :
    (intake.settings.failing = true ∧ intake.resume key = .ok (.failed, intake)) ∨
    (intake.settings.failing = false ∧ ∃ order after,
      intake.resume key = .ok (.accepted order key, after) ∧
      (after.remembered = intake.remembered ∨ ∃ fresh, key = some fresh ∧ fresh ∉ intake.remembered.map Prod.fst)) := by
  cases failing : intake.settings.failing with
  | true => exact .inl ⟨rfl, by simp [resume, failing]⟩
  | false =>
      refine .inr ⟨rfl, ?_⟩
      cases key with
      | none => exact ⟨_, _, resume_keyless failing, .inl rfl⟩
      | some key =>
          by_cases remembered : key ∈ intake.remembered.map Prod.fst
          · obtain ⟨order, again⟩ := resume_of_mem failing remembered
            exact ⟨order, intake, again, .inl rfl⟩
          · exact ⟨_, _, resume_fresh failing limited remembered, .inr ⟨key, rfl, remembered⟩⟩

theorem writable_of_resume {limit : Int} (limited : intake.settings.keyLimit = .int limit)
    {answer : IntakeReply} {after : Intake} (resumed : intake.resume key = .ok (answer, after)) :
    writable answer = true := by
  rcases resume_cases limited key with ⟨-, failed⟩ | ⟨-, order, accepted, same, -⟩
  · rw [failed] at resumed
    obtain ⟨rfl, -⟩ := Prod.mk.inj (Except.ok.inj resumed)
    rfl
  · rw [same] at resumed
    obtain ⟨rfl, -⟩ := Prod.mk.inj (Except.ok.inj resumed)
    rfl

/-- A submission that passes the body and key checks is answered as the
handler resumes it. -/
theorem submit_of_admitted {limit : Int} (limited : intake.settings.keyLimit = .int limit)
    (passing : refusal intake.settings body apiKey = none) :
    intake.submit body key apiKey = intake.resume key := by
  simp only [submit, reply, passing, bind, Except.bind]
  cases resumed : intake.resume key with
  | error failure => rfl
  | ok result =>
      obtain ⟨answer, after⟩ := result
      simp [writable_of_resume limited resumed, pure, Except.pure]

/-- Every answer but 200 leaves the intake exactly as it was; an answer that
changes the remembered keys accepts a submission under a key not remembered. -/
theorem submit_frame {limit : Int} (limited : intake.settings.keyLimit = .int limit)
    {answer : IntakeReply} {after : Intake} (answered : intake.submit body key apiKey = .ok (answer, after)) :
    (answer.status ≠ 200 → after = intake) ∧
    (after.remembered ≠ intake.remembered →
      answer.status = 200 ∧ ∃ fresh, key = some fresh ∧ fresh ∉ intake.remembered.map Prod.fst) := by
  cases refusing : refusal intake.settings body apiKey with
  | some refused =>
      -- a refusal that is answered at all is answered with the intake unchanged
      rw [submit_of_refusal refusing] at answered
      split at answered
      · obtain ⟨-, rfl⟩ := Prod.mk.inj (Except.ok.inj answered)
        exact ⟨fun _ => rfl, fun changed => absurd rfl changed⟩
      · cases answered
  | none =>
      rw [submit_of_admitted limited refusing] at answered
      rcases resume_cases limited key with ⟨-, failed⟩ | ⟨-, order, accepted, same, kept⟩
      · rw [failed] at answered
        obtain ⟨-, rfl⟩ := Prod.mk.inj (Except.ok.inj answered)
        exact ⟨fun _ => rfl, fun changed => absurd rfl changed⟩
      · rw [same] at answered
        obtain ⟨rfl, rfl⟩ := Prod.mk.inj (Except.ok.inj answered)
        refine ⟨fun refused => absurd rfl refused, fun changed => ⟨rfl, ?_⟩⟩
        rcases kept with unchanged | fresh
        · exact absurd unchanged changed
        · exact fresh

end Intake

namespace Serving

variable {serving : Serving}

/-- At a failing intake no event changes the intake: a submission is refused
or waits, and a resumed one is refused. -/
theorem apply_failing (failing : serving.intake.settings.failing = true) (event : ServingEvent) :
    ∃ answer next, serving.apply event = .ok (answer, next) ∧ next.intake = serving.intake := by
  cases event with
  | submit body key apiKey =>
      refine ⟨_, _, rfl, ?_⟩
      -- a submission is answered at once or waits; the intake is untouched either way
      split <;> rfl
  | resume slot =>
      cases waiting : serving.waiting[slot]? with
      | none => exact ⟨none, serving, by simp [apply, resume, waiting], rfl⟩
      | some key =>
          have refused : serving.intake.resume key = .ok (.failed, serving.intake) := by
            simp [Intake.resume, failing]
          exact ⟨_, _, resume_of_waiting waiting refused, rfl⟩

theorem replay_failing (failing : serving.intake.settings.failing = true) (events : List ServingEvent) :
    ∃ after, serving.replay events = .ok after ∧ after.intake = serving.intake := by
  induction events generalizing serving with
  | nil => exact ⟨serving, rfl, rfl⟩
  | cons event rest induction =>
      obtain ⟨answer, next, step, same⟩ := apply_failing failing event
      obtain ⟨after, ran, kept⟩ := induction (same ▸ failing : next.intake.settings.failing = true)
      exact ⟨after, replay_cons_eq_ok.mpr ⟨answer, next, step, ran⟩, kept.trans same⟩

end Serving

/-- The order in which an intake with a whole-number key limit answers a
submission, whatever it remembers: a body that cannot be read is answered 400
and one that holds no order 422 (unless the refusal cannot be written, when the
request fails); then a submission without the demanded API key 401; then a
failing intake 500; and anything else 200.  Every answer but 200 leaves the
intake as it was, an answer that changes the remembered keys accepts a key not
remembered, and a failing intake keeps its remembered keys through every run
of submissions. -/
theorem submission_answered_in_order {limit : Int} (intake : Intake) (body : Body)
    (key apiKey : Option String) (limited : intake.settings.keyLimit = .int limit) :
    (Intake.readBody body = .error .unreadable →
      intake.submit body key apiKey = .ok (.unreadable, intake)) ∧
    (∀ found, Intake.readBody body = .error (.issues found) →
      intake.submit body key apiKey =
        if Intake.writable (.invalid found) then .ok (.invalid found, intake) else .error .notJsonCompliant) ∧
    (∀ order, Intake.readBody body = .ok order →
      (∃ demanded, intake.settings.apiKey = some demanded ∧ apiKey.map Value.str ≠ some demanded) →
      intake.submit body key apiKey = .ok (.unauthorized, intake)) ∧
    (∀ order, Intake.readBody body = .ok order → intake.settings.admits apiKey = true →
      intake.settings.failing = true → intake.submit body key apiKey = .ok (.failed, intake)) ∧
    (∀ order, Intake.readBody body = .ok order → intake.settings.admits apiKey = true →
      intake.settings.failing = false →
      ∃ answer after, intake.submit body key apiKey = .ok (answer, after) ∧ answer.status = 200) ∧
    (∀ answer after, intake.submit body key apiKey = .ok (answer, after) →
      (answer.status ≠ 200 → after = intake) ∧
      (after.remembered ≠ intake.remembered →
        answer.status = 200 ∧ ∃ fresh, key = some fresh ∧ fresh ∉ intake.remembered.map Prod.fst)) ∧
    (intake.settings.failing = true → ∀ events : List ServingEvent,
      ∃ after, Serving.replay { intake := intake } events = .ok after ∧
        after.intake.remembered = intake.remembered) := by
  refine ⟨fun unreadable => ?_, fun found invalid => ?_, fun order read refused => ?_,
    fun order read admitted failing => ?_, fun order read admitted steady => ?_,
    fun answer after answered => Intake.submit_frame limited answered, fun failing events => ?_⟩
  · rw [Intake.submit_of_refusal (Intake.refusal_of_unreadable unreadable)]
    rfl
  · exact Intake.submit_of_refusal (Intake.refusal_of_issues invalid)
  · have locked := (IntakeSettings.admits_eq_false_iff _ _).mpr refused
    rw [Intake.submit_of_refusal (by rw [Intake.refusal_of_order read, locked]; rfl)]
    rfl
  · have passing : Intake.refusal intake.settings body apiKey = none := by
      rw [Intake.refusal_of_order read, admitted]; rfl
    rw [Intake.submit_of_admitted limited passing]
    simp [Intake.resume, failing]
  · have passing : Intake.refusal intake.settings body apiKey = none := by
      rw [Intake.refusal_of_order read, admitted]; rfl
    rw [Intake.submit_of_admitted limited passing]
    rcases Intake.resume_cases limited key with ⟨failing, -⟩ | ⟨-, order, after, accepted, -⟩
    · exact absurd failing (by simp [steady])
    · exact ⟨_, _, accepted, rfl⟩
  · have started : ({ intake := intake } : Serving).intake.settings.failing = true := failing
    obtain ⟨after, ran, same⟩ := Serving.replay_failing started events
    exact ⟨after, ran, congrArg Intake.remembered same⟩

/-- An empty body at an intake remembering at most two keys is answered 422,
under any headers. -/
theorem submission_answered_in_order_empty_body :
    (⟨{ keyLimit := .int 2 }, [], 0⟩ : Intake).settings.keyLimit = .int 2 ∧
      (⟨{ keyLimit := .int 2 }, [], 0⟩ : Intake).submit .empty none none =
        .ok (.invalid [⟨.missing, [.key "body"], .null⟩], ⟨{ keyLimit := .int 2 }, [], 0⟩) :=
  ⟨rfl, (submission_answered_in_order (⟨{ keyLimit := .int 2 }, [], 0⟩ : Intake) .empty none none rfl).2.1
    [⟨.missing, [.key "body"], .null⟩] rfl⟩

/-- Five bytes that start like UTF-16 but stop halfway through a code unit hold
no order, and are answered 400, as a body that cannot be read, not 422. -/
theorem truncated_utf16_body_is_unreadable :
    (Intake.readBody (.text "\x00a\x00b\x00")).toOption.isNone = true ∧
      ((⟨{}, [], 0⟩ : Intake).submit (.text "\x00a\x00b\x00") none none).toOption.map
        (fun answer => answer.1.status) = some 400 := by
  decide +kernel

end LoadHarness
