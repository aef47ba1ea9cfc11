import TokenBank.Scheduler.System

/-!
# Stored results

Two properties of the results a worker hands in. An assignment owns at most one
stored result as long as no submission is let through for an assignment that owns
one already: nothing in the code stops it, except that a worker's own envelope
cannot be stored twice under its id. And the rows written for a result agree with
its stored status unless a timely envelope reports anything but success: a timely
result completes its assignment whatever the envelope says.
-/

namespace TokenBank

namespace Results

/-! ## One result per assignment -/

/-- No two stored results belong to the same assignment. -/
def OneEach (db : Db) : Prop := db.resultEnvelopes.Unique ResultEnvelopeRow.assignmentId

/-- A submission about to be stored is the first for its assignment, or its result
id is stored already and it is refused for it. -/
def SubmitsOnce (platform : Platform) : SchedulerOp → List Db → Db → Prop
  | .submitResult draws submission, _, store =>
    ∀ envelope ∈ (Scheduler.coerceResultEnvelope platform submission.resultEnvelope).toOption,
      (∀ entry ∈ store.resultEnvelopes.entries, entry.2.assignmentId ≠ submission.assignmentId) ∨
        store.resultEnvelopes.find? (Scheduler.resultId draws envelope) ≠ none
  | _, _, _ => True

instance (platform : Platform) : (op : SchedulerOp) → (seen : List Db) → (store : Db) →
    Decidable (SubmitsOnce platform op seen store)
  | .submitResult draws submission, _, store =>
    inferInstanceAs (Decidable (∀ envelope ∈
        (Scheduler.coerceResultEnvelope platform submission.resultEnvelope).toOption,
      (∀ entry ∈ store.resultEnvelopes.entries, entry.2.assignmentId ≠ submission.assignmentId) ∨
        store.resultEnvelopes.find? (Scheduler.resultId draws envelope) ≠ none))
  | .createAttempt .., _, _ => .isTrue trivial
  | .createAssignment .., _, _ => .isTrue trivial
  | .assignNextWork .., _, _ => .isTrue trivial
  | .acceptAssignment .., _, _ => .isTrue trivial
  | .rejectAssignment .., _, _ => .isTrue trivial
  | .progressAssignment .., _, _ => .isTrue trivial
  | .scheduleRetry .., _, _ => .isTrue trivial
  | .scheduleFallback .., _, _ => .isTrue trivial
  | .sweepExpiredLeases .., _, _ => .isTrue trivial

/-- Performing a plan that stores no second result keeps one result each.

Only a submission files a result. It is filed under an absent id, so that by
assumption no stored result belongs to its assignment. -/
theorem performed_oneEach {platform : Platform} {seen : List Db} {store after : Db}
    {op : SchedulerOp} {plan : Plan} {reply : Reply}
    (planned : SchedulerOp.Planned platform seen op plan)
    (performed : Performed platform store plan reply after)
    (writing : after ≠ store → SubmitsOnce platform op seen store) (one : OneEach store) :
    OneEach after := by
  apply one.grow after.resultEnvelopes plan.newResult (fun _ row => row)
  · intro key
    rw [performed.resultEnvelopes key, Option.map_id']
  · intro key row
    rfl
  · intro left right leftRow rightRow newLeft newRight
    cases plan with
    | submit draws assignmentId assignment late result =>
      simp only [Plan.newResult, Option.ite_none_right_eq_some] at newLeft newRight
      exact newLeft.1.trans newRight.1.symm
    | _ => cases newLeft
  · intro key row filed other stored read
    have absent := performed.newResult_absent key row filed
    have changed : after ≠ store := by
      rintro rfl
      have found := performed.resultEnvelopes key
      rw [filed, absent] at found
      cases found
    cases planned with
    | submit draws submission before attempted looked assignment attempt envelope saw admitted =>
      simp only [Plan.newResult, Option.ite_none_right_eq_some, Option.some.injEq,
        Scheduler.submittedResult_id] at filed
      obtain ⟨rfl, rfl⟩ := filed
      have coerced := (SchedulerOp.toOption_some_iff _ _).mpr
        (Scheduler.coerced_of_accepted _ _ _ _ _ admitted.accepted)
      have first := (writing changed envelope coerced).resolve_right (fun present => present absent)
      exact first (other, stored) ((Store.Table.mem_entries_iff _ _ _).mpr read)
    | _ => cases filed

/-- Every assignment owns at most one stored result after every interleaving of
scheduler calls in which no submission stores a second one. -/
theorem one_result_per_assignment (platform : Platform) (initial : Db) (fresh : Fresh initial)
    (moves : List SchedulerMove)
    (once : Store.Along (Scheduler.move platform) (Store.Pool.AtWrites (SubmitsOnce platform))
      (Store.Pool.idle initial) moves) :
    OneEach (Scheduler.interleaved platform initial moves).store := by
  apply Scheduler.invariant_along platform (fun db _ => OneEach db) (SubmitsOnce platform) initial
    fresh.wellFormed (Store.Table.unique_of_entries_nil _ _ fresh.results) _ moves once
  intro op seen store plan reply after replies _ _ planned performed writing one
  exact performed_oneEach (op.plan_some platform seen plan planned) performed writing one

/-- A worker that submits its envelope, and submits it again after the first reply
got lost: the second submission is refused, and one result is stored. -/
theorem one_result_resubmitted :
    OneEach (Scheduler.interleaved Scenario.platform Scenario.db (Scenario.oneByOne
      [Scenario.createAttempt 0, Scenario.assignNextWork 1, Scenario.accept 2 1 0,
        Scenario.submitEnvelope 3 0 1 2 "res_a" .succeeded,
        Scenario.submitEnvelope 4 0 1 2 "res_a" .succeeded])).store :=
  one_result_per_assignment Scenario.platform Scenario.db Scenario.db_fresh _ (by decide +kernel)

/-- A worker that submits its envelope and then replays its spool, because the
reply never arrived: two results are stored for its one assignment. -/
theorem replayed_result_stored_twice :
    ((Scheduler.interleaved Scenario.platform Scenario.db (Scenario.oneByOne
      [Scenario.createAttempt 0, Scenario.assignNextWork 1, Scenario.accept 2 1 0,
        Scenario.submitEnvelope 3 0 1 2 "res_a" .succeeded,
        Scenario.replay 4 1 2])).store.resultEnvelopes.entries.map
          (fun entry => entry.2.assignmentId)) =
      [Scenario.assignmentId 1, Scenario.assignmentId 1] := by
  decide +kernel

/-! ## Agreement of the written rows -/

/-- The rows written for a result agree with the status stored for it. Success and
quarantine are each reported by the envelope exactly when the other rows say so,
and a failure sets neither the attempt nor the work unit to succeeded. -/
def Agrees (before after : Db) (resultEnvelopeId : String) : Prop :=
  ∃ result assignment attempt workUnit,
    after.resultEnvelopes.find? resultEnvelopeId = some result ∧
    after.assignments.find? result.assignmentId = some assignment ∧
    after.executionAttempts.find? result.attemptId = some attempt ∧
    after.workUnits.find? result.workUnitId = some workUnit ∧
    (result.status = .succeeded ↔ assignment.status = .completed ∧
      attempt.status = .succeeded ∧ workUnit.status = .succeeded) ∧
    (result.status = .quarantined ↔ assignment.status = .quarantined ∧
      attempt.status = .quarantined ∧
      ∃ key row, after.resultQuarantine.find? key = some row ∧
        row.resultEnvelopeId = some resultEnvelopeId) ∧
    (result.status = .failed →
      (attempt.status = .succeeded →
        (before.executionAttempts.find? result.attemptId).map AttemptRow.status =
          some .succeeded) ∧
      (workUnit.status = .succeeded →
        (before.workUnits.find? result.workUnitId).map WorkUnitRow.status = some .succeeded))

/-- A submission to an assignment is late, or brings no envelope, or brings one
that reports success. -/
def LateOrSucceeded (platform : Platform) (db : Db) (submission : Scheduler.Submission) : Prop :=
  ∀ row ∈ db.assignments.find? submission.assignmentId,
    ∀ attempt ∈ db.executionAttempts.find? row.attemptId,
    ∀ envelope ∈ (Scheduler.coerceResultEnvelope platform submission.resultEnvelope).toOption,
    Scheduler.newerAttemptExists db attempt.workUnitId attempt.attemptNumber = true ∨
      ∀ given ∈ envelope, given.status = .succeeded
  deriving Decidable

/-- The status stored for a result: quarantined if it is late, else the envelope's,
else success. -/
theorem submittedResult_status (platform : Platform) (draws : Draws) (assignmentId : String)
    (assignment : AssignmentRow) (output : JsonObject) (late : Bool)
    (envelope : Option WorkUnitResultEnvelope) :
    (Scheduler.submittedResult platform draws assignmentId assignment output late envelope).status =
      if late then .quarantined else envelope.elim .succeeded WorkUnitResultEnvelope.status := by
  cases envelope <;> cases late <;> rfl

/-- For an admitted submission the condition speaks of what it was admitted with. -/
theorem lateOrSucceeded_iff (platform : Platform) (db : Db) (submission : Scheduler.Submission)
    (row : AssignmentRow) (attempt : AttemptRow) (envelope : Option WorkUnitResultEnvelope)
    (admitted : SchedulerOp.Admitted platform submission db db row attempt envelope) :
    LateOrSucceeded platform db submission ↔
      Scheduler.newerAttemptExists db attempt.workUnitId attempt.attemptNumber = true ∨
        envelope.elim .succeeded WorkUnitResultEnvelope.status = .succeeded := by
  have found := ((Scheduler.assignmentForWorker_ok_iff _ _ _ _).mp admitted.found).1
  have attempted := (Scheduler.attempt_ok_iff _ _ _).mp admitted.attempt
  have coerced := Scheduler.coerced_of_accepted _ _ _ _ _ admitted.accepted
  have reported : (∀ given ∈ envelope, given.status = .succeeded) ↔
      envelope.elim .succeeded WorkUnitResultEnvelope.status = .succeeded := by
    cases envelope <;> simp
  simp only [LateOrSucceeded, found, Option.mem_def, Option.some.injEq, forall_eq', attempted,
    coerced, Except.toOption, ← reported]

/-- The rows a submission leaves for its result. The result names the assignment,
its attempt and its work unit; the statuses of these are set by lateness alone. -/
theorem submitted_rows {platform : Platform} {db after : Db} {draws : Draws}
    {assignmentId : String} {assignment : AssignmentRow} {late : Bool}
    {result : Scheduler.SubmittedResult} {reply : Reply} (wellFormed : WellFormed db)
    (performed : Performed platform db (.submit draws assignmentId assignment late result) reply
      after) (found : db.assignments.find? assignmentId = some assignment) :
    ∃ stored attempt workUnit,
      after.resultEnvelopes.find? result.resultEnvelopeId =
        some (Scheduler.resultEnvelopeRow draws assignmentId assignment result) ∧
      after.assignments.find? assignmentId = some stored ∧
      after.executionAttempts.find? assignment.attemptId = some attempt ∧
      after.workUnits.find? assignment.workUnitId = some workUnit ∧
      stored.status = (if late then .quarantined else .completed) ∧
      attempt.status = (if late then .quarantined else .succeeded) ∧
      (late = false → workUnit.status = .succeeded) ∧
      (late = true → ∃ key row, after.resultQuarantine.find? key = some row ∧
        row.resultEnvelopeId = some result.resultEnvelopeId) := by
  obtain ⟨attempt, attempted, sameUnit⟩ := wellFormed.assignments assignmentId assignment found
  obtain ⟨workUnit, present⟩ :=
    Option.isSome_iff_exists.mp (sameUnit ▸ wellFormed.attempts _ attempt attempted)
  refine ⟨_, _, _, ?_, performed.assignment_kept assignmentId assignment found,
    performed.attempt_kept _ attempt attempted,
    (performed.workUnits _).trans (congrArg _ present), ?_, ?_, ?_, ?_⟩
  · rw [performed.resultEnvelopes]
    simp [Plan.newResult]
  · cases late <;> simp [Plan.assignmentAfter, Scheduler.completeRow]
  · cases late <;> simp [Plan.attemptAfter, Scheduler.endAttempt]
  · rintro rfl
    simp [Plan.workUnitAfter]
  · rintro rfl
    refine ⟨"quar_" ++ draws.uuid 1, Scheduler.quarantineRow draws assignmentId assignment result,
      ?_, rfl⟩
    rw [performed.resultQuarantine]
    simp [Plan.newQuarantine]

/-- In every reachable database, the rows a submission leaves agree with the status
it stores exactly when it is late or nothing but success is reported.

A late result is stored as quarantined and quarantines all its rows. A timely one
completes its assignment and makes the attempt and the work unit succeed, so that
only a stored success agrees with them. -/
theorem submission_agrees_iff (platform : Platform) (db : Db) (reachable : Reachable platform db)
    (draws : Draws) (submission : Scheduler.Submission) (reply : Scheduler.SubmissionReply)
    (returned : (Scheduler.runAlone platform (.submitResult draws submission) db).1 =
      .ok (.submission reply)) :
    Agrees db (Scheduler.step platform db (.submitResult draws submission))
        reply.resultEnvelopeId ↔
      LateOrSucceeded platform db submission := by
  obtain ⟨plan, planned, performed⟩ := (Scheduler.runAlone_ok_iff platform _ db
    (Scheduler.step platform db (.submitResult draws submission)) _ reachable.wellFormed).mp
      (Prod.ext returned rfl)
  generalize Scheduler.step platform db (.submitResult draws submission) = after at performed ⊢
  obtain ⟨read, attempted, looked, assignment, attempt, envelope, saw, admitted, rfl⟩ :=
    (SchedulerOp.submitPlan_some_iff platform draws submission [db, db, db] plan).mp planned
  obtain ⟨rfl, rfl, rfl⟩ : db = read ∧ db = attempted ∧ db = looked := by simpa using saw
  rw [lateOrSucceeded_iff platform db submission assignment attempt envelope admitted]
  have found := ((Scheduler.assignmentForWorker_ok_iff _ _ _ _).mp admitted.found).1
  generalize lateness :
    Scheduler.newerAttemptExists db attempt.workUnitId attempt.attemptNumber = late at performed ⊢
  have stored_status := submittedResult_status platform draws submission.assignmentId assignment
    submission.output late envelope
  obtain ⟨stored, ended, workUnit, result_found, stored_found, ended_found, unit_found,
    stored_is, ended_is, unit_is, quarantine_is⟩ :=
      submitted_rows reachable.wellFormed performed found
  have reply_id : reply.resultEnvelopeId = (Scheduler.submittedResult platform draws
      submission.assignmentId assignment submission.output late envelope).resultEnvelopeId := by
    cases performed
    rfl
  rw [← reply_id] at result_found quarantine_is
  constructor
  · rintro ⟨_, _, _, _, readResult, readStored, readEnded, readUnit, succeeded_iff, -, -⟩
    have same_result := Option.some.inj (result_found.symm.trans readResult)
    subst same_result
    have same_assignment := Option.some.inj (stored_found.symm.trans readStored)
    subst same_assignment
    have same_attempt := Option.some.inj (ended_found.symm.trans readEnded)
    subst same_attempt
    have same_work_unit := Option.some.inj (unit_found.symm.trans readUnit)
    subst same_work_unit
    cases late with
    | true => exact Or.inl rfl
    | false =>
      have success := succeeded_iff.mpr ⟨stored_is, ended_is, unit_is rfl⟩
      exact Or.inr (stored_status.symm.trans success)
  · intro allowed
    refine ⟨_, stored, ended, workUnit, result_found, stored_found, ended_found, unit_found, ?_⟩
    simp only [Scheduler.resultEnvelopeRow, stored_status]
    cases late with
    | true =>
      simp only [if_true] at stored_is ended_is ⊢
      simp only [stored_is, ended_is, reduceCtorEq, false_and, iff_self, false_implies, true_and,
        true_iff, and_true]
      exact quarantine_is rfl
    | false =>
      have success := allowed.resolve_left Bool.false_ne_true
      simp only [Bool.false_eq_true, if_false] at stored_is ended_is ⊢
      simp [success, stored_is, ended_is, unit_is rfl]

/-- The calls up to an accepted assignment. -/
def accepting : List SchedulerOp :=
  [Scenario.createAttempt 0, Scenario.assignNextWork 1, Scenario.accept 2 1 0]

/-- A timely success agrees with everything written for it. -/
theorem success_agrees :
    Agrees (Store.run (Scheduler.step Scenario.platform) Scenario.db accepting)
      (Scheduler.step Scenario.platform
        (Store.run (Scheduler.step Scenario.platform) Scenario.db accepting)
        (Scenario.submitEnvelope 3 0 1 2 "res_a" .succeeded)) "res_a" := by
  have reachable : Reachable Scenario.platform
      (Store.run (Scheduler.step Scenario.platform) Scenario.db accepting) :=
    (Reachable.fresh Scenario.db_fresh).run accepting
  exact (submission_agrees_iff Scenario.platform _ reachable _ _
    ⟨.succeeded, "res_a", "sha256:output", "sha256:result"⟩ (by decide +kernel)).mpr
      (by decide +kernel)

/-- A timely envelope that reports a failure is stored as failed, while its
assignment is completed and its attempt and work unit succeed. -/
theorem failure_completes :
    let after := Store.run (Scheduler.step Scenario.platform) Scenario.db
      (accepting ++ [Scenario.submitEnvelope 3 0 1 2 "res_a" .failed])
    (after.resultEnvelopes.find? "res_a").map ResultEnvelopeRow.status = some .failed ∧
      (after.assignments.find? (Scenario.assignmentId 1)).map AssignmentRow.status =
        some .completed ∧
      (after.executionAttempts.find? (Scenario.attemptId 0)).map AttemptRow.status =
        some .succeeded ∧
      (after.workUnits.find? "wu_1").map WorkUnitRow.status = some .succeeded := by
  decide +kernel

end Results

end TokenBank
