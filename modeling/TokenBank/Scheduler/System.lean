import TokenBank.Scheduler.Rows
import TokenBank.Store.Discipline

/-!
# The scheduler as a system of interleaved calls

Any number of calls run against one database, each on a connection of its own.
Every call obeys one specification: it performs the plan its reads settled, or it
raises and leaves the database as it is. What a call may assume about the
database between its reads and its transaction is that references resolve and
that rows, once there, stay and keep their identity.

A database is reachable when some interleaving of calls leads to it from one that
has no attempts, assignments and results yet. Calls that run one at a time are a
special case.
-/

namespace TokenBank

/-- References between the scheduler's rows resolve, and an assignment names the
work unit of its attempt. -/
structure WellFormed (db : Db) : Prop where
  attempts : ∀ key row, db.executionAttempts.find? key = some row →
    (db.workUnits.find? row.workUnitId).isSome = true
  assignments : ∀ key row, db.assignments.find? key = some row →
    ∃ attempt, db.executionAttempts.find? row.attemptId = some attempt ∧
      attempt.workUnitId = row.workUnitId

/-- Rows stay, with the identity they were created with. -/
structure Evolves (before after : Db) : Prop where
  workUnits : ∀ key, (before.workUnits.find? key).isSome = true →
    (after.workUnits.find? key).isSome = true
  attempts : ∀ key row, before.executionAttempts.find? key = some row →
    ∃ later, after.executionAttempts.find? key = some later ∧
      later.workUnitId = row.workUnitId ∧ later.attemptNumber = row.attemptNumber
  assignments : ∀ key row, before.assignments.find? key = some row →
    ∃ later, after.assignments.find? key = some later ∧ later.attemptId = row.attemptId ∧
      later.workUnitId = row.workUnitId ∧ later.workerId = row.workerId

namespace Evolves

/-- Nothing has happened yet. -/
theorem refl (db : Db) : Evolves db db where
  workUnits _ present := present
  attempts _ row found := ⟨row, found, rfl, rfl⟩
  assignments _ row found := ⟨row, found, rfl, rfl, rfl⟩

/-- What happened in two stages. -/
theorem trans (first second third : Db) (earlier : Evolves first second)
    (later : Evolves second third) : Evolves first third where
  workUnits key present := later.workUnits key (earlier.workUnits key present)
  attempts key row found := by
    obtain ⟨middle, foundMiddle, sameUnit, sameNumber⟩ := earlier.attempts key row found
    obtain ⟨last, foundLast, lastUnit, lastNumber⟩ := later.attempts key middle foundMiddle
    exact ⟨last, foundLast, lastUnit.trans sameUnit, lastNumber.trans sameNumber⟩
  assignments key row found := by
    obtain ⟨middle, foundMiddle, sameAttempt, sameUnit, sameWorker⟩ :=
      earlier.assignments key row found
    obtain ⟨last, foundLast, lastAttempt, lastUnit, lastWorker⟩ :=
      later.assignments key middle foundMiddle
    exact ⟨last, foundLast, lastAttempt.trans sameAttempt, lastUnit.trans sameUnit,
      lastWorker.trans sameWorker⟩

end Evolves

/-- Performing any plan only evolves the database. -/
theorem Performed.evolves {platform : Platform} {store after : Db} {plan : Plan} {reply : Reply}
    (performed : Performed platform store plan reply after) : Evolves store after where
  workUnits key present := by
    rw [performed.workUnits key, Option.isSome_map]
    exact present
  attempts key row found := by
    obtain ⟨sameUnit, sameNumber⟩ := plan.attemptAfter_identity key row
    exact ⟨_, performed.attempt_kept key row found, sameUnit, sameNumber⟩
  assignments key row found :=
    ⟨_, performed.assignment_kept key row found, plan.assignmentAfter_identity platform key row⟩

/-- Performing a plan keeps references resolved. Only a new assignment needs more
than that rows stay: the work unit it names must be that of its attempt. -/
theorem Performed.wellFormed {platform : Platform} {store after : Db} {plan : Plan} {reply : Reply}
    (performed : Performed platform store plan reply after) (wellFormed : WellFormed store)
    (named : ∀ draws request workUnitId, plan = .insertAssignment draws request workUnitId →
      ∃ attempt, store.executionAttempts.find? request.attemptId = some attempt ∧
        attempt.workUnitId = workUnitId) : WellFormed after where
  attempts key row found := by
    apply performed.evolves.workUnits
    rcases performed.attempt_origin key row found with
      ⟨earlier, read, rfl⟩ | ⟨-, filed⟩
    · rw [(plan.attemptAfter_identity key earlier).1]
      exact wellFormed.attempts key earlier read
    · cases performed with
      | insertAttempt _ _ _ _ _ _ _ after inserted =>
        obtain ⟨attempts, outbox, references, stored, events⟩ := inserted
        simp only [Plan.newAttempt, Option.ite_none_right_eq_some, Option.some.injEq] at filed
        obtain ⟨-, rfl⟩ := filed
        simp only [Scheduler.attemptReferences, Bool.and_eq_true] at references
        exact references.1.1
      | _ => simp [Plan.newAttempt] at filed
  assignments key row found := by
    have persists (attemptId workUnitId : String)
        (present : ∃ attempt, store.executionAttempts.find? attemptId = some attempt ∧
          attempt.workUnitId = workUnitId) :
        ∃ attempt, after.executionAttempts.find? attemptId = some attempt ∧
          attempt.workUnitId = workUnitId := by
      obtain ⟨attempt, read, same⟩ := present
      obtain ⟨later, readLater, sameUnit, -⟩ := performed.evolves.attempts attemptId attempt read
      exact ⟨later, readLater, sameUnit.trans same⟩
    rcases performed.assignment_origin key row found with
      ⟨earlier, read, rfl⟩ | ⟨-, filed⟩
    · obtain ⟨sameAttempt, sameUnit, -⟩ := plan.assignmentAfter_identity platform key earlier
      rw [sameAttempt, sameUnit]
      exact persists _ _ (wellFormed.assignments key earlier read)
    · cases plan with
      | insertAssignment draws request workUnitId =>
        simp only [Plan.newAssignment, Option.ite_none_right_eq_some, Option.some.injEq] at filed
        obtain ⟨-, rfl⟩ := filed
        exact persists _ _ (named draws request workUnitId rfl)
      | _ => simp [Plan.newAssignment] at filed

namespace SchedulerOp

/-- How a call ends, given what it saw and the store it ends in. It performs its
plan, or it raises: then it changes nothing, and no plan it could have made from
what it saw can be performed. -/
def outcome (platform : Platform) (op : SchedulerOp) (seen : List Db) (store : Db) :
    Except Raised Reply → Db → Prop
  | .ok reply, after =>
    ∃ plan, op.plan platform seen = some plan ∧ Performed platform store plan reply after
  | .error _, after => after = store ∧ ∀ more plan reply other,
    op.plan platform (seen ++ more) = some plan → ¬ Performed platform store plan reply other

/-- An exception between the reads ends a call as specified when it leaves the
call without a plan. -/
theorem outcome_unplanned (platform : Platform) (op : SchedulerOp) (seen : List Db) (store : Db)
    (error : Raised) (unplanned : ∀ more, op.plan platform (seen ++ more) = none) :
    op.outcome platform seen store (.error error) store :=
  ⟨rfl, by
    intro more plan reply other planned
    rw [unplanned more] at planned
    cases planned⟩

/-- A call that has made its plan complies when its last statement is a
transaction whose successes are exactly the ways to perform the plan. -/
theorem complies_plan {β : Type} (platform : Platform) (op : SchedulerOp) (seen : List Db)
    (plan : Plan) (planned : ∀ more, op.plan platform (seen ++ more) = some plan)
    (block : Store.Block Db Raised β) (result : β → Reply)
    (performs : ∀ store reply after, (∃ value, block.run store = .ok (value, after) ∧
      result value = reply) ↔ Performed platform store plan reply after) :
    Store.Complies WellFormed Evolves (op.outcome platform) seen
      (Store.Client.transaction Db.nestedTransaction block >>= fun value => pure (result value)) := by
  have planned_now : op.plan platform seen = some plan := by simpa using planned []
  apply Store.complies_transaction
  · intro store _ _ value changed success
    exact ⟨plan, planned_now, (performs store _ changed).mp ⟨value, success, rfl⟩⟩
  · intro store _ _ error failure
    refine ⟨rfl, ?_⟩
    intro more other reply after plans performed
    have same_plan := Option.some.inj ((planned more).symm.trans plans)
    subst same_plan
    obtain ⟨value, success, -⟩ := (performs store reply after).mpr performed
    rw [failure] at success
    cases success

variable (platform : Platform)

/-- Creating an attempt complies, whichever operation asks for it. -/
theorem complies_createAttempt (op : SchedulerOp) (seen : List Db) (draws : Draws)
    (workUnitId routePlanId policyDecisionId : String) (status : ExecutionAttemptStatus)
    (eventType : String)
    (planned : ∀ read more, op.plan platform (seen ++ [read] ++ more) =
      some (.insertAttempt draws workUnitId routePlanId policyDecisionId status eventType
        (Scheduler.nextAttemptNumber read workUnitId))) :
    Store.Complies WellFormed Evolves (op.outcome platform) seen
      (Scheduler.createAttempt draws workUnitId routePlanId policyDecisionId status eventType >>=
        fun created => pure (.attempt created)) := by
  simp only [Scheduler.createAttempt, bind_assoc]
  apply Store.complies_fetch
  · intro read _ _ attemptNumber numbered
    have same_value := Except.ok.inj numbered
    subst same_value
    apply complies_plan platform op _ _ (planned read)
    intro store reply after
    constructor
    · rintro ⟨created, success, rfl⟩
      obtain ⟨rfl, inserted⟩ :=
        (Scheduler.createAttemptWrites_ok_iff _ _ _ _ _ _ _ _ _ _).mp success
      exact .insertAttempt _ _ _ _ _ _ _ _ inserted
    · intro performed
      cases performed with
      | insertAttempt _ _ _ _ _ _ _ after inserted =>
        exact ⟨_, (Scheduler.createAttemptWrites_ok_iff _ _ _ _ _ _ _ _ _ _).mpr
          ⟨rfl, inserted⟩, rfl⟩
  · intro read _ _ error failure
    cases failure

/-- A retry and a fallback comply. -/
theorem complies_rescheduleAs (op : SchedulerOp) (eventType : String) (draws : Draws)
    (attemptId : String)
    (planned : ∀ seen, op.plan platform seen = reschedulePlan eventType draws attemptId seen) :
    Store.Complies WellFormed Evolves (op.outcome platform) []
      (Scheduler.rescheduleAs eventType draws attemptId >>= fun created =>
        pure (.attempt created)) := by
  simp only [Scheduler.rescheduleAs, bind_assoc]
  apply Store.complies_fetch
  · intro read _ _ row found
    apply complies_createAttempt
    intro later more
    rw [planned]
    simp [reschedulePlan, found, Except.toOption]
  · intro read _ _ error failure
    apply outcome_unplanned
    intro more
    rw [planned]
    cases more <;> simp [reschedulePlan, failure, Except.toOption]

/-- Creating an assignment complies, whichever operation asks for it. -/
theorem complies_createAssignment (op : SchedulerOp) (seen : List Db) (draws : Draws)
    (request : Scheduler.AssignmentRequest) (result : String → Reply)
    (replies : ∀ created, result created = .assignment (some created))
    (planned : ∀ more, op.plan platform (seen ++ more) = assignmentPlan draws request more) :
    Store.Complies WellFormed Evolves (op.outcome platform) seen
      (Scheduler.createAssignment draws request >>= fun created => pure (result created)) := by
  simp only [Scheduler.createAssignment, bind_assoc]
  apply Store.complies_fetch
  · intro read _ _ row found
    apply complies_plan platform op _ (.insertAssignment draws request row.workUnitId)
    · intro more
      rw [List.append_assoc, planned]
      simp [assignmentPlan, found, Except.toOption]
    · intro store reply after
      constructor
      · rintro ⟨created, success, rfl⟩
        obtain ⟨rfl, inserted⟩ :=
          (Scheduler.createAssignmentWrites_ok_iff _ _ _ _ _ _).mp success
        rw [replies]
        exact .insertAssignment _ _ _ _ inserted
      · intro performed
        cases performed with
        | insertAssignment _ _ _ after inserted =>
          exact ⟨_, (Scheduler.createAssignmentWrites_ok_iff _ _ _ _ _ _).mpr ⟨rfl, inserted⟩,
            replies _⟩
  · intro read _ _ error failure
    apply outcome_unplanned
    intro more
    rw [List.append_assoc, planned]
    simp [assignmentPlan, failure, Except.toOption]

/-- Assigning the next work complies: it stops after its first or second read, or
goes on to create an assignment. -/
theorem complies_assignNextWork (draws : Draws) (workerId : String) :
    Store.Complies WellFormed Evolves ((assignNextWork draws workerId).outcome platform) []
      ((assignNextWork draws workerId).program platform) := by
  simp only [program, Scheduler.assignNextWork, bind_assoc]
  apply Store.complies_fetch
  · intro nodes _ _ node read
    have same_value := Except.ok.inj read
    subst same_value
    cases chosen : Scheduler.capacityNodeOf workerId nodes with
    | none =>
      apply Store.complies_done _ [] nodes (.ok (Reply.assignment none))
      exact ⟨.nothing, by simp [plan, nextWorkPlan, chosen], .nothing⟩
    | some node =>
      obtain ⟨nodeId, nodeRow⟩ := node
      simp only [bind_assoc]
      apply Store.complies_fetch
      · intro looked _ _ waiting read
        have same_value := Except.ok.inj read
        subst same_value
        cases next : Scheduler.nextAttempt looked with
        | none =>
          apply Store.complies_done _ _ looked (.ok (Reply.assignment none))
          exact ⟨.nothing, by simp [plan, nextWorkPlan, chosen, next], .nothing⟩
        | some attempt =>
          obtain ⟨attemptId, attemptRow⟩ := attempt
          cases backends : nodeRow.backendIds with
          | nil =>
            apply Store.complies_done _ _ looked (.ok (Reply.assignment none))
            exact ⟨.nothing, by simp [plan, nextWorkPlan, chosen, next, backends], .nothing⟩
          | cons backendId others =>
            simp only [bind_assoc, pure_bind]
            apply complies_createAssignment platform _ _ draws
              (Scheduler.nextRequest workerId attemptId nodeId backendId)
              (fun created => .assignment (some created)) (fun _ => rfl)
            intro more
            simp [plan, nextWorkPlan, chosen, next, backends]
      · intro looked _ _ error failure
        cases failure
  · intro nodes _ _ error failure
    cases failure

/-- Accepting an assignment complies. -/
theorem complies_acceptAssignment (draws : Draws) (assignmentId workerId : String)
    (expectedLeaseVersion leaseDurationMs : Int) :
    Store.Complies WellFormed Evolves
      ((acceptAssignment draws assignmentId workerId expectedLeaseVersion leaseDurationMs).outcome
        platform) []
      ((acceptAssignment draws assignmentId workerId expectedLeaseVersion leaseDurationMs).program
        platform) := by
  simp only [program, Scheduler.acceptAssignment, bind_assoc]
  apply Store.complies_fetch
  · intro read _ _ assignment found
    apply Store.complies_ofExcept
    · intro _ created
      rw [Store.ensure_ok_iff] at created
      apply Store.complies_ofExcept
      · intro expiresAt expiry
        apply complies_plan platform _ _
          (.accept draws assignmentId workerId expectedLeaseVersion expiresAt assignment)
        · intro more
          simp [plan, acceptPlan, found, created, expiry, Except.toOption]
        · intro store reply after
          constructor
          · rintro ⟨grant, success, rfl⟩
            exact .accept _ _ _ _ _ _ _ _
              ((Scheduler.acceptAssignmentWrites_ok_iff _ _ _ _ _ _ _ _ _ _).mp success)
          · intro performed
            cases performed with
            | accept _ _ _ _ _ _ grant after accepted =>
              exact ⟨grant,
                (Scheduler.acceptAssignmentWrites_ok_iff _ _ _ _ _ _ _ _ _ _).mpr accepted, rfl⟩
      · intro error failure
        apply outcome_unplanned
        intro more
        simp [plan, acceptPlan, found, failure, Except.toOption]
    · intro error failure
      apply outcome_unplanned
      intro more
      have elsewhere : ¬ assignment.status = .created := by
        intro created
        simp [Store.ensure, created] at failure
      simp [plan, acceptPlan, found, elsewhere, Except.toOption]
  · intro read _ _ error failure
    apply outcome_unplanned
    intro more
    simp [plan, acceptPlan, failure, Except.toOption]

/-- Rejecting an assignment complies. -/
theorem complies_rejectAssignment (draws : Draws) (assignmentId workerId : String) :
    Store.Complies WellFormed Evolves ((rejectAssignment draws assignmentId workerId).outcome platform)
      [] ((rejectAssignment draws assignmentId workerId).program platform) := by
  simp only [program, Scheduler.rejectAssignment, bind_assoc]
  apply Store.complies_fetch
  · intro read _ _ assignment found
    apply complies_plan platform _ _ (.reject draws assignmentId workerId assignment)
    · intro more
      simp [plan, rejectPlan, found, Except.toOption]
    · intro store reply after
      constructor
      · rintro ⟨rejected, success, rfl⟩
        obtain ⟨rfl, performs⟩ := (Scheduler.rejectAssignmentWrites_ok_iff _ _ _ _ _ _ _).mp success
        exact .reject _ _ _ _ _ performs
      · intro performed
        cases performed with
        | reject _ _ _ _ after rejected =>
          exact ⟨_, (Scheduler.rejectAssignmentWrites_ok_iff _ _ _ _ _ _ _).mpr ⟨rfl, rejected⟩, rfl⟩
  · intro read _ _ error failure
    apply outcome_unplanned
    intro more
    simp [plan, rejectPlan, failure, Except.toOption]

/-- Progressing an assignment complies. -/
theorem complies_progressAssignment (draws : Draws) (assignmentId workerId leaseToken : String)
    (expectedLeaseVersion leaseDurationMs : Int) :
    Store.Complies WellFormed Evolves
      ((progressAssignment draws assignmentId workerId leaseToken expectedLeaseVersion
        leaseDurationMs).outcome platform) []
      ((progressAssignment draws assignmentId workerId leaseToken expectedLeaseVersion
        leaseDurationMs).program platform) := by
  simp only [program, Scheduler.progressAssignment, bind_assoc]
  apply Store.complies_fetch
  · intro read _ _ assignment found
    apply Store.complies_ofExcept
    · intro _ matched
      rw [Lease.verifyLeaseToken, Store.ensure_ok_iff] at matched
      apply Store.complies_ofExcept
      · intro expiresAt expiry
        apply complies_plan platform _ _
          (.progress draws assignmentId workerId expectedLeaseVersion expiresAt assignment)
        · intro more
          simp [plan, progressPlan, found, matched, expiry, Except.toOption]
        · intro store reply after
          constructor
          · rintro ⟨value, success, rfl⟩
            exact .progress _ _ _ _ _ _ _ _
              ((Scheduler.progressAssignmentWrites_ok_iff _ _ _ _ _ _ _ _ _).mp success)
          · intro performed
            cases performed with
            | progress _ _ _ _ _ _ value after progressed =>
              exact ⟨value,
                (Scheduler.progressAssignmentWrites_ok_iff _ _ _ _ _ _ _ _ _).mpr progressed, rfl⟩
      · intro error failure
        apply outcome_unplanned
        intro more
        simp [plan, progressPlan, found, failure, Except.toOption]
    · intro error failure
      apply outcome_unplanned
      intro more
      have refused :
          ¬ Lease.TokenMatches platform assignment.leaseTokenHash (some leaseToken) := by
        intro matched
        simp [Lease.verifyLeaseToken, Store.ensure, matched] at failure
      simp [plan, progressPlan, found, refused, Except.toOption]
  · intro read _ _ error failure
    apply outcome_unplanned
    intro more
    simp [plan, progressPlan, failure, Except.toOption]

/-- Submitting a result complies. -/
theorem complies_submitResult (draws : Draws) (submission : Scheduler.Submission) :
    Store.Complies WellFormed Evolves ((submitResult draws submission).outcome platform) []
      ((submitResult draws submission).program platform) := by
  simp only [program, Scheduler.submitResult, bind_assoc]
  apply Store.complies_fetch
  · intro read _ _ assignment found
    apply Store.complies_ofExcept
    · intro _ verified
      apply Store.complies_fetch
      · intro attempted _ _ row attempt
        apply Store.complies_fetch
        · intro looked _ _ late lateness
          have same_value := Except.ok.inj lateness
          subst same_value
          apply Store.complies_ofExcept
          · intro envelope accepted
            apply complies_plan platform _ _
              (.submit draws submission.assignmentId assignment
                (Scheduler.newerAttemptExists looked row.workUnitId row.attemptNumber)
                (Scheduler.submittedResult platform draws submission.assignmentId assignment
                  submission.output
                  (Scheduler.newerAttemptExists looked row.workUnitId row.attemptNumber) envelope))
            · intro more
              simp [plan, submitPlan, found, verified, attempt, accepted, Except.toOption]
            · intro store reply after
              constructor
              · rintro ⟨value, success, rfl⟩
                obtain ⟨rfl, submitted⟩ :=
                  (Scheduler.submitResultWrites_ok_iff _ _ _ _ _ _ _ _).mp success
                exact .submit _ _ _ _ _ _ submitted
              · intro performed
                cases performed with
                | submit _ _ _ _ _ after submitted =>
                  exact ⟨_, (Scheduler.submitResultWrites_ok_iff _ _ _ _ _ _ _ _).mpr
                    ⟨rfl, submitted⟩, rfl⟩
          · intro error failure
            apply outcome_unplanned
            intro more
            simp [plan, submitPlan, found, verified, attempt, failure, Except.toOption]
        · intro looked _ _ error failure
          cases failure
      · intro attempted _ _ error failure
        apply outcome_unplanned
        intro more
        cases more <;> simp [plan, submitPlan, found, verified, failure, Except.toOption]
    · intro error failure
      apply outcome_unplanned
      intro more
      rcases more with _ | ⟨_, _ | ⟨_, _⟩⟩ <;>
        simp [plan, submitPlan, found, failure, Except.toOption]
  · intro read _ _ error failure
    apply outcome_unplanned
    intro more
    rcases more with _ | ⟨_, _ | ⟨_, _⟩⟩ <;> simp [plan, submitPlan, failure, Except.toOption]

/-- Sweeping complies. Its updates run in a transaction they open themselves. -/
theorem complies_sweepExpiredLeases (draws : Draws) :
    Store.Complies WellFormed Evolves ((sweepExpiredLeases draws).outcome platform) []
      ((sweepExpiredLeases draws).program platform) := by
  simp only [program, Scheduler.sweepExpiredLeases, bind_assoc]
  apply Store.complies_fetch
  · intro read _ _ rows listed
    have same_value := Except.ok.inj listed
    subst same_value
    apply Store.complies_implicitly _ _ _ _ (Scheduler.sweepWrites_opens draws _)
    · intro store _ _ count changed success
      obtain ⟨rfl, swept⟩ := (Scheduler.sweepWrites_ok_iff _ _ _ _ _).mp success
      exact ⟨_, rfl, .sweep _ _ _ swept⟩
    · intro store _ _ error failure
      refine ⟨rfl, ?_⟩
      intro more other reply after plans performed
      have same_plan := Option.some.inj plans
      subst same_plan
      cases performed with
      | sweep _ _ after swept =>
        have success := (Scheduler.sweepWrites_ok_iff _ _ _ _ _).mpr ⟨rfl, swept⟩
        rw [failure] at success
        cases success
  · intro read _ _ error failure
    cases failure

/-- Every operation complies. -/
theorem complies (op : SchedulerOp) :
    Store.Complies WellFormed Evolves (op.outcome platform) [] (op.program platform) := by
  cases op with
  | createAttempt draws workUnitId routePlanId policyDecisionId status eventType =>
    exact complies_createAttempt platform _ [] draws workUnitId routePlanId policyDecisionId status
      eventType (fun _ _ => rfl)
  | createAssignment draws request =>
    exact complies_createAssignment platform _ [] draws request
      (fun created => .assignment (some created)) (fun _ => rfl) (fun _ => rfl)
  | assignNextWork draws workerId => exact complies_assignNextWork platform draws workerId
  | acceptAssignment draws assignmentId workerId expectedLeaseVersion leaseDurationMs =>
    exact complies_acceptAssignment platform draws assignmentId workerId expectedLeaseVersion
      leaseDurationMs
  | rejectAssignment draws assignmentId workerId =>
    exact complies_rejectAssignment platform draws assignmentId workerId
  | progressAssignment draws assignmentId workerId leaseToken expectedLeaseVersion
      leaseDurationMs =>
    exact complies_progressAssignment platform draws assignmentId workerId leaseToken
      expectedLeaseVersion leaseDurationMs
  | submitResult draws submission => exact complies_submitResult platform draws submission
  | scheduleRetry draws attemptId =>
    exact complies_rescheduleAs platform _ _ draws attemptId (fun _ => rfl)
  | scheduleFallback draws attemptId =>
    exact complies_rescheduleAs platform _ _ draws attemptId (fun _ => rfl)
  | sweepExpiredLeases draws => exact complies_sweepExpiredLeases platform draws

/-- A call that ends as specified keeps references resolved and only evolves the
database. The attempt of a new assignment was read earlier and has kept its work
unit since. -/
theorem outcome_keeps (op : SchedulerOp) (seen : List Db) (store : Db)
    (result : Except Raised Reply) (after : Db) (wellFormed : WellFormed store)
    (evolved : ∀ earlier ∈ seen, Evolves earlier store)
    (ending : op.outcome platform seen store result after) :
    WellFormed after ∧ Evolves store after := by
  cases result with
  | error error =>
    obtain ⟨rfl, -⟩ := ending
    exact ⟨wellFormed, Evolves.refl after⟩
  | ok reply =>
    obtain ⟨plan, planned, performed⟩ := ending
    refine ⟨performed.wellFormed wellFormed ?_, performed.evolves⟩
    rintro draws request workUnitId rfl
    have resolved (read : Db) (row : AttemptRow) (looked : read ∈ seen)
        (attempted : Scheduler.attempt request.attemptId read = .ok row) :
        ∃ attempt, store.executionAttempts.find? request.attemptId = some attempt ∧
          attempt.workUnitId = row.workUnitId := by
      obtain ⟨later, found, sameUnit, -⟩ := (evolved read looked).attempts _ row
        ((Scheduler.attempt_ok_iff _ _ _).mp attempted)
      exact ⟨later, found, sameUnit⟩
    cases plan_some platform op seen _ planned with
    | createAssignment _ _ read row looked attempted => exact resolved read row looked attempted
    | assignNextWork _ _ nodes waiting read rest _ chosen row saw next attempted =>
      exact resolved read row (by simp [saw]) attempted

/-- The attempt an admitted submission read is still there when its transaction
runs, under the same number, and the assignment names its work unit. -/
theorem Admitted.stored {submission : Scheduler.Submission} {read attempted store : Db}
    {assignment : AssignmentRow} {row : AttemptRow} {envelope : Option WorkUnitResultEnvelope}
    (admitted : Admitted platform submission read attempted assignment row envelope)
    (wellFormed : WellFormed store) (sinceRead : Evolves read store)
    (sinceAttempted : Evolves attempted store) :
    row.workUnitId = assignment.workUnitId ∧
      ∃ later, store.executionAttempts.find? assignment.attemptId = some later ∧
        later.attemptNumber = row.attemptNumber := by
  obtain ⟨stored, found, sameAttempt, sameUnit, -⟩ := sinceRead.assignments _ assignment
    ((Scheduler.assignmentForWorker_ok_iff _ _ _ _).mp admitted.found).1
  obtain ⟨named, foundNamed, namedUnit⟩ := wellFormed.assignments _ stored found
  obtain ⟨later, foundLater, laterUnit, laterNumber⟩ := sinceAttempted.attempts _ row
    ((Scheduler.attempt_ok_iff _ _ _).mp admitted.attempt)
  rw [sameAttempt] at foundNamed
  have same_row := Option.some.inj (foundLater.symm.trans foundNamed)
  subst same_row
  exact ⟨laterUnit.symm.trans (namedUnit.trans sameUnit), later, foundLater, laterNumber⟩

end SchedulerOp

/-- The scheduler's calls, with the specification they obey among themselves. -/
def schedulerDiscipline (platform : Platform) :
    Store.Discipline SchedulerOp Db Raised Reply where
  program := SchedulerOp.program platform
  sound := WellFormed
  evolves := Evolves
  spec := SchedulerOp.outcome platform
  refl := Evolves.refl
  trans := Evolves.trans
  keeps := SchedulerOp.outcome_keeps platform
  complies := SchedulerOp.complies platform

/-- The pool of scheduler calls on one database. -/
abbrev SchedulerPool := Store.Pool SchedulerOp Db Raised Reply

/-- One move of an interleaving of scheduler calls. -/
abbrev SchedulerMove := Store.Move SchedulerOp

namespace Scheduler

/-- The pool after a move. -/
def move (platform : Platform) (pool : SchedulerPool) (moved : SchedulerMove) : SchedulerPool :=
  pool.move (SchedulerOp.program platform) moved

/-- The pool after an interleaving of calls that starts from a database. -/
def interleaved (platform : Platform) (db : Db) (moves : List SchedulerMove) : SchedulerPool :=
  Store.run (move platform) (Store.Pool.idle db) moves

/-- Run one call alone: its result, and the database it leaves. -/
def runAlone (platform : Platform) (op : SchedulerOp) (db : Db) : Except Raised Reply × Db :=
  (op.program platform).run db

/-- The database after one call. -/
def step (platform : Platform) (db : Db) (op : SchedulerOp) : Db := (runAlone platform op db).2

end Scheduler

/-- The database has no attempts, assignments and results yet. -/
structure Fresh (db : Db) : Prop where
  attempts : db.executionAttempts.entries = []
  assignments : db.assignments.entries = []
  results : db.resultEnvelopes.entries = []
  quarantine : db.resultQuarantine.entries = []

/-- An interleaving of calls leads to the database from a fresh one. -/
def Reachable (platform : Platform) (db : Db) : Prop :=
  ∃ initial moves, Fresh initial ∧ db = (Scheduler.interleaved platform initial moves).store

/-- A fresh database has no references to resolve. -/
theorem Fresh.wellFormed {db : Db} (fresh : Fresh db) : WellFormed db where
  attempts key row found := by
    simp [Store.Table.find?_of_entries_nil _ fresh.attempts] at found
  assignments key row found := by
    simp [Store.Table.find?_of_entries_nil _ fresh.assignments] at found

namespace Scheduler

/-- A call run alone returns exactly when the plan it makes from the database it
is started in can be performed there, and then performs it. -/
theorem runAlone_ok_iff (platform : Platform) (op : SchedulerOp) (db after : Db) (reply : Reply)
    (wellFormed : WellFormed db) :
    runAlone platform op db = (.ok reply, after) ↔
      ∃ plan, op.plan platform [db, db, db] = some plan ∧
        Performed platform db plan reply after := by
  obtain ⟨looked, same, ending⟩ := (schedulerDiscipline platform).alone op db wellFormed
  have copies : looked = List.replicate looked.length db := List.eq_replicate_of_mem same
  have padded : (looked ++ List.replicate 3 db).take 3 = [db, db, db] := by
    have three : min 3 (looked.length + 3) = 3 := by omega
    rw [copies, List.replicate_append_replicate, List.take_replicate, three]
    rfl
  have plan_padded : op.plan platform (looked ++ List.replicate 3 db) =
      op.plan platform [db, db, db] := by
    rw [SchedulerOp.plan_take, padded]
  change op.outcome platform looked db (runAlone platform op db).1 (runAlone platform op db).2
    at ending
  rw [Prod.ext_iff]
  cases result : (runAlone platform op db).1 with
  | error error =>
    rw [result] at ending
    constructor
    · rintro ⟨impossible, -⟩
      cases impossible
    · rintro ⟨plan, planned, performed⟩
      exact absurd performed (ending.2 _ plan reply after (plan_padded.trans planned))
  | ok value =>
    rw [result] at ending
    obtain ⟨plan, planned, performed⟩ := ending
    have planned_here : op.plan platform [db, db, db] = some plan :=
      plan_padded.symm.trans (SchedulerOp.plan_append platform op looked _ plan planned)
    constructor
    · rintro ⟨same, rfl⟩
      have same_value := Except.ok.inj same
      subst same_value
      exact ⟨plan, planned_here, performed⟩
    · rintro ⟨other, plannedOther, performedOther⟩
      have same_plan := Option.some.inj (planned_here.symm.trans plannedOther)
      subst same_plan
      obtain ⟨rfl, rfl⟩ := performed.unique performedOther
      exact ⟨rfl, rfl⟩

/-- A call run alone that raises leaves the database as it is. -/
theorem runAlone_error (platform : Platform) (op : SchedulerOp) (db : Db) (error : Raised)
    (wellFormed : WellFormed db) (raised : (runAlone platform op db).1 = .error error) :
    step platform db op = db := by
  obtain ⟨looked, -, ending⟩ := (schedulerDiscipline platform).alone op db wellFormed
  change op.outcome platform looked db (runAlone platform op db).1 (runAlone platform op db).2
    at ending
  rw [raised] at ending
  exact ending.1

/-- One call run alone either leaves the database as it is, or performs its plan. -/
theorem step_cases (platform : Platform) (op : SchedulerOp) (db : Db) (wellFormed : WellFormed db) :
    (∃ error, (runAlone platform op db).1 = .error error ∧ step platform db op = db) ∨
      ∃ reply plan, (runAlone platform op db).1 = .ok reply ∧
        op.plan platform [db, db, db] = some plan ∧
        Performed platform db plan reply (step platform db op) := by
  cases result : (runAlone platform op db).1 with
  | error error => exact Or.inl ⟨error, rfl, runAlone_error platform op db error wellFormed result⟩
  | ok reply =>
    obtain ⟨plan, planned, performed⟩ :=
      (runAlone_ok_iff platform op db (step platform db op) reply wellFormed).mp
        (Prod.ext result rfl)
    exact Or.inr ⟨reply, plan, rfl, planned, performed⟩

/-- One call run alone keeps references resolved. -/
theorem step_wellFormed (platform : Platform) (op : SchedulerOp) (db : Db)
    (wellFormed : WellFormed db) : WellFormed (step platform db op) := by
  obtain ⟨looked, same, ending⟩ := (schedulerDiscipline platform).alone op db wellFormed
  refine (op.outcome_keeps platform looked db _ _ wellFormed ?_ ending).1
  intro earlier inLooked
  rw [same earlier inLooked]
  exact Evolves.refl db

/-- Calls that run one at a time: the database they left, and their replies. -/
structure Session where
  db : Db
  replies : List (SchedulerOp × Reply)

/-- The session after one more call. -/
def Session.step (platform : Platform) (session : Session) (op : SchedulerOp) : Session where
  db := Scheduler.step platform session.db op
  replies := session.replies ++
    ((runAlone platform op session.db).1.toOption.map (fun reply => (op, reply))).toList

/-- The session of a list of calls that starts from a database. -/
def session (platform : Platform) (initial : Db) (ops : List SchedulerOp) : Session :=
  Store.run (Session.step platform) ⟨initial, []⟩ ops

/-- References resolve in every session, and a property of the database and the
replies so far holds after it if performing a plan that was made from the very
database it is performed in preserves it. -/
theorem session_invariant (platform : Platform)
    (property : Db → List (SchedulerOp × Reply) → Prop) (initial : Db)
    (wellFormed : WellFormed initial) (initially : property initial [])
    (preserved : ∀ op db plan reply after replies, WellFormed db →
      op.plan platform [db, db, db] = some plan → Performed platform db plan reply after →
      property db replies → property after (replies ++ [(op, reply)]))
    (ops : List SchedulerOp) :
    WellFormed (session platform initial ops).db ∧
      property (session platform initial ops).db (session platform initial ops).replies := by
  apply Store.run_preserves (Session.step platform)
    (fun reached => WellFormed reached.db ∧ property reached.db reached.replies) _ ops
    ⟨wellFormed, initially⟩
  rintro ⟨db, replies⟩ op ⟨here, holds⟩ -
  refine ⟨step_wellFormed platform op db here, ?_⟩
  simp only [Session.step]
  rcases step_cases platform op db here with
    ⟨error, raised, same⟩ | ⟨reply, plan, returned, planned, performed⟩
  · rw [raised, same]
    simpa [Except.toOption] using holds
  · rw [returned]
    exact preserved op db plan reply _ replies here planned performed holds

/-- Interleavings keep the discipline. -/
theorem interleaved_holds (platform : Platform) (db : Db) (wellFormed : WellFormed db)
    (moves : List SchedulerMove) :
    (schedulerDiscipline platform).Holds (interleaved platform db moves) :=
  (schedulerDiscipline platform).holds_run _
    ((schedulerDiscipline platform).holds_idle db wellFormed) moves

/-- A property of the database and the replies so far holds after every
interleaving whose writes meet a condition, if performing a plan that was made
from earlier databases, and let through by the condition, preserves it. -/
theorem invariant_along (platform : Platform)
    (property : Db → List (SchedulerOp × Reply) → Prop)
    (condition : SchedulerOp → List Db → Db → Prop) (initial : Db)
    (wellFormed : WellFormed initial) (initially : property initial [])
    (preserved : ∀ op seen store plan reply after replies, WellFormed store →
      (∀ earlier ∈ seen, Evolves earlier store) → op.plan platform seen = some plan →
      Performed platform store plan reply after → (after ≠ store → condition op seen store) →
      property store replies → property after (replies ++ [(op, reply)]))
    (moves : List SchedulerMove)
    (allowed : Store.Along (move platform) (Store.Pool.AtWrites condition)
      (Store.Pool.idle initial) moves) :
    property (interleaved platform initial moves).store
      (interleaved platform initial moves).replies :=
  (schedulerDiscipline platform).invariant_along property condition (Store.Pool.idle initial)
    ((schedulerDiscipline platform).holds_idle initial wellFormed) initially
    (by
      intro op seen store result after replies holds evolved ending writing here
      cases result with
      | error error =>
        obtain ⟨rfl, -⟩ := ending
        simpa [Except.toOption] using here
      | ok reply =>
        obtain ⟨plan, planned, performed⟩ := ending
        exact preserved op seen store plan reply after replies holds evolved planned performed
          writing here)
    moves allowed

/-- The unconditional case of a property that performing any plan preserves. -/
theorem invariant_run (platform : Platform)
    (property : Db → List (SchedulerOp × Reply) → Prop) (initial : Db)
    (wellFormed : WellFormed initial) (initially : property initial [])
    (preserved : ∀ op seen store plan reply after replies, WellFormed store →
      (∀ earlier ∈ seen, Evolves earlier store) → op.plan platform seen = some plan →
      Performed platform store plan reply after →
      property store replies → property after (replies ++ [(op, reply)]))
    (moves : List SchedulerMove) :
    property (interleaved platform initial moves).store
      (interleaved platform initial moves).replies :=
  (schedulerDiscipline platform).invariant_run property (Store.Pool.idle initial)
    ((schedulerDiscipline platform).holds_idle initial wellFormed) initially
    (by
      intro op seen store result after replies holds evolved ending here
      cases result with
      | error error =>
        obtain ⟨rfl, -⟩ := ending
        simpa [Except.toOption] using here
      | ok reply =>
        obtain ⟨plan, planned, performed⟩ := ending
        exact preserved op seen store plan reply after replies holds evolved planned performed here)
    moves

/-- A relation between the databases before and after each move holds along every
interleaving whose writes meet a condition, if performing a plan that the
condition lets through establishes it. -/
theorem steps_along (platform : Platform) (related : Db → Db → Prop)
    (same : ∀ db, related db db) (condition : SchedulerOp → List Db → Db → Prop) (initial : Db)
    (wellFormed : WellFormed initial)
    (relates : ∀ op seen store plan reply after, WellFormed store →
      (∀ earlier ∈ seen, Evolves earlier store) → op.plan platform seen = some plan →
      Performed platform store plan reply after → (after ≠ store → condition op seen store) →
      related store after)
    (moves : List SchedulerMove)
    (allowed : Store.Along (move platform) (Store.Pool.AtWrites condition)
      (Store.Pool.idle initial) moves) :
    Store.Along (move platform)
      (fun pool moved => related pool.store (move platform pool moved).store)
      (Store.Pool.idle initial) moves :=
  (schedulerDiscipline platform).steps_along related same condition (Store.Pool.idle initial)
    ((schedulerDiscipline platform).holds_idle initial wellFormed)
    (by
      intro op seen store result after holds evolved ending writing
      cases result with
      | error error =>
        obtain ⟨rfl, -⟩ := ending
        exact same after
      | ok reply =>
        obtain ⟨plan, planned, performed⟩ := ending
        exact relates op seen store plan reply after holds evolved planned performed writing)
    moves allowed

end Scheduler

namespace Reachable

/-- References resolve in every reachable database. -/
theorem wellFormed {platform : Platform} {db : Db} (reachable : Reachable platform db) :
    WellFormed db := by
  obtain ⟨initial, moves, fresh, rfl⟩ := reachable
  exact (Scheduler.interleaved_holds platform initial fresh.wellFormed moves).store

/-- A fresh database is reachable. -/
theorem fresh {platform : Platform} {db : Db} (fresh : Fresh db) : Reachable platform db :=
  ⟨db, [], fresh, rfl⟩

/-- One more call run alone leads from a reachable database to a reachable one. -/
theorem step {platform : Platform} {db : Db} (reachable : Reachable platform db)
    (op : SchedulerOp) : Reachable platform (Scheduler.step platform db op) := by
  obtain ⟨initial, moves, fresh, rfl⟩ := reachable
  obtain ⟨more, reached⟩ := Store.Pool.alone_reached (SchedulerOp.program platform)
    (Scheduler.interleaved platform initial moves) op
  refine ⟨initial, moves ++ more, fresh, ?_⟩
  unfold Scheduler.interleaved
  rw [Store.run_append]
  exact reached.symm

/-- Calls run one at a time only lead to reachable databases. -/
theorem run {platform : Platform} {db : Db} (reachable : Reachable platform db)
    (ops : List SchedulerOp) : Reachable platform (Store.run (Scheduler.step platform) db ops) :=
  Store.run_preserves (Scheduler.step platform) (Reachable platform) db ops reachable
    (fun _ op here _ => here.step op)

end Reachable

/-! ## A small database

One work unit, one worker with one backend, and calls whose drawn identifiers,
clock readings and tokens are numbered by the call. It serves to run the system on
concrete inputs. -/

namespace Scenario

/-- What the call with a number draws: identifiers in the form of random UUIDs,
clock readings a second apart, and a token of 32 characters. -/
def draws (call : Nat) : Draws where
  uuid position :=
    "0000000000004000800000000000" ++ Clock.padded 2 call ++ Clock.padded 2 position
  clock position :=
    ⟨(739616 * 86400 + call * 60 + position) * 1000000 % (representableDays * microsPerDay),
      Nat.mod_lt _ (by decide)⟩
  token := "AAAAAAAAAAAAAAAAAAAAAAAAAAAAAA" ++ Clock.padded 2 call

/-- One submitted work unit and one worker. -/
def db : Db where
  workUnits := ⟨[("wu_1", ⟨.submitted, "2026-01-01T00:00:00Z"⟩)], by decide⟩
  routePlans := ["rp_1"]
  policyDecisions := ["pol_1"]
  capacityNodes := ⟨[("cap_1", ⟨some "wrk_1", ["backend_1"]⟩)], by decide⟩
  executionAttempts := .empty
  assignments := .empty
  resultEnvelopes := .empty
  resultQuarantine := .empty
  eventOutbox := .empty

/-- The small database is fresh. -/
theorem db_fresh : Fresh db := ⟨rfl, rfl, rfl, rfl⟩

/-- A digest that keeps its text visible, and no validation of documents: the
calls below submit envelopes that were validated before. -/
def platform : Platform where
  sha256 text := "sha256:" ++ text
  modelValidate _ := none

/-- The id of the attempt that the call with a number creates. -/
def attemptId (call : Nat) : String := Scheduler.attemptId (draws call)

/-- The id of the assignment that the call with a number creates. -/
def assignmentId (call : Nat) : String := Scheduler.assignmentId (draws call)

/-- Create an attempt for the work unit. -/
def createAttempt (call : Nat) : SchedulerOp :=
  .createAttempt (draws call) "wu_1" "rp_1" "pol_1" .created "attempt.created"

/-- Assign the next waiting attempt to the worker. -/
def assignNextWork (call : Nat) : SchedulerOp := .assignNextWork (draws call) "wrk_1"

/-- Accept the assignment that an earlier call created. -/
def accept (call assigning : Nat) (expectedLeaseVersion : Int) : SchedulerOp :=
  .acceptAssignment (draws call) (assignmentId assigning) "wrk_1" expectedLeaseVersion
    Lease.defaultLeaseDurationMs

/-- Reject the assignment that an earlier call created. -/
def reject (call assigning : Nat) : SchedulerOp :=
  .rejectAssignment (draws call) (assignmentId assigning) "wrk_1"

/-- Progress the assignment of one earlier call with the token of another. -/
def progress (call assigning accepting : Nat) (expectedLeaseVersion : Int) : SchedulerOp :=
  .progressAssignment (draws call) (assignmentId assigning) "wrk_1"
    (Lease.newLeaseToken (draws accepting)) expectedLeaseVersion Lease.defaultLeaseDurationMs

/-- An envelope that a worker built for an assignment, with a status of its own. -/
def envelope (id : String) (creating assigning : Nat) (status : ResultEnvelopeStatus) :
    WorkUnitResultEnvelope where
  resultEnvelopeId := id
  workUnitId := "wu_1"
  runId := "run_1"
  attemptId := attemptId creating
  assignmentId := assignmentId assigning
  status := status
  output := [("reachable", .bool true)]
  outputHash := "sha256:output"
  resultHash := "sha256:result"
  completedAt := "2026-01-01T00:00:00Z"

/-- Submit an envelope with the token of an earlier acceptance. -/
def submitEnvelope (call creating assigning accepting : Nat) (id : String)
    (status : ResultEnvelopeStatus) : SchedulerOp :=
  .submitResult (draws call)
    { assignmentId := assignmentId assigning
      workerId := "wrk_1"
      leaseToken := some (Lease.newLeaseToken (draws accepting))
      output := [("reachable", .bool true)]
      resultEnvelope := .model (envelope id creating assigning status) }

/-- Submit raw output again from the spool, with the hash of the token. -/
def replay (call assigning accepting : Nat) : SchedulerOp :=
  .submitResult (draws call)
    { assignmentId := assignmentId assigning
      workerId := "wrk_1"
      leaseTokenHash := some (Lease.leaseTokenHash platform (Lease.newLeaseToken (draws accepting)))
      output := [("reachable", .bool true)] }

/-- Schedule a retry of the attempt that an earlier call created. -/
def scheduleRetry (call creating : Nat) : SchedulerOp :=
  .scheduleRetry (draws call) (attemptId creating)

/-- Expire the leases that have ended. -/
def sweep (call : Nat) : SchedulerOp := .sweepExpiredLeases (draws call)

/-- Calls that run one after the other, as an interleaving: each is started and
gets more turns than it needs. -/
def oneByOne (ops : List SchedulerOp) : List SchedulerMove :=
  ops.zipIdx.flatMap (fun (op, index) => .start op :: List.replicate 4 (.turn index))

/-- Calls run one after the other start no others. -/
theorem started_oneByOne (ops : List SchedulerOp) (op : SchedulerOp)
    (started : .start op ∈ oneByOne ops) : op ∈ ops := by
  obtain ⟨⟨call, index⟩, listed, moved⟩ := List.mem_flatMap.mp started
  have same_op : op = call := by simpa using moved
  subst same_op
  exact List.mem_of_getElem? (List.mk_mem_zipIdx_iff_getElem?.mp listed)

/-- Two calls that make all their reads before either writes, where they are the
next to be started and take the same number of reads. -/
def overlapping (index reads : Nat) (left right : SchedulerOp) : List SchedulerMove :=
  [.start left, .start right] ++ List.replicate reads (.turn index) ++
    List.replicate reads (.turn (index + 1)) ++ [.turn index, .turn (index + 1)]

/-- Submit raw output for the assignment of one earlier call with the token of
another. -/
def submit (call assigning accepting : Nat) : SchedulerOp :=
  .submitResult (draws call)
    { assignmentId := assignmentId assigning
      workerId := "wrk_1"
      leaseToken := some (Lease.newLeaseToken (draws accepting))
      output := [("reachable", .bool true)] }

end Scenario

end TokenBank
