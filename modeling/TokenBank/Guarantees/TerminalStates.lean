import TokenBank.Scheduler.System

/-!
# Terminal assignments

An assignment is terminal once it is completed, quarantined, rejected or expired.
Accepting guards its status check by the status `created`, and sweeping selects
leased assignments only, so neither touches a terminal one when calls run one at
a time. Rejecting, progressing and submitting check no status at all: a terminal
assignment keeps its status exactly as long as none of these three is admitted
to it.
-/

namespace TokenBank

/-- The assignment has ended. -/
def AssignmentStatus.terminal : AssignmentStatus → Bool
  | .completed => true
  | .quarantined => true
  | .rejected => true
  | .expired => true
  | _ => false

namespace TerminalStates

/-- A rejection is refused nothing, so its assignment must not be terminal unless
it is rejected already. -/
abbrev RejectionSpares (db : Db) (assignmentId workerId : String) : Prop :=
  ∀ row ∈ db.assignments.find? assignmentId, row.workerId = workerId →
    row.status.terminal = true → row.status = .rejected

/-- A progress report with a matching token and version must not meet a terminal
assignment. -/
abbrev ProgressSpares (platform : Platform) (db : Db) (assignmentId workerId leaseToken : String)
    (expectedLeaseVersion : Int) : Prop :=
  ∀ row ∈ db.assignments.find? assignmentId, row.workerId = workerId →
    Lease.TokenMatches platform row.leaseTokenHash (some leaseToken) →
    row.leaseVersion = expectedLeaseVersion → row.status.terminal = false

/-- A submission with matching credentials, an accepted envelope and an unused
result id must not meet a terminal assignment, unless it writes the same status. -/
abbrev SubmissionSpares (platform : Platform) (db : Db) (draws : Draws)
    (submission : Scheduler.Submission) : Prop :=
  ∀ row ∈ db.assignments.find? submission.assignmentId, row.workerId = submission.workerId →
    submission.Authorised platform row.leaseTokenHash →
    ∀ attempt ∈ db.executionAttempts.find? row.attemptId,
    ∀ envelope ∈ (Scheduler.acceptedEnvelope platform submission.resultEnvelope
      submission.assignmentId row).toOption,
    db.resultEnvelopes.find? (Scheduler.resultId draws envelope) = none →
    row.status.terminal = true →
    row.status =
      if Scheduler.newerAttemptExists db attempt.workUnitId attempt.attemptNumber then
        .quarantined
      else .completed

/-- The call, started in a database, does not rewrite a terminal status. Only the
three operations that check no status need a restriction. -/
def Spares (platform : Platform) (db : Db) : SchedulerOp → Prop
  | .rejectAssignment _ assignmentId workerId => RejectionSpares db assignmentId workerId
  | .progressAssignment _ assignmentId workerId leaseToken expectedLeaseVersion _ =>
    ProgressSpares platform db assignmentId workerId leaseToken expectedLeaseVersion
  | .submitResult draws submission => SubmissionSpares platform db draws submission
  | _ => True

instance (platform : Platform) (db : Db) : (op : SchedulerOp) → Decidable (Spares platform db op)
  | .rejectAssignment _ assignmentId workerId =>
    inferInstanceAs (Decidable (RejectionSpares db assignmentId workerId))
  | .progressAssignment _ assignmentId workerId leaseToken expectedLeaseVersion _ =>
    inferInstanceAs
      (Decidable (ProgressSpares platform db assignmentId workerId leaseToken expectedLeaseVersion))
  | .submitResult draws submission =>
    inferInstanceAs (Decidable (SubmissionSpares platform db draws submission))
  | .createAttempt .. => .isTrue trivial
  | .createAssignment .. => .isTrue trivial
  | .assignNextWork .. => .isTrue trivial
  | .acceptAssignment .. => .isTrue trivial
  | .scheduleRetry .. => .isTrue trivial
  | .scheduleFallback .. => .isTrue trivial
  | .sweepExpiredLeases .. => .isTrue trivial

/-- One call that spares terminal statuses leaves a terminal assignment with its
status.

A call that raises changes nothing. Otherwise the assignment is rewritten by the
plan the call made from this very database, and the cases are those of the plan:
an acceptance read the status `created`, a sweep selected `accepted` or `running`,
and the other three writers are spared by assumption. -/
theorem status_kept (platform : Platform) (db : Db) (op : SchedulerOp) (wellFormed : WellFormed db)
    (spares : Spares platform db op) (key : String) (row : AssignmentRow)
    (found : db.assignments.find? key = some row) (terminal : row.status.terminal = true) :
    ∃ later, (Scheduler.step platform db op).assignments.find? key = some later ∧
      later.status = row.status := by
  rcases Scheduler.step_cases platform op db wellFormed with
    ⟨error, -, same⟩ | ⟨reply, plan, -, planned, performed⟩
  · exact ⟨row, same.symm ▸ found, rfl⟩
  · refine ⟨_, performed.assignment_kept key row found, ?_⟩
    cases SchedulerOp.plan_some platform op _ plan planned with
    | nothing | createAttempt | scheduleRetry | scheduleFallback | createAssignment
    | assignNextWork => rfl
    | accept draws assignmentId workerId expectedLeaseVersion leaseDurationMs read assignment
        expiresAt looked own created expiry =>
      have same_db : db = read := by simpa [eq_comm] using looked
      subst same_db
      by_cases same : key = assignmentId
      · subst same
        obtain ⟨same_row, -⟩ := Scheduler.assignmentForWorker_stored _ _ _ row assignment found own
        subst same_row
        simp [created, AssignmentStatus.terminal] at terminal
      · simp only [Plan.assignmentAfter, if_neg same]
    | reject draws assignmentId workerId read assignment looked own =>
      have same_db : db = read := by simpa [eq_comm] using looked
      subst same_db
      by_cases same : key = assignmentId
      · subst same
        obtain ⟨same_row, worker⟩ :=
          Scheduler.assignmentForWorker_stored _ _ _ row assignment found own
        subst same_row
        simp only [Plan.assignmentAfter, if_true, Scheduler.rejectRow]
        exact (spares row found worker terminal).symm
      · simp only [Plan.assignmentAfter, if_neg same]
    | progress draws assignmentId workerId leaseToken expectedLeaseVersion leaseDurationMs read
        assignment expiresAt looked own matched expiry =>
      have same_db : db = read := by simpa [eq_comm] using looked
      subst same_db
      by_cases same : key = assignmentId
      · subst same
        obtain ⟨same_row, worker⟩ :=
          Scheduler.assignmentForWorker_stored _ _ _ row assignment found own
        subst same_row
        obtain ⟨current, foundCurrent, version, -⟩ := performed.progress_version
        have same_row := Option.some.inj (found.symm.trans foundCurrent)
        subst same_row
        have spared := spares row found worker matched version
        rw [spared] at terminal
        cases terminal
      · simp only [Plan.assignmentAfter, if_neg same]
    | submit draws submission read attempted looked assignment attempt envelope saw admitted =>
      obtain ⟨rfl, rfl, rfl⟩ : db = read ∧ db = attempted ∧ db = looked := by simpa using saw
      by_cases same : key = submission.assignmentId
      · subst same
        obtain ⟨same_row, worker⟩ :=
          Scheduler.assignmentForWorker_stored _ _ _ row assignment found admitted.found
        subst same_row
        have unused := performed.newResult_absent _ _ (if_pos rfl)
        rw [Scheduler.submittedResult_id] at unused
        have written := spares row found worker admitted.authorised attempt
          ((Scheduler.attempt_ok_iff _ _ _).mp admitted.attempt) envelope
          ((SchedulerOp.toOption_some_iff _ _).mpr admitted.accepted) unused terminal
        simp only [Plan.assignmentAfter, if_true]
        split at written <;> simp_all [Scheduler.completeRow]
      · simp only [Plan.assignmentAfter, if_neg same]
    | sweep draws read looked =>
      have same_db : db = read := by simpa [eq_comm] using looked
      subst same_db
      simp only [Plan.assignmentAfter, Scheduler.expiredRow_status]
      split
      · rename_i listed
        have leased := Scheduler.expiredLeases_status (draws.utcText 0) db key row found listed
        rcases leased with accepted | running <;> simp_all [AssignmentStatus.terminal]
      · rfl

/-- A terminal assignment stays there with its status as long as no call rewrites
terminal statuses. -/
theorem status_kept_run (platform : Platform) (db : Db) (ops : List SchedulerOp)
    (wellFormed : WellFormed db)
    (spares : Store.Along (Scheduler.step platform) (Spares platform) db ops) (key : String)
    (row : AssignmentRow) (found : db.assignments.find? key = some row)
    (terminal : row.status.terminal = true) :
    ∃ later, (Store.run (Scheduler.step platform) db ops).assignments.find? key = some later ∧
      later.status = row.status := by
  have together := Store.run_invariant (Scheduler.step platform)
    (fun db => WellFormed db ∧ ∃ later, db.assignments.find? key = some later ∧
      later.status = row.status) (Spares platform) db ops ⟨wellFormed, row, found, rfl⟩ (by
      rintro state op ⟨holds, later, here, same⟩ spared
      obtain ⟨next, there, kept⟩ :=
        status_kept platform state op holds spared key later here (same ▸ terminal)
      exact ⟨Scheduler.step_wellFormed platform op state holds, next, there, kept.trans same⟩)
    spares
  exact together.2

/-- Terminal statuses are absorbing in every run from a fresh database whose calls
all spare them: once the calls of some first part of the run have made an
assignment terminal, the rest of the run does not change its status. -/
theorem terminal_absorbing (platform : Platform) (initial : Db) (fresh : Fresh initial)
    (earlier later : List SchedulerOp)
    (spares : Store.Along (Scheduler.step platform) (Spares platform) initial (earlier ++ later))
    (key : String) (row : AssignmentRow)
    (found : (Store.run (Scheduler.step platform) initial earlier).assignments.find? key = some row)
    (terminal : row.status.terminal = true) :
    ∃ last, (Store.run (Scheduler.step platform) initial (earlier ++ later)).assignments.find? key =
      some last ∧ last.status = row.status := by
  rw [Store.run_append]
  have reachable : Reachable platform (Store.run (Scheduler.step platform) initial earlier) :=
    (Reachable.fresh fresh).run earlier
  exact status_kept_run platform _ later reachable.wellFormed
    ((Store.along_append _ _ _ _ _).mp spares).2 key row found terminal

/-- A completed assignment: its call was accepted and submitted a result. -/
def completing : List SchedulerOp :=
  [Scenario.createAttempt 0, Scenario.assignNextWork 1, Scenario.accept 2 1 0,
    Scenario.submit 3 1 2]

/-- A second acceptance is refused, a submission late in the run writes the same
status, and the assignment stays completed. -/
theorem terminal_absorbing_completed :
    ∃ last, (Store.run (Scheduler.step Scenario.platform) Scenario.db
        (completing ++ [Scenario.accept 4 1 1, Scenario.submit 5 1 2])).assignments.find?
          (Scenario.assignmentId 1) = some last ∧ last.status = .completed := by
  have found : ((Store.run (Scheduler.step Scenario.platform) Scenario.db
      completing).assignments.find? (Scenario.assignmentId 1)).map AssignmentRow.status =
        some .completed := by decide +kernel
  obtain ⟨row, here, status⟩ := Option.map_eq_some_iff.mp found
  rw [← status]
  exact terminal_absorbing Scenario.platform Scenario.db Scenario.db_fresh completing
    [Scenario.accept 4 1 1, Scenario.submit 5 1 2] (by decide +kernel) _ row here
    (by rw [status]; rfl)

/-- A rejection by its worker turns a completed assignment into a rejected one. -/
theorem completed_then_rejected :
    ((Store.run (Scheduler.step Scenario.platform) Scenario.db completing).assignments.find?
        (Scenario.assignmentId 1)).map AssignmentRow.status = some .completed ∧
      ((Store.run (Scheduler.step Scenario.platform) Scenario.db
        (completing ++ [Scenario.reject 4 1])).assignments.find?
          (Scenario.assignmentId 1)).map AssignmentRow.status = some .rejected := by
  decide +kernel

end TerminalStates

end TokenBank
