import TokenBank.Scheduler.Effects

/-!
# Calls, what their reads settle, and what their transactions do

A call of the scheduler reads first and writes last. What the reads settle is a
plan: the arguments of the transaction that follows. A plan may be made from
stores that are out of date by the time it is performed, which is where all
interference between calls lies.
-/

namespace TokenBank

/-- A call of one scheduler operation, with its arguments and what it draws. -/
inductive SchedulerOp : Type
  | createAttempt (draws : Draws) (workUnitId routePlanId policyDecisionId : String)
      (status : ExecutionAttemptStatus) (eventType : String)
  | createAssignment (draws : Draws) (request : Scheduler.AssignmentRequest)
  | assignNextWork (draws : Draws) (workerId : String)
  | acceptAssignment (draws : Draws) (assignmentId workerId : String)
      (expectedLeaseVersion leaseDurationMs : Int)
  | rejectAssignment (draws : Draws) (assignmentId workerId : String)
  | progressAssignment (draws : Draws) (assignmentId workerId leaseToken : String)
      (expectedLeaseVersion leaseDurationMs : Int)
  | submitResult (draws : Draws) (submission : Scheduler.Submission)
  | scheduleRetry (draws : Draws) (attemptId : String)
  | scheduleFallback (draws : Draws) (attemptId : String)
  | sweepExpiredLeases (draws : Draws)

/-- What a call returns. Assigning the next work may find none. -/
inductive Reply : Type
  | attempt (attemptId : String)
  | assignment (assignmentId : Option String)
  | grant (grant : Scheduler.LeaseGrant)
  | rejected (assignmentId : String)
  | progress (reply : Scheduler.ProgressReply)
  | submission (reply : Scheduler.SubmissionReply)
  | swept (count : Nat)
deriving DecidableEq

namespace SchedulerOp

/-- The program of a call. -/
def program (platform : Platform) : SchedulerOp → Store.Client Db Raised Reply
  | .createAttempt draws workUnitId routePlanId policyDecisionId status eventType =>
    Scheduler.createAttempt draws workUnitId routePlanId policyDecisionId status eventType >>=
      fun created => pure (.attempt created)
  | .createAssignment draws request =>
    Scheduler.createAssignment draws request >>= fun created => pure (.assignment (some created))
  | .assignNextWork draws workerId =>
    Scheduler.assignNextWork draws workerId >>= fun created => pure (.assignment created)
  | .acceptAssignment draws assignmentId workerId expectedLeaseVersion leaseDurationMs =>
    Scheduler.acceptAssignment platform draws assignmentId workerId expectedLeaseVersion
      leaseDurationMs >>= fun grant => pure (.grant grant)
  | .rejectAssignment draws assignmentId workerId =>
    Scheduler.rejectAssignment draws assignmentId workerId >>= fun rejected =>
      pure (.rejected rejected)
  | .progressAssignment draws assignmentId workerId leaseToken expectedLeaseVersion
      leaseDurationMs =>
    Scheduler.progressAssignment platform draws assignmentId workerId leaseToken
      expectedLeaseVersion leaseDurationMs >>= fun reply => pure (.progress reply)
  | .submitResult draws submission =>
    Scheduler.submitResult platform draws submission >>= fun reply => pure (.submission reply)
  | .scheduleRetry draws attemptId =>
    Scheduler.scheduleRetry draws attemptId >>= fun created => pure (.attempt created)
  | .scheduleFallback draws attemptId =>
    Scheduler.scheduleFallback draws attemptId >>= fun created => pure (.attempt created)
  | .sweepExpiredLeases draws =>
    Scheduler.sweepExpiredLeases draws >>= fun count => pure (.swept count)

end SchedulerOp

/-- What a call's transaction is to do. -/
inductive Plan : Type
  | nothing
  | insertAttempt (draws : Draws) (workUnitId routePlanId policyDecisionId : String)
      (status : ExecutionAttemptStatus) (eventType : String) (attemptNumber : Nat)
  | insertAssignment (draws : Draws) (request : Scheduler.AssignmentRequest) (workUnitId : String)
  | accept (draws : Draws) (assignmentId workerId : String) (expectedLeaseVersion : Int)
      (expiresAt : String) (assignment : AssignmentRow)
  | reject (draws : Draws) (assignmentId workerId : String) (assignment : AssignmentRow)
  | progress (draws : Draws) (assignmentId workerId : String) (expectedLeaseVersion : Int)
      (expiresAt : String) (assignment : AssignmentRow)
  | submit (draws : Draws) (assignmentId : String) (assignment : AssignmentRow) (late : Bool)
      (result : Scheduler.SubmittedResult)
  | sweep (draws : Draws) (rows : List (String × AssignmentRow))

namespace SchedulerOp

/-- The plan of a retry or a fallback, from its two reads. -/
def reschedulePlan (eventType : String) (draws : Draws) (attemptId : String) :
    List Db → Option Plan
  | found :: read :: _ => do
    let row ← (Scheduler.attempt attemptId found).toOption
    return .insertAttempt draws row.workUnitId row.routePlanId row.policyDecisionId .scheduled
      eventType (Scheduler.nextAttemptNumber read row.workUnitId)
  | _ => none

/-- The plan of creating an assignment, from its one read. -/
def assignmentPlan (draws : Draws) (request : Scheduler.AssignmentRequest) :
    List Db → Option Plan
  | read :: _ => do
    let row ← (Scheduler.attempt request.attemptId read).toOption
    return .insertAssignment draws request row.workUnitId
  | [] => none

/-- The plan of assigning the next work, from up to three reads. -/
def nextWorkPlan (draws : Draws) (workerId : String) : List Db → Option Plan
  | [] => none
  | nodes :: later =>
    match Scheduler.capacityNodeOf workerId nodes with
    | none => some .nothing
    | some (nodeId, node) =>
      match later with
      | [] => none
      | waiting :: rest =>
        match Scheduler.nextAttempt waiting with
        | none => some .nothing
        | some (attemptId, _) =>
          match node.backendIds with
          | [] => some .nothing
          | backendId :: _ =>
            assignmentPlan draws (Scheduler.nextRequest workerId attemptId nodeId backendId) rest

/-- The plan of accepting an assignment, from its one read. -/
def acceptPlan (draws : Draws) (assignmentId workerId : String)
    (expectedLeaseVersion leaseDurationMs : Int) : List Db → Option Plan
  | read :: _ => do
    let assignment ← (Scheduler.assignmentForWorker assignmentId workerId read).toOption
    guard (assignment.status = .created)
    let expiresAt ← (Lease.leaseExpiry draws 0 leaseDurationMs).toOption
    return .accept draws assignmentId workerId expectedLeaseVersion expiresAt assignment
  | [] => none

/-- The plan of rejecting an assignment, from its one read. -/
def rejectPlan (draws : Draws) (assignmentId workerId : String) : List Db → Option Plan
  | read :: _ => do
    let assignment ← (Scheduler.assignmentForWorker assignmentId workerId read).toOption
    return .reject draws assignmentId workerId assignment
  | [] => none

/-- The plan of progressing an assignment, from its one read. -/
def progressPlan (platform : Platform) (draws : Draws) (assignmentId workerId leaseToken : String)
    (expectedLeaseVersion leaseDurationMs : Int) : List Db → Option Plan
  | read :: _ => do
    let assignment ← (Scheduler.assignmentForWorker assignmentId workerId read).toOption
    guard (Lease.TokenMatches platform assignment.leaseTokenHash (some leaseToken))
    let expiresAt ← (Lease.leaseExpiry draws 0 leaseDurationMs).toOption
    return .progress draws assignmentId workerId expectedLeaseVersion expiresAt assignment
  | [] => none

/-- The plan of submitting a result, from its three reads: of the assignment, of
its attempt, and of the attempts of the work unit. -/
def submitPlan (platform : Platform) (draws : Draws) (submission : Scheduler.Submission) :
    List Db → Option Plan
  | read :: attempted :: looked :: _ => do
    let assignment ←
      (Scheduler.assignmentForWorker submission.assignmentId submission.workerId read).toOption
    let _ ← (Scheduler.verifySubmission platform submission assignment.leaseTokenHash).toOption
    let row ← (Scheduler.attempt assignment.attemptId attempted).toOption
    let late := Scheduler.newerAttemptExists looked row.workUnitId row.attemptNumber
    let envelope ← (Scheduler.acceptedEnvelope platform submission.resultEnvelope
      submission.assignmentId assignment).toOption
    return .submit draws submission.assignmentId assignment late
      (Scheduler.submittedResult platform draws submission.assignmentId assignment
        submission.output late envelope)
  | _ => none

/-- The plan a call has made once it has seen some stores. Its program looks at
no more than the first three. -/
def plan (platform : Platform) : SchedulerOp → List Db → Option Plan
  | .createAttempt draws workUnitId routePlanId policyDecisionId status eventType, read :: _ =>
    some (.insertAttempt draws workUnitId routePlanId policyDecisionId status eventType
      (Scheduler.nextAttemptNumber read workUnitId))
  | .createAttempt .., [] => none
  | .createAssignment draws request, seen => assignmentPlan draws request seen
  | .assignNextWork draws workerId, seen => nextWorkPlan draws workerId seen
  | .acceptAssignment draws assignmentId workerId expectedLeaseVersion leaseDurationMs, seen =>
    acceptPlan draws assignmentId workerId expectedLeaseVersion leaseDurationMs seen
  | .rejectAssignment draws assignmentId workerId, seen =>
    rejectPlan draws assignmentId workerId seen
  | .progressAssignment draws assignmentId workerId leaseToken expectedLeaseVersion
      leaseDurationMs, seen =>
    progressPlan platform draws assignmentId workerId leaseToken expectedLeaseVersion
      leaseDurationMs seen
  | .submitResult draws submission, seen => submitPlan platform draws submission seen
  | .scheduleRetry draws attemptId, seen =>
    reschedulePlan "scheduler.retry_scheduled" draws attemptId seen
  | .scheduleFallback draws attemptId, seen =>
    reschedulePlan "scheduler.fallback_scheduled" draws attemptId seen
  | .sweepExpiredLeases draws, read :: _ =>
    some (.sweep draws (Scheduler.expiredLeases (draws.utcText 0) read))
  | .sweepExpiredLeases _, [] => none

/-- Only the first three stores matter for a plan. -/
theorem plan_take (platform : Platform) (op : SchedulerOp) (seen : List Db) :
    op.plan platform seen = op.plan platform (seen.take 3) := by
  match seen with
  | [] => rfl
  | [first] => rfl
  | [first, second] => rfl
  | first :: second :: third :: rest =>
    cases op <;> rfl

/-- Looking at more stores does not change a plan once it is made. -/
theorem plan_append (platform : Platform) (op : SchedulerOp) (seen more : List Db) (plan : Plan)
    (planned : op.plan platform seen = some plan) :
    op.plan platform (seen ++ more) = some plan := by
  match seen with
  | [] => cases op <;> cases planned
  | [first] =>
    cases op with
    | assignNextWork draws workerId =>
      simp only [SchedulerOp.plan, nextWorkPlan, List.cons_append] at planned ⊢
      split at planned
      · exact planned
      · cases planned
    | submitResult | scheduleRetry | scheduleFallback => cases planned
    | _ => exact planned
  | [first, second] =>
    cases op with
    | assignNextWork draws workerId =>
      simp only [SchedulerOp.plan, nextWorkPlan, List.cons_append] at planned ⊢
      split at planned
      · exact planned
      · split at planned
        · exact planned
        · split at planned
          · exact planned
          · cases planned
    | submitResult => cases planned
    | _ => exact planned
  | first :: second :: third :: rest =>
    rw [plan_take] at planned ⊢
    exact planned

/-- A read turned into an option is present exactly when it succeeded. -/
theorem toOption_some_iff {α : Type} (computed : Except Raised α) (value : α) :
    computed.toOption = some value ↔ computed = .ok value := by
  cases computed <;> simp [Except.toOption]

/-- The reads a retry or fallback makes its plan from. -/
theorem reschedulePlan_some (eventType : String) (draws : Draws) (attemptId : String)
    (seen : List Db) (plan : Plan)
    (planned : reschedulePlan eventType draws attemptId seen = some plan) :
    ∃ found read rest row, seen = found :: read :: rest ∧
      Scheduler.attempt attemptId found = .ok row ∧
      plan = .insertAttempt draws row.workUnitId row.routePlanId row.policyDecisionId .scheduled
        eventType (Scheduler.nextAttemptNumber read row.workUnitId) := by
  rcases seen with _ | ⟨found, _ | ⟨read, rest⟩⟩
  · cases planned
  · cases planned
  · simp only [reschedulePlan, Option.bind_eq_bind, Option.bind_eq_some_iff,
      toOption_some_iff, Option.pure_def, Option.some.injEq] at planned
    obtain ⟨row, attempted, rfl⟩ := planned
    exact ⟨found, read, rest, row, rfl, attempted, rfl⟩

/-- The read an assignment is planned from. -/
theorem assignmentPlan_some (draws : Draws) (request : Scheduler.AssignmentRequest)
    (seen : List Db) (plan : Plan) (planned : assignmentPlan draws request seen = some plan) :
    ∃ read ∈ seen, ∃ row, Scheduler.attempt request.attemptId read = .ok row ∧
      plan = .insertAssignment draws request row.workUnitId := by
  rcases seen with _ | ⟨read, rest⟩
  · cases planned
  · simp only [assignmentPlan, Option.bind_eq_bind, Option.bind_eq_some_iff,
      toOption_some_iff, Option.pure_def, Option.some.injEq] at planned
    obtain ⟨row, attempted, rfl⟩ := planned
    exact ⟨read, List.mem_cons_self, row, attempted, rfl⟩

/-- Assigning the next work plans nothing, or an assignment of the attempt that its
second read selected, from its third read. -/
theorem nextWorkPlan_some (draws : Draws) (workerId : String) (seen : List Db) (plan : Plan)
    (planned : nextWorkPlan draws workerId seen = some plan) :
    plan = .nothing ∨ ∃ nodes waiting read rest request chosen row,
      seen = nodes :: waiting :: read :: rest ∧
      Scheduler.nextAttempt waiting = some (request.attemptId, chosen) ∧
      Scheduler.attempt request.attemptId read = .ok row ∧
      plan = .insertAssignment draws request row.workUnitId := by
  unfold nextWorkPlan at planned
  split at planned
  · cases planned
  · rename_i nodes later
    split at planned
    · exact Or.inl (Option.some.inj planned).symm
    · rename_i nodeId node _
      split at planned
      · cases planned
      · rename_i waiting rest
        split at planned
        · exact Or.inl (Option.some.inj planned).symm
        · rename_i attemptId chosen next
          split at planned
          · exact Or.inl (Option.some.inj planned).symm
          · rename_i backendId _ _
            rcases rest with _ | ⟨read, rest⟩
            · cases planned
            · simp only [assignmentPlan, Option.bind_eq_bind, Option.bind_eq_some_iff,
                toOption_some_iff, Option.pure_def, Option.some.injEq] at planned
              obtain ⟨row, attempted, rfl⟩ := planned
              exact Or.inr ⟨nodes, waiting, read, rest,
                Scheduler.nextRequest workerId attemptId nodeId backendId, chosen, row, rfl, next,
                attempted, rfl⟩

/-- The read an acceptance is planned from, and the checks it passed. -/
theorem acceptPlan_some (draws : Draws) (assignmentId workerId : String)
    (expectedLeaseVersion leaseDurationMs : Int) (seen : List Db) (plan : Plan)
    (planned : acceptPlan draws assignmentId workerId expectedLeaseVersion leaseDurationMs seen =
      some plan) :
    ∃ read ∈ seen, ∃ assignment expiresAt,
      Scheduler.assignmentForWorker assignmentId workerId read = .ok assignment ∧
      assignment.status = .created ∧
      Lease.leaseExpiry draws 0 leaseDurationMs = .ok expiresAt ∧
      plan = .accept draws assignmentId workerId expectedLeaseVersion expiresAt assignment := by
  rcases seen with _ | ⟨read, rest⟩
  · cases planned
  · simp only [acceptPlan, Option.bind_eq_bind, Option.bind_eq_some_iff, toOption_some_iff,
      Option.guard_eq_some', Option.pure_def, Option.some.injEq] at planned
    obtain ⟨assignment, found, -, created, expiresAt, expiry, rfl⟩ := planned
    exact ⟨read, List.mem_cons_self, assignment, expiresAt, found, created, expiry, rfl⟩

/-- The read a rejection is planned from. -/
theorem rejectPlan_some (draws : Draws) (assignmentId workerId : String) (seen : List Db)
    (plan : Plan) (planned : rejectPlan draws assignmentId workerId seen = some plan) :
    ∃ read ∈ seen, ∃ assignment,
      Scheduler.assignmentForWorker assignmentId workerId read = .ok assignment ∧
      plan = .reject draws assignmentId workerId assignment := by
  rcases seen with _ | ⟨read, rest⟩
  · cases planned
  · simp only [rejectPlan, Option.bind_eq_bind, Option.bind_eq_some_iff, toOption_some_iff,
      Option.pure_def, Option.some.injEq] at planned
    obtain ⟨assignment, found, rfl⟩ := planned
    exact ⟨read, List.mem_cons_self, assignment, found, rfl⟩

/-- The read a progress report is planned from, and the checks it passed. -/
theorem progressPlan_some (platform : Platform) (draws : Draws)
    (assignmentId workerId leaseToken : String) (expectedLeaseVersion leaseDurationMs : Int)
    (seen : List Db) (plan : Plan)
    (planned : progressPlan platform draws assignmentId workerId leaseToken expectedLeaseVersion
      leaseDurationMs seen = some plan) :
    ∃ read ∈ seen, ∃ assignment expiresAt,
      Scheduler.assignmentForWorker assignmentId workerId read = .ok assignment ∧
      Lease.TokenMatches platform assignment.leaseTokenHash (some leaseToken) ∧
      Lease.leaseExpiry draws 0 leaseDurationMs = .ok expiresAt ∧
      plan = .progress draws assignmentId workerId expectedLeaseVersion expiresAt assignment := by
  rcases seen with _ | ⟨read, rest⟩
  · cases planned
  · simp only [progressPlan, Option.bind_eq_bind, Option.bind_eq_some_iff, toOption_some_iff,
      Option.guard_eq_some', Option.pure_def, Option.some.injEq] at planned
    obtain ⟨assignment, found, -, matched, expiresAt, expiry, rfl⟩ := planned
    exact ⟨read, List.mem_cons_self, assignment, expiresAt, found, matched, expiry, rfl⟩

/-- A submission passed every check on the stores it looked at: its assignment
was the worker's, its credentials matched, and its envelope, if any, was accepted. -/
structure Admitted (platform : Platform) (submission : Scheduler.Submission)
    (read attempted : Db) (assignment : AssignmentRow) (row : AttemptRow)
    (envelope : Option WorkUnitResultEnvelope) : Prop where
  found : Scheduler.assignmentForWorker submission.assignmentId submission.workerId read =
    .ok assignment
  authorised : submission.Authorised platform assignment.leaseTokenHash
  attempt : Scheduler.attempt assignment.attemptId attempted = .ok row
  accepted : Scheduler.acceptedEnvelope platform submission.resultEnvelope submission.assignmentId
    assignment = .ok envelope

/-- Credentials are accepted exactly when they match the stored hash. -/
theorem verifySubmission_ok_iff (platform : Platform) (submission : Scheduler.Submission)
    (storedHash : Option String) (value : Unit) :
    Scheduler.verifySubmission platform submission storedHash = .ok value ↔
      submission.Authorised platform storedHash := by
  unfold Scheduler.verifySubmission Scheduler.Submission.Authorised
  split
  · exact Store.ensure_ok_iff _ _ _
  · exact Store.ensure_ok_iff _ _ _

/-- A submission has a plan exactly when it was admitted by its three reads. -/
theorem submitPlan_some_iff (platform : Platform) (draws : Draws)
    (submission : Scheduler.Submission) (seen : List Db) (plan : Plan) :
    submitPlan platform draws submission seen = some plan ↔
      ∃ read attempted looked assignment row envelope, seen.take 3 = [read, attempted, looked] ∧
        Admitted platform submission read attempted assignment row envelope ∧
        plan = .submit draws submission.assignmentId assignment
          (Scheduler.newerAttemptExists looked row.workUnitId row.attemptNumber)
          (Scheduler.submittedResult platform draws submission.assignmentId assignment
            submission.output
            (Scheduler.newerAttemptExists looked row.workUnitId row.attemptNumber) envelope) := by
  rcases seen with _ | ⟨read, _ | ⟨attempted, _ | ⟨looked, rest⟩⟩⟩
  · simp [submitPlan]
  · simp [submitPlan]
  · simp [submitPlan]
  · simp only [submitPlan, Option.bind_eq_bind, Option.bind_eq_some_iff, toOption_some_iff,
      verifySubmission_ok_iff, Option.pure_def, Option.some.injEq]
    constructor
    · rintro ⟨assignment, found, -, authorised, row, attempt, envelope, accepted, rfl⟩
      exact ⟨read, attempted, looked, assignment, row, envelope, rfl,
        ⟨found, authorised, attempt, accepted⟩, rfl⟩
    · rintro ⟨_, _, _, assignment, row, envelope, same, admitted, rfl⟩
      simp only [List.take_succ_cons, List.take_zero, List.cons.injEq, and_true] at same
      obtain ⟨rfl, rfl, rfl⟩ := same
      exact ⟨assignment, admitted.found, (), admitted.authorised, row, admitted.attempt, envelope,
        admitted.accepted, rfl⟩

/-- Where each plan comes from: the operation that made it, the stores its
arguments were read from, and the checks they passed. -/
inductive Planned (platform : Platform) (seen : List Db) : SchedulerOp → Plan → Prop
  | nothing (draws : Draws) (workerId : String) :
      Planned platform seen (.assignNextWork draws workerId) .nothing
  | createAttempt (draws : Draws) (workUnitId routePlanId policyDecisionId : String)
      (status : ExecutionAttemptStatus) (eventType : String) (read : Db) (rest : List Db)
      (saw : seen = read :: rest) :
      Planned platform seen
        (.createAttempt draws workUnitId routePlanId policyDecisionId status eventType)
        (.insertAttempt draws workUnitId routePlanId policyDecisionId status eventType
          (Scheduler.nextAttemptNumber read workUnitId))
  | scheduleRetry (draws : Draws) (attemptId : String) (found read : Db) (rest : List Db)
      (row : AttemptRow) (saw : seen = found :: read :: rest)
      (attempted : Scheduler.attempt attemptId found = .ok row) :
      Planned platform seen (.scheduleRetry draws attemptId)
        (.insertAttempt draws row.workUnitId row.routePlanId row.policyDecisionId .scheduled
          "scheduler.retry_scheduled" (Scheduler.nextAttemptNumber read row.workUnitId))
  | scheduleFallback (draws : Draws) (attemptId : String) (found read : Db) (rest : List Db)
      (row : AttemptRow) (saw : seen = found :: read :: rest)
      (attempted : Scheduler.attempt attemptId found = .ok row) :
      Planned platform seen (.scheduleFallback draws attemptId)
        (.insertAttempt draws row.workUnitId row.routePlanId row.policyDecisionId .scheduled
          "scheduler.fallback_scheduled" (Scheduler.nextAttemptNumber read row.workUnitId))
  | createAssignment (draws : Draws) (request : Scheduler.AssignmentRequest) (read : Db)
      (row : AttemptRow) (looked : read ∈ seen)
      (attempted : Scheduler.attempt request.attemptId read = .ok row) :
      Planned platform seen (.createAssignment draws request)
        (.insertAssignment draws request row.workUnitId)
  | assignNextWork (draws : Draws) (workerId : String) (nodes waiting read : Db) (rest : List Db)
      (request : Scheduler.AssignmentRequest) (chosen row : AttemptRow)
      (saw : seen = nodes :: waiting :: read :: rest)
      (next : Scheduler.nextAttempt waiting = some (request.attemptId, chosen))
      (attempted : Scheduler.attempt request.attemptId read = .ok row) :
      Planned platform seen (.assignNextWork draws workerId)
        (.insertAssignment draws request row.workUnitId)
  | accept (draws : Draws) (assignmentId workerId : String)
      (expectedLeaseVersion leaseDurationMs : Int) (read : Db) (assignment : AssignmentRow)
      (expiresAt : String) (looked : read ∈ seen)
      (found : Scheduler.assignmentForWorker assignmentId workerId read = .ok assignment)
      (created : assignment.status = .created)
      (expiry : Lease.leaseExpiry draws 0 leaseDurationMs = .ok expiresAt) :
      Planned platform seen
        (.acceptAssignment draws assignmentId workerId expectedLeaseVersion leaseDurationMs)
        (.accept draws assignmentId workerId expectedLeaseVersion expiresAt assignment)
  | reject (draws : Draws) (assignmentId workerId : String) (read : Db)
      (assignment : AssignmentRow) (looked : read ∈ seen)
      (found : Scheduler.assignmentForWorker assignmentId workerId read = .ok assignment) :
      Planned platform seen (.rejectAssignment draws assignmentId workerId)
        (.reject draws assignmentId workerId assignment)
  | progress (draws : Draws) (assignmentId workerId leaseToken : String)
      (expectedLeaseVersion leaseDurationMs : Int) (read : Db) (assignment : AssignmentRow)
      (expiresAt : String) (looked : read ∈ seen)
      (found : Scheduler.assignmentForWorker assignmentId workerId read = .ok assignment)
      (matched : Lease.TokenMatches platform assignment.leaseTokenHash (some leaseToken))
      (expiry : Lease.leaseExpiry draws 0 leaseDurationMs = .ok expiresAt) :
      Planned platform seen
        (.progressAssignment draws assignmentId workerId leaseToken expectedLeaseVersion
          leaseDurationMs)
        (.progress draws assignmentId workerId expectedLeaseVersion expiresAt assignment)
  | submit (draws : Draws) (submission : Scheduler.Submission) (read attempted looked : Db)
      (assignment : AssignmentRow) (row : AttemptRow) (envelope : Option WorkUnitResultEnvelope)
      (saw : seen.take 3 = [read, attempted, looked])
      (admitted : Admitted platform submission read attempted assignment row envelope) :
      Planned platform seen (.submitResult draws submission)
        (.submit draws submission.assignmentId assignment
          (Scheduler.newerAttemptExists looked row.workUnitId row.attemptNumber)
          (Scheduler.submittedResult platform draws submission.assignmentId assignment
            submission.output
            (Scheduler.newerAttemptExists looked row.workUnitId row.attemptNumber) envelope))
  | sweep (draws : Draws) (read : Db) (looked : read ∈ seen) :
      Planned platform seen (.sweepExpiredLeases draws)
        (.sweep draws (Scheduler.expiredLeases (draws.utcText 0) read))

/-- Every plan comes about in one of these ways. -/
theorem plan_some (platform : Platform) (op : SchedulerOp) (seen : List Db) (plan : Plan)
    (planned : op.plan platform seen = some plan) : Planned platform seen op plan := by
  cases op with
  | createAttempt draws workUnitId routePlanId policyDecisionId status eventType =>
    cases seen with
    | nil => cases planned
    | cons read rest =>
      have same_plan := Option.some.inj planned
      subst same_plan
      exact .createAttempt _ _ _ _ _ _ read rest rfl
  | createAssignment draws request =>
    obtain ⟨read, member, row, attempted, rfl⟩ := assignmentPlan_some _ _ _ _ planned
    exact .createAssignment draws request read row member attempted
  | assignNextWork draws workerId =>
    rcases nextWorkPlan_some _ _ _ _ planned with
      rfl | ⟨nodes, waiting, read, rest, request, chosen, row, saw, next, attempted, rfl⟩
    · exact .nothing draws workerId
    · exact .assignNextWork draws workerId nodes waiting read rest request chosen row saw next
        attempted
  | acceptAssignment draws assignmentId workerId expectedLeaseVersion leaseDurationMs =>
    obtain ⟨read, member, assignment, expiresAt, found, created, expiry, rfl⟩ :=
      acceptPlan_some _ _ _ _ _ _ _ planned
    exact .accept _ _ _ _ _ read assignment expiresAt member found created expiry
  | rejectAssignment draws assignmentId workerId =>
    obtain ⟨read, member, assignment, found, rfl⟩ := rejectPlan_some _ _ _ _ _ planned
    exact .reject _ _ _ read assignment member found
  | progressAssignment draws assignmentId workerId leaseToken expectedLeaseVersion
      leaseDurationMs =>
    obtain ⟨read, member, assignment, expiresAt, found, matched, expiry, rfl⟩ :=
      progressPlan_some _ _ _ _ _ _ _ _ _ planned
    exact .progress _ _ _ _ _ _ read assignment expiresAt member found matched expiry
  | submitResult draws submission =>
    obtain ⟨read, attempted, looked, assignment, row, envelope, saw, admitted, rfl⟩ :=
      (submitPlan_some_iff _ _ _ _ _).mp planned
    exact .submit _ _ read attempted looked assignment row envelope saw admitted
  | scheduleRetry draws attemptId =>
    obtain ⟨found, read, rest, row, saw, attempted, rfl⟩ :=
      reschedulePlan_some _ _ _ _ _ planned
    exact .scheduleRetry draws attemptId found read rest row saw attempted
  | scheduleFallback draws attemptId =>
    obtain ⟨found, read, rest, row, saw, attempted, rfl⟩ :=
      reschedulePlan_some _ _ _ _ _ planned
    exact .scheduleFallback draws attemptId found read rest row saw attempted
  | sweepExpiredLeases draws =>
    cases seen with
    | nil => cases planned
    | cons read rest =>
      have same_plan := Option.some.inj planned
      subst same_plan
      exact .sweep draws read List.mem_cons_self

end SchedulerOp

/-- Performing a plan in a store: the reply and the store it commits. -/
inductive Performed (platform : Platform) (store : Db) : Plan → Reply → Db → Prop
  | nothing : Performed platform store .nothing (.assignment none) store
  | insertAttempt (draws : Draws) (workUnitId routePlanId policyDecisionId : String)
      (status : ExecutionAttemptStatus) (eventType : String) (attemptNumber : Nat) (after : Db)
      (inserted : Scheduler.AttemptInserted draws workUnitId routePlanId policyDecisionId status
        eventType attemptNumber store after) :
      Performed platform store
        (.insertAttempt draws workUnitId routePlanId policyDecisionId status eventType
          attemptNumber)
        (.attempt (Scheduler.attemptId draws)) after
  | insertAssignment (draws : Draws) (request : Scheduler.AssignmentRequest) (workUnitId : String)
      (after : Db) (inserted : Scheduler.AssignmentInserted draws request workUnitId store after) :
      Performed platform store (.insertAssignment draws request workUnitId)
        (.assignment (some (Scheduler.assignmentId draws))) after
  | accept (draws : Draws) (assignmentId workerId : String) (expectedLeaseVersion : Int)
      (expiresAt : String) (assignment : AssignmentRow) (grant : Scheduler.LeaseGrant) (after : Db)
      (accepted : Scheduler.Accepted platform draws assignmentId workerId expectedLeaseVersion
        expiresAt assignment store grant after) :
      Performed platform store
        (.accept draws assignmentId workerId expectedLeaseVersion expiresAt assignment)
        (.grant grant) after
  | reject (draws : Draws) (assignmentId workerId : String) (assignment : AssignmentRow)
      (after : Db)
      (rejected : Scheduler.Rejected draws assignmentId workerId assignment store after) :
      Performed platform store (.reject draws assignmentId workerId assignment)
        (.rejected assignmentId) after
  | progress (draws : Draws) (assignmentId workerId : String) (expectedLeaseVersion : Int)
      (expiresAt : String) (assignment : AssignmentRow) (reply : Scheduler.ProgressReply)
      (after : Db)
      (progressed : Scheduler.Progressed draws assignmentId workerId expectedLeaseVersion expiresAt
        assignment store reply after) :
      Performed platform store
        (.progress draws assignmentId workerId expectedLeaseVersion expiresAt assignment)
        (.progress reply) after
  | submit (draws : Draws) (assignmentId : String) (assignment : AssignmentRow) (late : Bool)
      (result : Scheduler.SubmittedResult) (after : Db)
      (submitted : Scheduler.Submitted draws assignmentId assignment result store late after) :
      Performed platform store (.submit draws assignmentId assignment late result)
        (.submission result.reply) after
  | sweep (draws : Draws) (rows : List (String × AssignmentRow)) (after : Db)
      (swept : Scheduler.Swept draws rows store after) :
      Performed platform store (.sweep draws rows) (.swept rows.length) after

/-- A plan can be performed in one way only. -/
theorem Performed.unique {platform : Platform} {store left right : Db} {plan : Plan}
    {leftReply rightReply : Reply} (one : Performed platform store plan leftReply left)
    (other : Performed platform store plan rightReply right) :
    leftReply = rightReply ∧ left = right := by
  cases one with
  | nothing =>
    cases other
    exact ⟨rfl, rfl⟩
  | insertAttempt _ _ _ _ _ _ _ left inserted =>
    cases other with
    | insertAttempt _ _ _ _ _ _ _ right insertedToo =>
      cases inserted
      cases insertedToo
      simp_all
  | insertAssignment _ _ _ left inserted =>
    cases other with
    | insertAssignment _ _ _ right insertedToo =>
      cases inserted
      cases insertedToo
      simp_all
  | accept _ _ _ _ _ _ grant left accepted =>
    cases other with
    | accept _ _ _ _ _ _ grantToo right acceptedToo =>
      cases accepted
      cases acceptedToo
      simp_all
  | reject _ _ _ _ left rejected =>
    cases other with
    | reject _ _ _ _ right rejectedToo =>
      cases rejected
      cases rejectedToo
      simp_all
  | progress _ _ _ _ _ _ reply left progressed =>
    cases other with
    | progress _ _ _ _ _ _ replyToo right progressedToo =>
      cases progressed
      cases progressedToo
      simp_all
  | submit _ _ _ _ _ left submitted =>
    cases other with
    | submit _ _ _ _ _ right submittedToo =>
      cases submitted <;> cases submittedToo <;> simp_all
  | sweep _ _ left swept =>
    cases other with
    | sweep _ _ right sweptToo =>
      cases swept
      cases sweptToo
      simp_all

end TokenBank
