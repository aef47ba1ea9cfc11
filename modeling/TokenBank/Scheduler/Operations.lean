import TokenBank.Scheduler.Lifecycle

/-!
# The scheduler's operations

Each operation reads what it needs statement by statement and then makes its
changes in one transaction opened with an immediate write lock. The parts that
run inside a transaction are definitions of their own, named after the operation
they belong to, and take as arguments the rows read before it.
-/

namespace TokenBank

namespace Scheduler

/-- The source named in the scheduler's events. -/
def eventSource : String := "tokenbank.scheduler"

/-- Read a row of `execution_attempts`, or raise. -/
def attempt (attemptId : String) (db : Db) : Except Raised AttemptRow :=
  match db.executionAttempts.find? attemptId with
  | some row => .ok row
  | none => .error (.keyError ("attempt not found: " ++ attemptId))

/-- Read an assignment that belongs to the worker, or raise. -/
def assignmentForWorker (assignmentId workerId : String) (db : Db) :
    Except Raised AssignmentRow :=
  match db.assignments.find? assignmentId with
  | none => .error (.keyError ("assignment not found: " ++ assignmentId))
  | some row =>
    if row.workerId ≠ workerId then
      .error (.permissionError "worker can only access own assignment")
    else .ok row

/-- Reading an attempt succeeds exactly with its row. -/
theorem attempt_ok_iff (attemptId : String) (db : Db) (row : AttemptRow) :
    attempt attemptId db = .ok row ↔ db.executionAttempts.find? attemptId = some row := by
  unfold attempt
  cases db.executionAttempts.find? attemptId <;> simp

/-- Reading an assignment for a worker succeeds exactly with the worker's row. -/
theorem assignmentForWorker_ok_iff (assignmentId workerId : String) (db : Db)
    (row : AssignmentRow) : assignmentForWorker assignmentId workerId db = .ok row ↔
      db.assignments.find? assignmentId = some row ∧ row.workerId = workerId := by
  unfold assignmentForWorker
  cases found : db.assignments.find? assignmentId with
  | none => simp
  | some stored =>
    by_cases own : stored.workerId = workerId
    · simp only [own, ne_eq, not_true_eq_false, if_false, Except.ok.injEq, Option.some.injEq]
      constructor
      · rintro rfl
        exact ⟨rfl, own⟩
      · exact And.left
    · simp only [ne_eq, own, not_false_eq_true, if_true, reduceCtorEq, Option.some.injEq, false_iff]
      rintro ⟨rfl, same⟩
      exact own same

/-- What was read for a worker is the stored row, and the worker's. -/
theorem assignmentForWorker_stored (assignmentId workerId : String) (db : Db)
    (row assignment : AssignmentRow) (found : db.assignments.find? assignmentId = some row)
    (own : assignmentForWorker assignmentId workerId db = .ok assignment) :
    row = assignment ∧ row.workerId = workerId := by
  obtain ⟨stored, worker⟩ := (assignmentForWorker_ok_iff _ _ _ _).mp own
  have same_row : row = assignment := Option.some.inj (found.symm.trans stored)
  exact ⟨same_row, same_row ▸ worker⟩

/-- The attempt numbers of a work unit, in insertion order. -/
def attemptNumbers (db : Db) (workUnitId : String) : List Nat :=
  db.executionAttempts.entries.filterMap (fun entry =>
    if entry.2.workUnitId = workUnitId then some entry.2.attemptNumber else none)

/-- One more than the greatest attempt number of a work unit. -/
def nextAttemptNumber (db : Db) (workUnitId : String) : Nat :=
  Store.maximum (attemptNumbers db workUnitId) + 1

/-- The work unit has an attempt with a greater number. -/
def newerAttemptExists (db : Db) (workUnitId : String) (attemptNumber : Nat) : Bool :=
  (attemptNumbers db workUnitId).any (fun number => attemptNumber < number)

/-! ## Creating attempts -/

/-- The id of the attempt a call creates. -/
def attemptId (draws : Draws) : String := "att_" ++ draws.uuid 0

/-- The document of a new attempt. -/
def attemptBody (draws : Draws) (workUnitId routePlanId policyDecisionId : String)
    (status : ExecutionAttemptStatus) (attemptNumber : Nat) : JsonObject :=
  [("attempt_id", .str (attemptId draws)), ("work_unit_id", .str workUnitId),
    ("route_plan_id", .str routePlanId), ("policy_decision_id", .str policyDecisionId),
    ("attempt_number", .nat attemptNumber), ("status", .str status.text),
    ("created_at", .str (draws.utcText 0))]

/-- The row of a new attempt. -/
def attemptRow (draws : Draws) (workUnitId routePlanId policyDecisionId : String)
    (status : ExecutionAttemptStatus) (attemptNumber : Nat) : AttemptRow where
  workUnitId := workUnitId
  routePlanId := routePlanId
  policyDecisionId := policyDecisionId
  status := status
  body := .obj (attemptBody draws workUnitId routePlanId policyDecisionId status attemptNumber)
  createdAt := draws.utcText 0
  attemptNumber := attemptNumber

/-- The event of a new attempt. -/
def attemptEvent (draws : Draws) (workUnitId routePlanId policyDecisionId : String)
    (status : ExecutionAttemptStatus) (eventType : String) (attemptNumber : Nat) :
    OutboxEventInput :=
  draws.event 1 eventSource eventType ("attempts/" ++ attemptId draws) (some workUnitId)
    (some (attemptId draws)) none
    (attemptBody draws workUnitId routePlanId policyDecisionId status attemptNumber)

/-- Every row a new attempt refers to exists. -/
def attemptReferences (workUnitId routePlanId policyDecisionId : String) (db : Db) : Bool :=
  (db.workUnits.find? workUnitId).isSome && db.routePlans.contains routePlanId &&
    db.policyDecisions.contains policyDecisionId

/-- The transaction of `createAttempt`. -/
def createAttemptWrites (draws : Draws) (workUnitId routePlanId policyDecisionId : String)
    (status : ExecutionAttemptStatus) (eventType : String) (attemptNumber : Nat) :
    Store.Block Db Raised String := do
  .put (fun db =>
    (Db.inserting "execution_attempts.attempt_id"
      (attemptReferences workUnitId routePlanId policyDecisionId db) db.executionAttempts
      (attemptId draws)
      (attemptRow draws workUnitId routePlanId policyDecisionId status attemptNumber)).map
        (fun attempts => { db with executionAttempts := attempts }))
  let _ ← Outbox.enqueueEvent
    (attemptEvent draws workUnitId routePlanId policyDecisionId status eventType attemptNumber)
    (draws.utcText 1)
  return attemptId draws

/-- Create an attempt under the next attempt number of its work unit. -/
def createAttempt (draws : Draws) (workUnitId routePlanId policyDecisionId : String)
    (status : ExecutionAttemptStatus) (eventType : String) :
    Store.Client Db Raised String := do
  let attemptNumber ← .fetch (fun db => .ok (nextAttemptNumber db workUnitId))
  .transaction Db.nestedTransaction
    (createAttemptWrites draws workUnitId routePlanId policyDecisionId status eventType
      attemptNumber)

/-- Create a further attempt for the work unit of an attempt, as scheduled. -/
def rescheduleAs (eventType : String) (draws : Draws) (attemptId : String) :
    Store.Client Db Raised String := do
  let row ← .fetch (attempt attemptId)
  createAttempt draws row.workUnitId row.routePlanId row.policyDecisionId .scheduled eventType

/-- Schedule a retry. -/
def scheduleRetry (draws : Draws) (attemptId : String) : Store.Client Db Raised String :=
  rescheduleAs "scheduler.retry_scheduled" draws attemptId

/-- Schedule a fallback. -/
def scheduleFallback (draws : Draws) (attemptId : String) : Store.Client Db Raised String :=
  rescheduleAs "scheduler.fallback_scheduled" draws attemptId

/-! ## Creating assignments -/

/-- The id of the assignment a call creates. -/
def assignmentId (draws : Draws) : String := "asg_" ++ draws.uuid 0

/-- What the caller chooses about a new assignment. -/
structure AssignmentRequest where
  attemptId : String
  workerId : String
  capacityNodeId : String
  backendId : String
  backendClass : Option String := none
  effectiveConstraints : Option JsonObject := none

/-- The constraints stored when the caller gives none. -/
def AssignmentRequest.constraints (request : AssignmentRequest) : JsonObject :=
  request.effectiveConstraints.getD []

/-- The document of a new assignment. -/
def assignmentBody (draws : Draws) (request : AssignmentRequest) (workUnitId : String) :
    JsonObject :=
  [("assignment_id", .str (assignmentId draws)), ("attempt_id", .str request.attemptId),
    ("work_unit_id", .str workUnitId), ("worker_id", .str request.workerId),
    ("capacity_node_id", .str request.capacityNodeId), ("backend_id", .str request.backendId),
    ("backend_class", .optional request.backendClass), ("status", .str "created"),
    ("lease_version", .int 0), ("effective_constraints", .obj request.constraints),
    ("assigned_at", .str (draws.utcText 0))]

/-- The row of a new assignment: created, without a lease. -/
def assignmentRow (draws : Draws) (request : AssignmentRequest) (workUnitId : String) :
    AssignmentRow where
  attemptId := request.attemptId
  workUnitId := workUnitId
  workerId := request.workerId
  status := .created
  body := .obj (assignmentBody draws request workUnitId)
  createdAt := draws.utcText 0
  capacityNodeId := some request.capacityNodeId
  backendId := some request.backendId
  effectiveConstraints := .obj request.constraints
  assignedAt := some (draws.utcText 0)
  updatedAt := some (draws.utcText 0)

/-- The events of a new assignment. -/
def assignmentEvents (draws : Draws) (request : AssignmentRequest) (workUnitId : String) :
    List (OutboxEventInput × String) :=
  [(Lifecycle.statusEvent draws 1 workUnitId .assigned "scheduler" (some "work_unit.assigned"),
      draws.utcText 2),
    (draws.event 3 eventSource "assignment.created" ("assignments/" ++ assignmentId draws)
      (some workUnitId) (some request.attemptId) (some (assignmentId draws))
      (assignmentBody draws request workUnitId), draws.utcText 3)]

/-- Write one attempt. -/
def setAttempt (attemptId : String) (rewrite : AttemptRow → AttemptRow) (db : Db) : Db :=
  { db with executionAttempts := db.executionAttempts.modify attemptId rewrite }

/-- Write one assignment. -/
def setAssignment (assignmentId : String) (rewrite : AssignmentRow → AssignmentRow) (db : Db) :
    Db :=
  { db with assignments := db.assignments.modify assignmentId rewrite }

/-- The transaction of `createAssignment`. -/
def createAssignmentWrites (draws : Draws) (request : AssignmentRequest) (workUnitId : String) :
    Store.Block Db Raised String := do
  .put (fun db =>
    (Db.inserting "assignments.assignment_id"
      ((db.executionAttempts.find? request.attemptId).isSome &&
        (db.workUnits.find? workUnitId).isSome) db.assignments
      (assignmentId draws) (assignmentRow draws request workUnitId)).map
        (fun assignments => { db with assignments := assignments }))
  .put (fun db => .ok (setAttempt request.attemptId (fun row => { row with status := .assigned }) db))
  Lifecycle.updateWorkUnitStatus draws 1 1 workUnitId .assigned "scheduler"
    (some "work_unit.assigned")
  let _ ← Outbox.enqueueEvent
    (draws.event 3 eventSource "assignment.created" ("assignments/" ++ assignmentId draws)
      (some workUnitId) (some request.attemptId) (some (assignmentId draws))
      (assignmentBody draws request workUnitId))
    (draws.utcText 3)
  return assignmentId draws

/-- Assign an attempt to a worker. -/
def createAssignment (draws : Draws) (request : AssignmentRequest) :
    Store.Client Db Raised String := do
  let row ← .fetch (attempt request.attemptId)
  .transaction Db.nestedTransaction (createAssignmentWrites draws request row.workUnitId)

/-- The capacity node of a worker with the least id. -/
def capacityNodeOf (workerId : String) (db : Db) : Option (String × CapacityNodeRow) :=
  Store.first (fun left right => decide (left.1 < right.1))
    (db.capacityNodes.select (fun _ row => decide (row.workerId = some workerId)))

/-- The oldest attempt that is still to be assigned, by creation time and then by
attempt number. -/
def nextAttempt (db : Db) : Option (String × AttemptRow) :=
  Store.first (fun left right => decide (left.2.createdAt < right.2.createdAt) ||
      (decide (left.2.createdAt = right.2.createdAt) &&
        decide (left.2.attemptNumber < right.2.attemptNumber)))
    (db.executionAttempts.select (fun _ row =>
      decide (row.status = .created) || decide (row.status = .scheduled)))

/-- The request for assigning an attempt to a worker's capacity node. -/
def nextRequest (workerId attemptId nodeId backendId : String) : AssignmentRequest where
  attemptId := attemptId
  workerId := workerId
  capacityNodeId := nodeId
  backendId := backendId

/-- Assign the oldest waiting attempt to a worker, on its first backend. Without
a capacity node, an attempt or a backend there is nothing to assign. -/
def assignNextWork (draws : Draws) (workerId : String) :
    Store.Client Db Raised (Option String) := do
  let node ← .fetch (fun db => .ok (capacityNodeOf workerId db))
  match node with
  | none => return none
  | some (nodeId, nodeRow) =>
    let waiting ← .fetch (fun db => .ok (nextAttempt db))
    match waiting with
    | none => return none
    | some (attemptId, _) =>
      match nodeRow.backendIds with
      | [] => return none
      | backendId :: _ =>
        let created ← createAssignment draws (nextRequest workerId attemptId nodeId backendId)
        return some created

/-! ## Accepting, rejecting and progressing -/

/-- What a worker gets for accepting an assignment. -/
structure LeaseGrant where
  assignmentId : String
  leaseToken : String
  leaseVersion : Int
  leaseExpiresAt : String
deriving DecidableEq

/-- The columns an acceptance writes. -/
def acceptUpdate (platform : Platform) (draws : Draws) (expiresAt : String) :
    Lease.LeaseUpdate where
  status := .accepted
  leaseExpiresAt := some expiresAt
  leaseTokenHash := some (Lease.leaseTokenHash platform (Lease.newLeaseToken draws))
  leaseTokenPrefix := some (Lease.leaseTokenPrefix (Lease.newLeaseToken draws))
  acceptedAt := some (draws.utcText 1)
  updatedAt := draws.utcText 2

/-- The attempt of an accepted assignment: running, started once. -/
def startAttempt (startedAt : String) (row : AttemptRow) : AttemptRow :=
  { row with status := .running, startedAt := row.startedAt.or (some startedAt) }

/-- The event of an acceptance. -/
def acceptedEvent (draws : Draws) (assignmentId workerId : String) (assignment : AssignmentRow)
    (leaseVersion : Int) : OutboxEventInput :=
  draws.event 2 eventSource "assignment.accepted" ("assignments/" ++ assignmentId)
    (some assignment.workUnitId) (some assignment.attemptId) (some assignmentId)
    [("assignment_id", .str assignmentId), ("worker_id", .str workerId),
      ("lease_version", .int leaseVersion),
      ("lease_token_prefix", .str (Lease.leaseTokenPrefix (Lease.newLeaseToken draws)))]

/-- The transaction of `acceptAssignment`. -/
def acceptAssignmentWrites (platform : Platform) (draws : Draws) (assignmentId workerId : String)
    (expectedLeaseVersion : Int) (expiresAt : String) (assignment : AssignmentRow) :
    Store.Block Db Raised LeaseGrant := do
  let updated ← Lease.conditionalAssignmentUpdate assignmentId expectedLeaseVersion
    (acceptUpdate platform draws expiresAt)
  .put (fun db => .ok (setAttempt assignment.attemptId (startAttempt (draws.utcText 1)) db))
  Lifecycle.updateWorkUnitStatus draws 3 0 assignment.workUnitId .running "scheduler"
    (some "work_unit.running")
  let _ ← Outbox.enqueueEvent
    (acceptedEvent draws assignmentId workerId assignment updated.leaseVersion) (draws.utcText 5)
  return ⟨assignmentId, Lease.newLeaseToken draws, updated.leaseVersion, expiresAt⟩

/-- Accept a created assignment and lease it. -/
def acceptAssignment (platform : Platform) (draws : Draws) (assignmentId workerId : String)
    (expectedLeaseVersion leaseDurationMs : Int) : Store.Client Db Raised LeaseGrant := do
  let assignment ← .fetch (assignmentForWorker assignmentId workerId)
  .ofExcept (Store.ensure (assignment.status = .created)
    (.leaseConflictError "assignment is not in created status"))
  let expiresAt ← .ofExcept (Lease.leaseExpiry draws 0 leaseDurationMs)
  .transaction Db.nestedTransaction
    (acceptAssignmentWrites platform draws assignmentId workerId expectedLeaseVersion expiresAt
      assignment)

/-- The assignment of a rejection. -/
def rejectRow (updatedAt : String) (row : AssignmentRow) : AssignmentRow :=
  { row with status := .rejected, updatedAt := some updatedAt }

/-- The attempt of an ended assignment. -/
def endAttempt (status : ExecutionAttemptStatus) (completedAt : String) (row : AttemptRow) :
    AttemptRow :=
  { row with status := status, completedAt := some completedAt }

/-- The event of a rejection. -/
def rejectedEvent (draws : Draws) (assignmentId workerId : String) (assignment : AssignmentRow) :
    OutboxEventInput :=
  draws.event 0 eventSource "assignment.rejected" ("assignments/" ++ assignmentId)
    (some assignment.workUnitId) (some assignment.attemptId) (some assignmentId)
    [("assignment_id", .str assignmentId), ("worker_id", .str workerId)]

/-- The transaction of `rejectAssignment`. -/
def rejectAssignmentWrites (draws : Draws) (assignmentId workerId : String)
    (assignment : AssignmentRow) : Store.Block Db Raised String := do
  .put (fun db => .ok (setAssignment assignmentId (rejectRow (draws.utcText 0)) db))
  .put (fun db => .ok (setAttempt assignment.attemptId (endAttempt .failed (draws.utcText 0)) db))
  let _ ← Outbox.enqueueEvent (rejectedEvent draws assignmentId workerId assignment)
    (draws.utcText 1)
  return assignmentId

/-- Reject an assignment, whatever its status; its attempt fails. The reply names
the assignment, with the status `rejected`. -/
def rejectAssignment (draws : Draws) (assignmentId workerId : String) :
    Store.Client Db Raised String := do
  let assignment ← .fetch (assignmentForWorker assignmentId workerId)
  .transaction Db.nestedTransaction (rejectAssignmentWrites draws assignmentId workerId assignment)

/-- The reply to a progress report, with the status `running`. -/
structure ProgressReply where
  assignmentId : String
  leaseVersion : Int
  leaseExpiresAt : String
deriving DecidableEq

/-- The columns a progress report writes. -/
def progressUpdate (draws : Draws) (expiresAt : String) : Lease.LeaseUpdate where
  status := .running
  leaseExpiresAt := some expiresAt
  updatedAt := draws.utcText 1

/-- The event of a progress report. -/
def progressEvent (draws : Draws) (assignmentId workerId : String) (assignment : AssignmentRow)
    (leaseVersion : Int) : OutboxEventInput :=
  draws.event 0 eventSource "assignment.progress" ("assignments/" ++ assignmentId)
    (some assignment.workUnitId) (some assignment.attemptId) (some assignmentId)
    [("assignment_id", .str assignmentId), ("worker_id", .str workerId),
      ("lease_version", .int leaseVersion)]

/-- The transaction of `progressAssignment`. -/
def progressAssignmentWrites (draws : Draws) (assignmentId workerId : String)
    (expectedLeaseVersion : Int) (expiresAt : String) (assignment : AssignmentRow) :
    Store.Block Db Raised ProgressReply := do
  let updated ← Lease.conditionalAssignmentUpdate assignmentId expectedLeaseVersion
    (progressUpdate draws expiresAt)
  let _ ← Outbox.enqueueEvent
    (progressEvent draws assignmentId workerId assignment updated.leaseVersion) (draws.utcText 2)
  return ⟨assignmentId, updated.leaseVersion, expiresAt⟩

/-- Report progress under a lease token and extend the lease. -/
def progressAssignment (platform : Platform) (draws : Draws) (assignmentId workerId : String)
    (leaseToken : String) (expectedLeaseVersion leaseDurationMs : Int) :
    Store.Client Db Raised ProgressReply := do
  let assignment ← .fetch (assignmentForWorker assignmentId workerId)
  .ofExcept (Lease.verifyLeaseToken platform assignment.leaseTokenHash (some leaseToken))
  let expiresAt ← .ofExcept (Lease.leaseExpiry draws 0 leaseDurationMs)
  .transaction Db.nestedTransaction
    (progressAssignmentWrites draws assignmentId workerId expectedLeaseVersion expiresAt assignment)

/-! ## Submitting results -/

/-- The envelope argument: absent, a document still to be validated, or a model. -/
inductive EnvelopeArgument : Type
  | absent
  | document (value : JsonObject)
  | model (envelope : WorkUnitResultEnvelope)

/-- The validated envelope, if one was given. -/
def coerceResultEnvelope (platform : Platform) :
    EnvelopeArgument → Except Raised (Option WorkUnitResultEnvelope)
  | .absent => .ok none
  | .model envelope => .ok (some envelope)
  | .document value =>
    match platform.modelValidate value with
    | some envelope => .ok (some envelope)
    | none => .error .validationError

/-- Refuse an envelope of another assignment or worker. -/
def validateResultEnvelopeForAssignment (envelope : WorkUnitResultEnvelope)
    (assignmentId : String) (assignment : AssignmentRow) : Except Raised Unit :=
  if ¬(envelope.workUnitId = assignment.workUnitId ∧ envelope.attemptId = assignment.attemptId ∧
      envelope.assignmentId = assignmentId) then
    .error (.permissionError "result envelope does not match assignment lease")
  else if envelope.workerId ≠ none ∧ envelope.workerId ≠ some assignment.workerId then
    .error (.permissionError "result envelope worker_id does not match assignment")
  else .ok ()

/-- The given envelope, validated and matched against the assignment. -/
def acceptedEnvelope (platform : Platform) (argument : EnvelopeArgument) (assignmentId : String)
    (assignment : AssignmentRow) : Except Raised (Option WorkUnitResultEnvelope) :=
  match coerceResultEnvelope platform argument with
  | .error error => .error error
  | .ok none => .ok none
  | .ok (some envelope) =>
    (validateResultEnvelopeForAssignment envelope assignmentId assignment).map
      (fun _ => some envelope)

/-- An accepted envelope is the one given, after validation. -/
theorem coerced_of_accepted (platform : Platform) (argument : EnvelopeArgument)
    (assignmentId : String) (assignment : AssignmentRow) (envelope : Option WorkUnitResultEnvelope)
    (accepted : acceptedEnvelope platform argument assignmentId assignment =
      .ok envelope) : coerceResultEnvelope platform argument = .ok envelope := by
  unfold acceptedEnvelope at accepted
  split at accepted
  · cases accepted
  · rename_i coerced
    have same_value := Except.ok.inj accepted
    subst same_value
    exact coerced
  · rename_i given coerced
    obtain ⟨-, -, rfl⟩ := (Store.map_ok_iff _ _ _).mp accepted
    exact coerced

/-- What a submission stores about its result. -/
structure SubmittedResult where
  resultEnvelopeId : String
  status : ResultEnvelopeStatus
  outputHash : String
  resultHash : String
  body : JsonObject

/-- The reply to a submission. -/
structure SubmissionReply where
  status : ResultEnvelopeStatus
  resultEnvelopeId : String
  outputHash : String
  resultHash : String
deriving DecidableEq

/-- What is returned about a result. -/
def SubmittedResult.reply (result : SubmittedResult) : SubmissionReply where
  status := result.status
  resultEnvelopeId := result.resultEnvelopeId
  outputHash := result.outputHash
  resultHash := result.resultHash

/-- The result of a submission with an envelope: the worker's, quarantined when
it is late. -/
def envelopeResult (envelope : WorkUnitResultEnvelope) (late : Bool) : SubmittedResult :=
  let status := if late then .quarantined else envelope.status
  { resultEnvelopeId := envelope.resultEnvelopeId
    status := status
    outputHash := envelope.outputHash
    resultHash := envelope.resultHash
    body := envelope.dumpWithStatus status }

/-- The result of a submission of raw output: a new id, hashes of the output, and
success unless it is late. -/
def rawResult (platform : Platform) (draws : Draws) (assignmentId : String)
    (assignment : AssignmentRow) (output : JsonObject) (late : Bool) : SubmittedResult :=
  let status : ResultEnvelopeStatus := if late then .quarantined else .succeeded
  let outputHash := Canonical.outputHash platform.sha256 (.obj output)
  let resultHash := Canonical.resultHash platform.sha256 (.obj
    [("attempt_id", .str assignment.attemptId), ("assignment_id", .str assignmentId),
      ("backend_id", .optional assignment.backendId), ("output_hash", .str outputHash),
      ("status", .str status.text), ("usage_summary", .obj [])])
  { resultEnvelopeId := "res_" ++ draws.uuid 0
    status := status
    outputHash := outputHash
    resultHash := resultHash
    body := [("result_envelope_id", .str ("res_" ++ draws.uuid 0)),
      ("work_unit_id", .str assignment.workUnitId), ("attempt_id", .str assignment.attemptId),
      ("assignment_id", .str assignmentId), ("status", .str status.text), ("output", .obj output),
      ("output_hash", .str outputHash), ("result_hash", .str resultHash)] }

/-- The result of a submission: the envelope's if there is one. -/
def submittedResult (platform : Platform) (draws : Draws) (assignmentId : String)
    (assignment : AssignmentRow) (output : JsonObject) (late : Bool) :
    Option WorkUnitResultEnvelope → SubmittedResult
  | some envelope => envelopeResult envelope late
  | none => rawResult platform draws assignmentId assignment output late

/-- The id under which a submission's result is stored: the worker's, or a new one. -/
def resultId (draws : Draws) : Option WorkUnitResultEnvelope → String
  | some envelope => envelope.resultEnvelopeId
  | none => "res_" ++ draws.uuid 0

/-- A submitted result carries that id, late or not. -/
@[simp] theorem submittedResult_id (platform : Platform) (draws : Draws) (assignmentId : String)
    (assignment : AssignmentRow) (output : JsonObject) (late : Bool)
    (envelope : Option WorkUnitResultEnvelope) :
    (submittedResult platform draws assignmentId assignment output late envelope).resultEnvelopeId =
      resultId draws envelope := by
  cases envelope <;> rfl

/-- The row of a submitted result. -/
def resultEnvelopeRow (draws : Draws) (assignmentId : String) (assignment : AssignmentRow)
    (result : SubmittedResult) : ResultEnvelopeRow where
  workUnitId := assignment.workUnitId
  attemptId := assignment.attemptId
  assignmentId := assignmentId
  status := result.status
  outputHash := result.outputHash
  resultHash := result.resultHash
  body := .obj result.body
  createdAt := draws.utcText 0

/-- The row that quarantines a late result. -/
def quarantineRow (draws : Draws) (assignmentId : String) (assignment : AssignmentRow)
    (result : SubmittedResult) : QuarantineRow where
  resultEnvelopeId := some result.resultEnvelopeId
  workUnitId := assignment.workUnitId
  attemptId := assignment.attemptId
  assignmentId := assignmentId
  reason := "newer_attempt_exists"
  body := .obj result.body
  createdAt := draws.utcText 1

/-- The assignment of a submitted result. -/
def completeRow (status : AssignmentStatus) (completedAt : String) (row : AssignmentRow) :
    AssignmentRow :=
  { row with status := status, completedAt := some completedAt, updatedAt := some completedAt }

/-- The event of a completed assignment. -/
def completedEvent (draws : Draws) (assignmentId : String) (assignment : AssignmentRow) :
    OutboxEventInput :=
  draws.event 4 eventSource "assignment.completed" ("assignments/" ++ assignmentId)
    (some assignment.workUnitId) (some assignment.attemptId) (some assignmentId)
    [("assignment_id", .str assignmentId), ("status", .str "completed")]

/-- The event of a submitted result. -/
def resultEvent (draws : Draws) (eventType : String) (assignmentId : String)
    (assignment : AssignmentRow) (result : SubmittedResult) : OutboxEventInput :=
  draws.event 6 eventSource eventType ("results/" ++ result.resultEnvelopeId)
    (some assignment.workUnitId) (some assignment.attemptId) (some assignmentId) result.body

/-- Quarantine a late result: the assignment and the attempt with it, and a row
that says why. -/
def quarantineLateResult (draws : Draws) (assignmentId : String) (assignment : AssignmentRow)
    (result : SubmittedResult) : Store.Block Db Raised Unit := do
  .put (fun db => .ok (setAssignment assignmentId (completeRow .quarantined (draws.utcText 1)) db))
  .put (fun db => .ok (setAttempt assignment.attemptId
    (endAttempt .quarantined (draws.utcText 1)) db))
  .put (fun db =>
    (Db.inserting "result_quarantine.quarantine_id"
      ((db.workUnits.find? assignment.workUnitId).isSome &&
        (db.executionAttempts.find? assignment.attemptId).isSome &&
        (db.assignments.find? assignmentId).isSome) db.resultQuarantine
      ("quar_" ++ draws.uuid 1) (quarantineRow draws assignmentId assignment result)).map
        (fun quarantine => { db with resultQuarantine := quarantine }))

/-- Complete the assignment of a timely result, and its attempt and work unit with
it, whatever status the result has. -/
def completeAssignment (draws : Draws) (assignmentId : String) (assignment : AssignmentRow) :
    Store.Block Db Raised Unit := do
  .put (fun db => .ok (setAssignment assignmentId (completeRow .completed (draws.utcText 0)) db))
  .put (fun db => .ok (setAttempt assignment.attemptId (endAttempt .succeeded (draws.utcText 0)) db))
  Lifecycle.updateWorkUnitStatus draws 1 2 assignment.workUnitId .succeeded "scheduler"
    (some "work_unit.succeeded")
  let _ ← Outbox.enqueueEvent (completedEvent draws assignmentId assignment) (draws.utcText 3)
  return ()

/-- Insert the row of a submitted result. -/
def insertResult (draws : Draws) (assignmentId : String) (assignment : AssignmentRow)
    (result : SubmittedResult) (db : Db) : Except Raised Db :=
  (Db.inserting "result_envelopes.result_envelope_id"
    ((db.workUnits.find? assignment.workUnitId).isSome &&
      (db.assignments.find? assignmentId).isSome) db.resultEnvelopes
    result.resultEnvelopeId (resultEnvelopeRow draws assignmentId assignment result)).map
      (fun envelopes => { db with resultEnvelopes := envelopes })

/-- The transaction of `submitResult`. -/
def submitResultWrites (draws : Draws) (assignmentId : String) (assignment : AssignmentRow)
    (late : Bool) (result : SubmittedResult) : Store.Block Db Raised SubmissionReply := do
  .put (insertResult draws assignmentId assignment result)
  if late then
    quarantineLateResult draws assignmentId assignment result
    let _ ← Outbox.enqueueEvent
      (resultEvent draws "result.quarantined" assignmentId assignment result) (draws.utcText 4)
    return result.reply
  else
    completeAssignment draws assignmentId assignment
    let _ ← Outbox.enqueueEvent
      (resultEvent draws "result.submitted" assignmentId assignment result) (draws.utcText 4)
    return result.reply

/-- A submission of a worker: its credentials and its result. The hash of the
token takes the place of the token when it is given. -/
structure Submission where
  assignmentId : String
  workerId : String
  leaseToken : Option String := none
  leaseTokenHash : Option String := none
  output : JsonObject
  resultEnvelope : EnvelopeArgument := .absent

/-- The submission's credentials match the stored hash. -/
def Submission.Authorised (platform : Platform) (submission : Submission)
    (storedHash : Option String) : Prop :=
  if submission.leaseTokenHash ≠ none then
    Lease.HashMatches storedHash submission.leaseTokenHash
  else Lease.TokenMatches platform storedHash submission.leaseToken
  deriving Decidable

/-- Refuse a submission whose credentials do not match. -/
def verifySubmission (platform : Platform) (submission : Submission)
    (storedHash : Option String) : Except Raised Unit :=
  if submission.leaseTokenHash ≠ none then
    Lease.verifyLeaseTokenHash storedHash submission.leaseTokenHash
  else Lease.verifyLeaseToken platform storedHash submission.leaseToken

/-- Submit a result. Whether it is late is decided before the transaction. -/
def submitResult (platform : Platform) (draws : Draws) (submission : Submission) :
    Store.Client Db Raised SubmissionReply := do
  let assignment ← .fetch (assignmentForWorker submission.assignmentId submission.workerId)
  .ofExcept (verifySubmission platform submission assignment.leaseTokenHash)
  let row ← .fetch (attempt assignment.attemptId)
  let late ← .fetch (fun db => .ok (newerAttemptExists db row.workUnitId row.attemptNumber))
  let envelope ← .ofExcept
    (acceptedEnvelope platform submission.resultEnvelope submission.assignmentId assignment)
  .transaction Db.nestedTransaction
    (submitResultWrites draws submission.assignmentId assignment late
      (submittedResult platform draws submission.assignmentId assignment submission.output late
        envelope))

/-! ## Sweeping -/

/-- The assignments a sweep expires: leased, with a lease that ended before now. -/
def expiredLeases (now : String) (db : Db) : List (String × AssignmentRow) :=
  db.assignments.select (fun _ row =>
    (decide (row.status = .accepted) || decide (row.status = .running)) &&
      match row.leaseExpiresAt with
      | some expiresAt => decide (expiresAt < now)
      | none => false)

/-- The event of an expired assignment. -/
def expiredEvent (draws : Draws) (position : Nat) (assignmentId : String)
    (assignment : AssignmentRow) : OutboxEventInput :=
  draws.event (2 * position) "tokenbank.scheduler.sweeper" "assignment.expired"
    ("assignments/" ++ assignmentId) (some assignment.workUnitId) (some assignment.attemptId)
    (some assignmentId) [("assignment_id", .str assignmentId), ("status", .str "expired")]

/-- Expire one assignment. -/
def expireRow (updatedAt : String) (row : AssignmentRow) : AssignmentRow :=
  { row with status := .expired, updatedAt := some updatedAt }

/-- The updates of a sweep, one row after the other. -/
def expireLeases (draws : Draws) : Nat → List (String × AssignmentRow) → Store.Block Db Raised Unit
  | _, [] => return ()
  | position, (assignmentId, assignment) :: rest => do
    .put (fun db => .ok
      (setAssignment assignmentId (expireRow (draws.utcText (2 * position + 1))) db))
    let _ ← Outbox.enqueueEvent (expiredEvent draws position assignmentId assignment)
      (draws.utcText (2 * position + 2))
    expireLeases draws (position + 1) rest

/-- The updates of a sweep and the number of swept rows. -/
def sweepWrites (draws : Draws) (rows : List (String × AssignmentRow)) :
    Store.Block Db Raised Nat := do
  expireLeases draws 0 rows
  return rows.length

/-- Expire every lease that has ended. The updates follow the query without an
explicit transaction; the first of them opens one and the last statement commits. -/
def sweepExpiredLeases (draws : Draws) : Store.Client Db Raised Nat := do
  let rows ← .fetch (fun db => .ok (expiredLeases (draws.utcText 0) db))
  .implicitly (sweepWrites draws rows)

end Scheduler

end TokenBank
