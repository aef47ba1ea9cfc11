import TokenBank.Scheduler.Operations

/-!
# What each transaction of the scheduler does

For every transaction, one relation between the store it starts in and the store
it commits, with the constraints that let it commit, and a theorem that the
transaction succeeds exactly as the relation says. Everything proved later about
the scheduler goes through these relations; no later proof runs a transaction.

A relation takes the rows its operation read before the transaction as
arguments. They may be older than the store the transaction starts in.
-/

namespace TokenBank

namespace Scheduler

/-- An attempt is inserted under its number, with its event. -/
inductive AttemptInserted (draws : Draws) (workUnitId routePlanId policyDecisionId : String)
    (status : ExecutionAttemptStatus) (eventType : String) (attemptNumber : Nat) (before : Db) :
    Db → Prop
  | intro (attempts : Store.Table String AttemptRow) (outbox : Store.Table String EventRow)
      (references : attemptReferences workUnitId routePlanId policyDecisionId before = true)
      (inserted : before.executionAttempts.insert (attemptId draws)
        (attemptRow draws workUnitId routePlanId policyDecisionId status attemptNumber) =
          some attempts)
      (events : Outbox.enqueueAll before.eventOutbox
        [(attemptEvent draws workUnitId routePlanId policyDecisionId status eventType attemptNumber,
          draws.utcText 1)] = some outbox) :
      AttemptInserted draws workUnitId routePlanId policyDecisionId status eventType attemptNumber
        before { before with executionAttempts := attempts, eventOutbox := outbox }

/-- The transaction of `createAttempt` inserts an attempt, and nothing else. -/
theorem createAttemptWrites_ok_iff (draws : Draws)
    (workUnitId routePlanId policyDecisionId : String) (status : ExecutionAttemptStatus)
    (eventType : String) (attemptNumber : Nat) (before after : Db) (created : String) :
    (createAttemptWrites draws workUnitId routePlanId policyDecisionId status eventType
        attemptNumber).run before = .ok (created, after) ↔
      created = attemptId draws ∧
        AttemptInserted draws workUnitId routePlanId policyDecisionId status eventType
          attemptNumber before after := by
  simp only [createAttemptWrites, Store.Block.run_bind_ok, Store.Block.run_put_ok,
    Store.map_ok_iff, Db.inserting_ok_iff, Outbox.enqueueEvent_ok_iff, Store.Block.run_pure_ok]
  constructor
  · rintro ⟨-, _, ⟨attempts, ⟨inserted, references⟩, rfl⟩, _, _, ⟨rfl, outbox, events, rfl⟩, rfl, rfl⟩
    exact ⟨rfl, .intro attempts outbox references inserted events⟩
  · rintro ⟨rfl, ⟨attempts, outbox, references, inserted, events⟩⟩
    exact ⟨(), _, ⟨attempts, ⟨inserted, references⟩, rfl⟩, _, _, ⟨rfl, outbox, events, rfl⟩, rfl, rfl⟩

/-- An assignment is inserted as created; its attempt and work unit are assigned. -/
inductive AssignmentInserted (draws : Draws) (request : AssignmentRequest) (workUnitId : String)
    (before : Db) : Db → Prop
  | intro (assignments : Store.Table String AssignmentRow) (outbox : Store.Table String EventRow)
      (attempted : (before.executionAttempts.find? request.attemptId).isSome = true)
      (workUnit : (before.workUnits.find? workUnitId).isSome = true)
      (inserted : before.assignments.insert (assignmentId draws)
        (assignmentRow draws request workUnitId) = some assignments)
      (events : Outbox.enqueueAll before.eventOutbox (assignmentEvents draws request workUnitId) =
        some outbox) :
      AssignmentInserted draws request workUnitId before
        { before with
          assignments := assignments
          executionAttempts := before.executionAttempts.modify request.attemptId
            (fun row => { row with status := .assigned })
          workUnits := before.workUnits.modify workUnitId
            (fun row => { row with status := .assigned, updatedAt := draws.utcText 1 })
          eventOutbox := outbox }

/-- Two batches of one event each are one batch of two. -/
theorem enqueueAll_pair (outbox : Store.Table String EventRow)
    (first second : OutboxEventInput × String) (last : Store.Table String EventRow) :
    (∃ middle, Outbox.enqueueAll outbox [first] = some middle ∧
        Outbox.enqueueAll middle [second] = some last) ↔
      Outbox.enqueueAll outbox [first, second] = some last := by
  have together := Outbox.enqueueAll_append outbox [first] [second]
  rw [List.singleton_append] at together
  rw [together, Option.bind_eq_some_iff]

/-- The transaction of `createAssignment` inserts an assignment and passes on its
status to the attempt and the work unit. -/
theorem createAssignmentWrites_ok_iff (draws : Draws) (request : AssignmentRequest)
    (workUnitId : String) (before after : Db) (created : String) :
    (createAssignmentWrites draws request workUnitId).run before = .ok (created, after) ↔
      created = assignmentId draws ∧ AssignmentInserted draws request workUnitId before after := by
  simp only [createAssignmentWrites, Store.Block.run_bind_ok, Store.Block.run_put_ok,
    Store.map_ok_iff, Db.inserting_ok_iff, Outbox.enqueueEvent_ok_iff, Store.Block.run_pure_ok,
    Bool.and_eq_true, Lifecycle.updateWorkUnitStatus_ok_iff _ _ _ _ _ "scheduler" _ _ _ _ (by decide)]
  constructor
  · rintro ⟨-, _, ⟨assignments, ⟨inserted, attempted, workUnit⟩, rfl⟩, -, _, same, -, _,
      ⟨-, middle, first, rfl⟩, _, _, ⟨rfl, outbox, second, rfl⟩, rfl, rfl⟩
    have same_value := Except.ok.inj same
    subst same_value
    exact ⟨rfl, .intro assignments outbox attempted workUnit inserted
      ((enqueueAll_pair _ _ _ _).mp ⟨middle, first, second⟩)⟩
  · rintro ⟨rfl, ⟨assignments, outbox, attempted, workUnit, inserted, events⟩⟩
    obtain ⟨middle, first, second⟩ := (enqueueAll_pair _ _ _ _).mpr events
    exact ⟨(), _, ⟨assignments, ⟨inserted, attempted, workUnit⟩, rfl⟩, (), _, rfl, (), _,
      ⟨Option.isSome_iff_ne_none.mp workUnit, middle, first, rfl⟩, _, _,
      ⟨rfl, outbox, second, rfl⟩, rfl, rfl⟩

/-- An assignment is accepted under the next version of its lease; its attempt
and work unit run. `assignment` is the row read before the transaction. -/
inductive Accepted (platform : Platform) (draws : Draws) (assignmentId workerId : String)
    (expectedLeaseVersion : Int) (expiresAt : String) (assignment : AssignmentRow) (before : Db) :
    LeaseGrant → Db → Prop
  | intro (row : AssignmentRow) (outbox : Store.Table String EventRow)
      (found : before.assignments.find? assignmentId = some row)
      (version : row.leaseVersion = expectedLeaseVersion)
      (fits : Db.bindable (row.leaseVersion + 1) = true ∧ Db.bindable expectedLeaseVersion = true)
      (workUnit : before.workUnits.find? assignment.workUnitId ≠ none)
      (events : Outbox.enqueueAll before.eventOutbox
        [(Lifecycle.statusEvent draws 0 assignment.workUnitId .running "scheduler"
            (some "work_unit.running"), draws.utcText 4),
          (acceptedEvent draws assignmentId workerId assignment (row.leaseVersion + 1),
            draws.utcText 5)] = some outbox) :
      Accepted platform draws assignmentId workerId expectedLeaseVersion expiresAt assignment before
        ⟨assignmentId, Lease.newLeaseToken draws, row.leaseVersion + 1, expiresAt⟩
        { before with
          assignments := before.assignments.modify assignmentId
            ((acceptUpdate platform draws expiresAt).apply (row.leaseVersion + 1))
          executionAttempts := before.executionAttempts.modify assignment.attemptId
            (startAttempt (draws.utcText 1))
          workUnits := before.workUnits.modify assignment.workUnitId
            (fun row => { row with status := .running, updatedAt := draws.utcText 3 })
          eventOutbox := outbox }

/-- The transaction of `acceptAssignment` succeeds exactly at the expected version. -/
theorem acceptAssignmentWrites_ok_iff (platform : Platform) (draws : Draws)
    (assignmentId workerId : String) (expectedLeaseVersion : Int) (expiresAt : String)
    (assignment : AssignmentRow) (before after : Db) (grant : LeaseGrant) :
    (acceptAssignmentWrites platform draws assignmentId workerId expectedLeaseVersion expiresAt
        assignment).run before = .ok (grant, after) ↔
      Accepted platform draws assignmentId workerId expectedLeaseVersion expiresAt assignment before
        grant after := by
  simp only [acceptAssignmentWrites, Store.Block.run_bind_ok, Store.Block.run_put_ok,
    Lease.conditionalAssignmentUpdate_ok_iff, Outbox.enqueueEvent_ok_iff,
    Store.Block.run_pure_ok,
    Lifecycle.updateWorkUnitStatus_ok_iff _ _ _ _ _ "scheduler" _ _ _ _ (by decide)]
  constructor
  · rintro ⟨_, _, ⟨row, found, version, next, expected, rfl, rfl⟩, -, _, same, -, _,
      ⟨workUnit, middle, first, rfl⟩, _, _, ⟨rfl, outbox, second, rfl⟩, rfl, rfl⟩
    have same_value := Except.ok.inj same
    subst same_value
    exact .intro row outbox found version ⟨next, expected⟩ workUnit
      ((enqueueAll_pair _ _ _ _).mp ⟨middle, first, second⟩)
  · rintro ⟨row, outbox, found, version, ⟨next, expected⟩, workUnit, events⟩
    obtain ⟨middle, first, second⟩ := (enqueueAll_pair _ _ _ _).mpr events
    exact ⟨_, _, ⟨row, found, version, next, expected, rfl, rfl⟩, (), _, rfl, (), _,
      ⟨workUnit, middle, first, rfl⟩, _, _, ⟨rfl, outbox, second, rfl⟩, rfl, rfl⟩

/-- An assignment is rejected and its attempt fails. -/
inductive Rejected (draws : Draws) (assignmentId workerId : String) (assignment : AssignmentRow)
    (before : Db) : Db → Prop
  | intro (outbox : Store.Table String EventRow)
      (events : Outbox.enqueueAll before.eventOutbox
        [(rejectedEvent draws assignmentId workerId assignment, draws.utcText 1)] = some outbox) :
      Rejected draws assignmentId workerId assignment before
        { before with
          assignments := before.assignments.modify assignmentId (rejectRow (draws.utcText 0))
          executionAttempts := before.executionAttempts.modify assignment.attemptId
            (endAttempt .failed (draws.utcText 0))
          eventOutbox := outbox }

/-- The transaction of `rejectAssignment` rejects whatever it finds. -/
theorem rejectAssignmentWrites_ok_iff (draws : Draws) (assignmentId workerId : String)
    (assignment : AssignmentRow) (before after : Db) (rejected : String) :
    (rejectAssignmentWrites draws assignmentId workerId assignment).run before =
        .ok (rejected, after) ↔
      rejected = assignmentId ∧ Rejected draws assignmentId workerId assignment before after := by
  simp only [rejectAssignmentWrites, Store.Block.run_bind_ok, Store.Block.run_put_ok,
    Outbox.enqueueEvent_ok_iff, Store.Block.run_pure_ok, Except.ok.injEq]
  constructor
  · rintro ⟨-, _, rfl, -, _, rfl, _, _, ⟨rfl, outbox, events, rfl⟩, rfl, rfl⟩
    exact ⟨rfl, .intro outbox events⟩
  · rintro ⟨rfl, ⟨outbox, events⟩⟩
    exact ⟨(), _, rfl, (), _, rfl, _, _, ⟨rfl, outbox, events, rfl⟩, rfl, rfl⟩

/-- An assignment progresses to the next version of its lease. -/
inductive Progressed (draws : Draws) (assignmentId workerId : String)
    (expectedLeaseVersion : Int) (expiresAt : String) (assignment : AssignmentRow) (before : Db) :
    ProgressReply → Db → Prop
  | intro (row : AssignmentRow) (outbox : Store.Table String EventRow)
      (found : before.assignments.find? assignmentId = some row)
      (version : row.leaseVersion = expectedLeaseVersion)
      (fits : Db.bindable (row.leaseVersion + 1) = true ∧ Db.bindable expectedLeaseVersion = true)
      (events : Outbox.enqueueAll before.eventOutbox
        [(progressEvent draws assignmentId workerId assignment (row.leaseVersion + 1),
          draws.utcText 2)] = some outbox) :
      Progressed draws assignmentId workerId expectedLeaseVersion expiresAt assignment before
        ⟨assignmentId, row.leaseVersion + 1, expiresAt⟩
        { before with
          assignments := before.assignments.modify assignmentId
            ((progressUpdate draws expiresAt).apply (row.leaseVersion + 1))
          eventOutbox := outbox }

/-- The transaction of `progressAssignment` succeeds exactly at the expected version. -/
theorem progressAssignmentWrites_ok_iff (draws : Draws) (assignmentId workerId : String)
    (expectedLeaseVersion : Int) (expiresAt : String) (assignment : AssignmentRow)
    (before after : Db) (reply : ProgressReply) :
    (progressAssignmentWrites draws assignmentId workerId expectedLeaseVersion expiresAt
        assignment).run before = .ok (reply, after) ↔
      Progressed draws assignmentId workerId expectedLeaseVersion expiresAt assignment before
        reply after := by
  simp only [progressAssignmentWrites, Store.Block.run_bind_ok,
    Lease.conditionalAssignmentUpdate_ok_iff, Outbox.enqueueEvent_ok_iff, Store.Block.run_pure_ok]
  constructor
  · rintro ⟨_, _, ⟨row, found, version, next, expected, rfl, rfl⟩, _, _,
      ⟨rfl, outbox, events, rfl⟩, rfl, rfl⟩
    exact .intro row outbox found version ⟨next, expected⟩ events
  · rintro ⟨row, outbox, found, version, ⟨next, expected⟩, events⟩
    exact ⟨_, _, ⟨row, found, version, next, expected, rfl, rfl⟩, _, _,
      ⟨rfl, outbox, events, rfl⟩, rfl, rfl⟩

/-- The events of a timely result. -/
def timelyEvents (draws : Draws) (assignmentId : String) (assignment : AssignmentRow)
    (result : SubmittedResult) : List (OutboxEventInput × String) :=
  [(Lifecycle.statusEvent draws 2 assignment.workUnitId .succeeded "scheduler"
      (some "work_unit.succeeded"), draws.utcText 2),
    (completedEvent draws assignmentId assignment, draws.utcText 3),
    (resultEvent draws "result.submitted" assignmentId assignment result, draws.utcText 4)]

/-- A result is stored. A late one is quarantined together with its assignment
and attempt; a timely one completes the assignment, and its attempt and work unit
succeed, whatever the status of the result. -/
inductive Submitted (draws : Draws) (assignmentId : String) (assignment : AssignmentRow)
    (result : SubmittedResult) (before : Db) : Bool → Db → Prop
  | late (envelopes : Store.Table String ResultEnvelopeRow)
      (quarantine : Store.Table String QuarantineRow) (outbox : Store.Table String EventRow)
      (workUnit : (before.workUnits.find? assignment.workUnitId).isSome = true)
      (attempted : (before.executionAttempts.find? assignment.attemptId).isSome = true)
      (assigned : (before.assignments.find? assignmentId).isSome = true)
      (inserted : before.resultEnvelopes.insert result.resultEnvelopeId
        (resultEnvelopeRow draws assignmentId assignment result) = some envelopes)
      (quarantined : before.resultQuarantine.insert ("quar_" ++ draws.uuid 1)
        (quarantineRow draws assignmentId assignment result) = some quarantine)
      (events : Outbox.enqueueAll before.eventOutbox
        [(resultEvent draws "result.quarantined" assignmentId assignment result,
          draws.utcText 4)] = some outbox) :
      Submitted draws assignmentId assignment result before true
        { before with
          resultEnvelopes := envelopes
          assignments := before.assignments.modify assignmentId
            (completeRow .quarantined (draws.utcText 1))
          executionAttempts := before.executionAttempts.modify assignment.attemptId
            (endAttempt .quarantined (draws.utcText 1))
          resultQuarantine := quarantine
          eventOutbox := outbox }
  | timely (envelopes : Store.Table String ResultEnvelopeRow)
      (outbox : Store.Table String EventRow)
      (workUnit : (before.workUnits.find? assignment.workUnitId).isSome = true)
      (assigned : (before.assignments.find? assignmentId).isSome = true)
      (inserted : before.resultEnvelopes.insert result.resultEnvelopeId
        (resultEnvelopeRow draws assignmentId assignment result) = some envelopes)
      (events : Outbox.enqueueAll before.eventOutbox
        (timelyEvents draws assignmentId assignment result) = some outbox) :
      Submitted draws assignmentId assignment result before false
        { before with
          resultEnvelopes := envelopes
          assignments := before.assignments.modify assignmentId
            (completeRow .completed (draws.utcText 0))
          executionAttempts := before.executionAttempts.modify assignment.attemptId
            (endAttempt .succeeded (draws.utcText 0))
          workUnits := before.workUnits.modify assignment.workUnitId
            (fun row => { row with status := .succeeded, updatedAt := draws.utcText 1 })
          eventOutbox := outbox }

/-- Three batches of one event each are one batch of three. -/
theorem enqueueAll_triple (outbox : Store.Table String EventRow)
    (first second third : OutboxEventInput × String) (last : Store.Table String EventRow) :
    (∃ one, Outbox.enqueueAll outbox [first] = some one ∧
        ∃ two, Outbox.enqueueAll one [second] = some two ∧
          Outbox.enqueueAll two [third] = some last) ↔
      Outbox.enqueueAll outbox [first, second, third] = some last := by
  have together := Outbox.enqueueAll_append outbox [first] [second, third]
  rw [List.singleton_append] at together
  simp only [together, Option.bind_eq_some_iff, enqueueAll_pair]

/-- The transaction of `submitResult` stores the result and ends the assignment. -/
theorem submitResultWrites_ok_iff (draws : Draws) (assignmentId : String)
    (assignment : AssignmentRow) (late : Bool) (result : SubmittedResult) (before after : Db)
    (reply : SubmissionReply) :
    (submitResultWrites draws assignmentId assignment late result).run before = .ok (reply, after) ↔
      reply = result.reply ∧ Submitted draws assignmentId assignment result before late after := by
  cases late with
  | true =>
    simp only [submitResultWrites, insertResult, quarantineLateResult, if_true,
      Store.Block.run_bind_ok, Store.Block.run_put_ok, Store.map_ok_iff, Db.inserting_ok_iff,
      Outbox.enqueueEvent_ok_iff, Store.Block.run_pure_ok, Bool.and_eq_true, Except.ok.injEq]
    constructor
    · rintro ⟨-, _, ⟨envelopes, ⟨inserted, workUnit, assigned⟩, rfl⟩, -, _,
        ⟨-, _, rfl, -, _, rfl, quarantine, ⟨quarantined, ⟨-, attempted⟩, -⟩, rfl⟩,
        _, _, ⟨rfl, outbox, events, rfl⟩, rfl, rfl⟩
      have before_attempted : (before.executionAttempts.find? assignment.attemptId).isSome = true := by
        simpa [setAttempt, setAssignment, Store.Table.find?_modify_self] using attempted
      exact ⟨rfl, .late envelopes quarantine outbox workUnit before_attempted assigned inserted
        quarantined events⟩
    · rintro ⟨rfl, ⟨envelopes, quarantine, outbox, workUnit, attempted, assigned, inserted,
        quarantined, events⟩⟩
      refine ⟨(), _, ⟨envelopes, ⟨inserted, workUnit, assigned⟩, rfl⟩, (), _,
        ⟨(), _, rfl, (), _, rfl, quarantine, ⟨quarantined, ⟨workUnit, ?_⟩, ?_⟩, rfl⟩, _, _,
        ⟨rfl, outbox, events, rfl⟩, rfl, rfl⟩
      · simpa [setAttempt, setAssignment, Store.Table.find?_modify_self] using attempted
      · simpa [setAttempt, setAssignment, Store.Table.find?_modify_self] using assigned
  | false =>
    simp only [submitResultWrites, insertResult, completeAssignment, Bool.false_eq_true, if_false,
      Store.Block.run_bind_ok, Store.Block.run_put_ok, Store.map_ok_iff, Db.inserting_ok_iff,
      Outbox.enqueueEvent_ok_iff, Store.Block.run_pure_ok, Bool.and_eq_true, Except.ok.injEq,
      Lifecycle.updateWorkUnitStatus_ok_iff _ _ _ _ _ "scheduler" _ _ _ _ (by decide)]
    constructor
    · rintro ⟨-, _, ⟨envelopes, ⟨inserted, workUnit, assigned⟩, rfl⟩, -, _,
        ⟨-, _, rfl, -, _, rfl, -, _, ⟨-, one, first, rfl⟩, _, _, ⟨rfl, two, second, rfl⟩, -, rfl⟩,
        _, _, ⟨rfl, outbox, third, rfl⟩, rfl, rfl⟩
      exact ⟨rfl, .timely envelopes outbox workUnit assigned inserted
        ((enqueueAll_triple _ _ _ _ _).mp ⟨one, first, two, second, third⟩)⟩
    · rintro ⟨rfl, ⟨⟩⟩
      rename_i envelopes outbox workUnit assigned inserted events
      obtain ⟨one, first, two, second, third⟩ := (enqueueAll_triple _ _ _ _ _).mpr events
      exact ⟨(), _, ⟨envelopes, ⟨inserted, workUnit, assigned⟩, rfl⟩, (), _,
        ⟨(), _, rfl, (), _, rfl, (), _, ⟨Option.isSome_iff_ne_none.mp workUnit, one, first, rfl⟩,
          _, _, ⟨rfl, two, second, rfl⟩, trivial, rfl⟩,
        _, _, ⟨rfl, outbox, third, rfl⟩, rfl, rfl⟩

/-- The assignments after a sweep expired those listed, one after the other. -/
def expireAssignments (draws : Draws) : Nat → List (String × AssignmentRow) →
    Store.Table String AssignmentRow → Store.Table String AssignmentRow
  | _, [], assignments => assignments
  | position, (assignmentId, _) :: rest, assignments =>
    expireAssignments draws (position + 1) rest
      (assignments.modify assignmentId (expireRow (draws.utcText (2 * position + 1))))

/-- The events of a sweep. -/
def sweepEvents (draws : Draws) : Nat → List (String × AssignmentRow) →
    List (OutboxEventInput × String)
  | _, [] => []
  | position, (assignmentId, assignment) :: rest =>
    (expiredEvent draws position assignmentId assignment, draws.utcText (2 * position + 2)) ::
      sweepEvents draws (position + 1) rest

/-- The updates of a sweep expire the listed assignments and report each of them.

Induct on the list. One row's update and event come first; the rest of the sweep
starts from the store they leave and appends to the outbox they leave. -/
theorem expireLeases_ok_iff (draws : Draws) (position : Nat) (rows : List (String × AssignmentRow))
    (before after : Db) (value : Unit) :
    (expireLeases draws position rows).run before = .ok (value, after) ↔
      ∃ outbox, Outbox.enqueueAll before.eventOutbox (sweepEvents draws position rows) =
          some outbox ∧
        after = { before with
          assignments := expireAssignments draws position rows before.assignments
          eventOutbox := outbox } := by
  induction rows generalizing position before with
  | nil =>
    simp only [expireLeases, Store.Block.run_pure_ok, sweepEvents, Outbox.enqueueAll,
      expireAssignments, Option.some.injEq]
    constructor
    · rintro ⟨-, rfl⟩
      exact ⟨_, rfl, rfl⟩
    · rintro ⟨outbox, rfl, rfl⟩
      exact ⟨trivial, rfl⟩
  | cons row rest inductionHypothesis =>
    obtain ⟨assignmentId, assignment⟩ := row
    have together := Outbox.enqueueAll_append before.eventOutbox
      [(expiredEvent draws position assignmentId assignment, draws.utcText (2 * position + 2))]
      (sweepEvents draws (position + 1) rest)
    rw [List.singleton_append] at together
    simp only [expireLeases, Store.Block.run_bind_ok, Store.Block.run_put_ok,
      Outbox.enqueueEvent_ok_iff, inductionHypothesis, Except.ok.injEq, sweepEvents, together,
      Option.bind_eq_some_iff, expireAssignments]
    constructor
    · rintro ⟨-, _, rfl, _, _, ⟨-, middle, first, rfl⟩, outbox, later, rfl⟩
      exact ⟨outbox, ⟨middle, first, later⟩, rfl⟩
    · rintro ⟨outbox, ⟨middle, first, later⟩, rfl⟩
      exact ⟨(), _, rfl, _, _, ⟨rfl, middle, first, rfl⟩, outbox, later, rfl⟩

/-- The listed assignments are expired. -/
inductive Swept (draws : Draws) (rows : List (String × AssignmentRow)) (before : Db) : Db → Prop
  | intro (outbox : Store.Table String EventRow)
      (events : Outbox.enqueueAll before.eventOutbox (sweepEvents draws 0 rows) = some outbox) :
      Swept draws rows before
        { before with
          assignments := expireAssignments draws 0 rows before.assignments
          eventOutbox := outbox }

/-- The updates of a sweep expire the rows its query listed. -/
theorem sweepWrites_ok_iff (draws : Draws) (rows : List (String × AssignmentRow))
    (before after : Db) (count : Nat) :
    (sweepWrites draws rows).run before = .ok (count, after) ↔
      count = rows.length ∧ Swept draws rows before after := by
  simp only [sweepWrites, Store.Block.run_bind_ok, expireLeases_ok_iff, Store.Block.run_pure_ok]
  constructor
  · rintro ⟨-, _, ⟨outbox, events, rfl⟩, rfl, rfl⟩
    exact ⟨rfl, .intro outbox events⟩
  · rintro ⟨rfl, ⟨outbox, events⟩⟩
    exact ⟨(), _, ⟨outbox, events, rfl⟩, rfl, rfl⟩

/-- The updates of a sweep do not begin with a query. -/
theorem sweepWrites_opens (draws : Draws) (rows : List (String × AssignmentRow)) :
    (sweepWrites draws rows).opens = true := by
  cases rows <;> rfl

end Scheduler

end TokenBank
