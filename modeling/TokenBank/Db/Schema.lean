import TokenBank.Core.Json
import TokenBank.Models.ResultEnvelope
import TokenBank.Store.Table

/-!
# The control-plane tables the scheduler uses

One record per row, without its primary key, and one table per SQL table. Columns
that hold canonical JSON are kept as the JSON value. Columns no scheduler
statement reads or writes are left out; of the route plans and policy decisions
only the keys matter, as targets of foreign keys.
-/

namespace TokenBank

/-- The status of a work unit. -/
inductive WorkUnitStatus : Type
  | submitted
  | routing
  | queued
  | assigned
  | running
  | succeeded
  | failed
  | quarantined
  | cancelled
deriving DecidableEq

/-- The stored text of a work unit status. -/
def WorkUnitStatus.text : WorkUnitStatus → String
  | .submitted => "submitted"
  | .routing => "routing"
  | .queued => "queued"
  | .assigned => "assigned"
  | .running => "running"
  | .succeeded => "succeeded"
  | .failed => "failed"
  | .quarantined => "quarantined"
  | .cancelled => "cancelled"

/-- The status of an execution attempt. A caller may start an attempt in any
status, so texts outside the declared ones are possible. -/
inductive ExecutionAttemptStatus : Type
  | created
  | scheduled
  | assigned
  | running
  | succeeded
  | failed
  | quarantined
  | cancelled
  | other (text : String)
deriving DecidableEq

/-- The stored text of an attempt status. -/
def ExecutionAttemptStatus.text : ExecutionAttemptStatus → String
  | .created => "created"
  | .scheduled => "scheduled"
  | .assigned => "assigned"
  | .running => "running"
  | .succeeded => "succeeded"
  | .failed => "failed"
  | .quarantined => "quarantined"
  | .cancelled => "cancelled"
  | .other text => text

/-- The status of an assignment. -/
inductive AssignmentStatus : Type
  | created
  | accepted
  | running
  | completed
  | rejected
  | quarantined
  | expired
  | cancelled
  | failed
deriving DecidableEq

/-- The stored text of an assignment status. -/
def AssignmentStatus.text : AssignmentStatus → String
  | .created => "created"
  | .accepted => "accepted"
  | .running => "running"
  | .completed => "completed"
  | .rejected => "rejected"
  | .quarantined => "quarantined"
  | .expired => "expired"
  | .cancelled => "cancelled"
  | .failed => "failed"

/-- A row of `work_units`. -/
structure WorkUnitRow where
  status : WorkUnitStatus
  updatedAt : String

/-- A row of `capacity_nodes`. The backend ids are those its JSON column lists. -/
structure CapacityNodeRow where
  workerId : Option String
  backendIds : List String

/-- A row of `execution_attempts`. -/
structure AttemptRow where
  workUnitId : String
  routePlanId : String
  policyDecisionId : String
  status : ExecutionAttemptStatus
  body : Json
  createdAt : String
  attemptNumber : Nat
  startedAt : Option String := none
  completedAt : Option String := none

/-- A row of `assignments`. -/
structure AssignmentRow where
  attemptId : String
  workUnitId : String
  workerId : String
  status : AssignmentStatus
  body : Json
  createdAt : String
  capacityNodeId : Option String
  backendId : Option String
  leaseTokenHash : Option String := none
  leaseTokenPrefix : Option String := none
  leaseVersion : Int := 0
  effectiveConstraints : Json
  assignedAt : Option String
  leaseExpiresAt : Option String := none
  acceptedAt : Option String := none
  completedAt : Option String := none
  updatedAt : Option String

/-- A row of `result_envelopes`. -/
structure ResultEnvelopeRow where
  workUnitId : String
  attemptId : String
  assignmentId : String
  status : ResultEnvelopeStatus
  outputHash : String
  resultHash : String
  body : Json
  createdAt : String

/-- A row of `result_quarantine`. -/
structure QuarantineRow where
  resultEnvelopeId : Option String
  workUnitId : String
  attemptId : String
  assignmentId : String
  reason : String
  body : Json
  createdAt : String

/-- Whether an outbox event has been flushed. -/
inductive OutboxStatus : Type
  | pending
  | written
  | failed
deriving DecidableEq

/-- A row of `event_outbox`. -/
structure EventRow where
  source : String
  type : String
  subject : String
  runId : Option String
  workUnitId : Option String
  attemptId : Option String
  assignmentId : Option String
  traceId : String
  spanId : Option String
  status : OutboxStatus
  sequence : Nat
  body : Json
  createdAt : String
  writtenAt : Option String := none
  failureCount : Nat := 0
  lastError : Option String := none

/-- The tables, and the keys that only serve as targets of foreign keys. -/
structure Db where
  workUnits : Store.Table String WorkUnitRow
  routePlans : List String
  policyDecisions : List String
  capacityNodes : Store.Table String CapacityNodeRow
  executionAttempts : Store.Table String AttemptRow
  assignments : Store.Table String AssignmentRow
  resultEnvelopes : Store.Table String ResultEnvelopeRow
  resultQuarantine : Store.Table String QuarantineRow
  eventOutbox : Store.Table String EventRow

/-- The exceptions an operation can raise. The texts are those of the source; exceptions
of the runtime carry none. Exceptions that the source derives from `ValueError` are that
one here. -/
inductive Raised : Type
  | keyError (message : String)
  | permissionError (message : String)
  | valueError (message : String)
  | leaseConflictError (message : String)
  | validationError
  | integrityError (message : String)
  | operationalError (message : String)
  | overflowError
  | typeError
  | attributeError
deriving DecidableEq

namespace Db

/-- The exception of an insertion that repeats a key. -/
def uniqueViolation (column : String) : Raised :=
  .integrityError ("UNIQUE constraint failed: " ++ column)

/-- The exception of a reference to a missing row. -/
def foreignKeyViolation : Raised := .integrityError "FOREIGN KEY constraint failed"

/-- The exception of opening a transaction inside another one. -/
def nestedTransaction : Raised :=
  .operationalError "cannot start a transaction within a transaction"

/-- An integer SQLite can bind. -/
def bindable (value : Int) : Bool :=
  -9223372036854775808 ≤ value && value ≤ 9223372036854775807

/-- Insert a row under its primary key, with its foreign keys present. -/
def inserting {ν : Type} (column : String) (referenced : Bool)
    (table : Store.Table String ν) (key : String) (row : ν) : Except Raised (Store.Table String ν) :=
  match table.insert key row with
  | none => .error (uniqueViolation column)
  | some next => if referenced then .ok next else .error foreignKeyViolation

/-- An insertion goes through exactly when the key is new and every referenced
row exists. -/
theorem inserting_ok_iff {ν : Type} (column : String) (referenced : Bool)
    (table next : Store.Table String ν) (key : String) (row : ν) :
    inserting column referenced table key row = .ok next ↔
      table.insert key row = some next ∧ referenced = true := by
  unfold inserting
  cases inserted : table.insert key row with
  | none => simp
  | some other => cases referenced <;> simp

end Db

end TokenBank
