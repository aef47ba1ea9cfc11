import TokenBank.App.ControlPlane
import TokenBank.Store.Faults

/-!
# Scheduler methods are all or nothing

Every method of the scheduler reads first and writes in one explicit transaction
whose handler rolls back. So a method that raises has changed nothing, whatever
made it raise: a check of its own, a violated constraint, or any single statement
that failed. This needs nothing about the state it was called in.

The sweeper is no method of the scheduler. It has no handler, and a failing
statement leaves its transaction open.
-/

namespace TokenBank

/-- The call is a call of a scheduler method. -/
def SchedulerOp.isMethod : SchedulerOp → Bool
  | .sweepExpiredLeases _ => false
  | _ => true

/-- A call of any method of the scheduler. -/
inductive SchedulerMethod : Type
  | operation (op : { op : SchedulerOp // op.isMethod = true })
  | pollNextAssignment (workerId : String)
  | recordWorkerHeartbeat (draws : Draws) (workerId status : String)

/-- What a method returns. -/
inductive MethodReply : Type
  | reply (reply : Reply)
  | polled (assignment : Option (String × AssignmentRow))
  | recorded

namespace Atomicity

/-- The program of a method on the whole control plane. -/
def program (platform : Platform) : SchedulerMethod → Store.Client ControlPlane Raised MethodReply
  | .operation op => (op.val.program platform >>= fun reply => pure (.reply reply)).on
      ControlPlane.db ControlPlane.withDb
  | .pollNextAssignment workerId =>
    (Scheduler.pollNextAssignment workerId >>= fun found => pure (.polled found)).on
      ControlPlane.db ControlPlane.withDb
  | .recordWorkerHeartbeat draws workerId status =>
    ControlPlane.recordWorkerHeartbeat draws workerId status >>= fun _ => pure .recorded

/-- Creating an attempt is all or nothing, whatever is made of its id. -/
theorem whole_createAttempt {α : Type} (draws : Draws)
    (workUnitId routePlanId policyDecisionId : String) (status : ExecutionAttemptStatus)
    (eventType : String) (result : String → α) : Store.Client.AllOrNothing
      (Scheduler.createAttempt draws workUnitId routePlanId policyDecisionId status eventType >>=
        fun created => pure (result created)) := by
  simp only [Scheduler.createAttempt, bind_assoc]
  apply Store.Client.allOrNothing_fetch
  intro attemptNumber
  exact Store.Client.allOrNothing_transaction _ _ result

/-- Creating an assignment is all or nothing, whatever is made of its id. -/
theorem whole_createAssignment {α : Type} (draws : Draws) (request : Scheduler.AssignmentRequest)
    (result : String → α) : Store.Client.AllOrNothing
      (Scheduler.createAssignment draws request >>= fun created => pure (result created)) := by
  simp only [Scheduler.createAssignment, bind_assoc]
  apply Store.Client.allOrNothing_fetch
  intro row
  exact Store.Client.allOrNothing_transaction _ _ result

/-- Assigning the next work ends after its first or second read, or goes on to
create an assignment. -/
theorem whole_assignNextWork {α : Type} (draws : Draws) (workerId : String)
    (result : Option String → α) : Store.Client.AllOrNothing
      (Scheduler.assignNextWork draws workerId >>= fun created => pure (result created)) := by
  simp only [Scheduler.assignNextWork, bind_assoc]
  apply Store.Client.allOrNothing_fetch
  intro node
  cases node with
  | none => exact .done _
  | some chosen =>
    obtain ⟨nodeId, nodeRow⟩ := chosen
    simp only [bind_assoc]
    apply Store.Client.allOrNothing_fetch
    intro waiting
    cases waiting with
    | none => exact .done _
    | some attempt =>
      obtain ⟨attemptId, attemptRow⟩ := attempt
      cases backends : nodeRow.backendIds with
      | nil => exact .done _
      | cons backendId others =>
        simp only [bind_assoc, pure_bind]
        exact whole_createAssignment draws _ (fun created => result (some created))

/-- Every operation that is a method is all or nothing. -/
theorem whole_operation (platform : Platform) (op : SchedulerOp) (method : op.isMethod = true) :
    Store.Client.AllOrNothing
      (op.program platform >>= fun reply => pure (MethodReply.reply reply)) := by
  cases op with
  | createAttempt draws workUnitId routePlanId policyDecisionId status eventType =>
    simp only [SchedulerOp.program, bind_assoc, pure_bind]
    exact whole_createAttempt _ _ _ _ _ _ (fun created => MethodReply.reply (.attempt created))
  | createAssignment draws request =>
    simp only [SchedulerOp.program, bind_assoc, pure_bind]
    exact whole_createAssignment _ _ (fun created => MethodReply.reply (.assignment (some created)))
  | assignNextWork draws workerId =>
    simp only [SchedulerOp.program, bind_assoc, pure_bind]
    exact whole_assignNextWork _ _ (fun created => MethodReply.reply (.assignment created))
  | acceptAssignment draws assignmentId workerId expectedLeaseVersion leaseDurationMs =>
    simp only [SchedulerOp.program, Scheduler.acceptAssignment, bind_assoc, pure_bind]
    apply Store.Client.allOrNothing_fetch
    intro assignment
    apply Store.Client.allOrNothing_ofExcept
    intro created
    apply Store.Client.allOrNothing_ofExcept
    intro expiresAt
    exact Store.Client.allOrNothing_transaction _ _ (fun grant => MethodReply.reply (.grant grant))
  | rejectAssignment draws assignmentId workerId =>
    simp only [SchedulerOp.program, Scheduler.rejectAssignment, bind_assoc, pure_bind]
    apply Store.Client.allOrNothing_fetch
    intro assignment
    exact Store.Client.allOrNothing_transaction _ _
      (fun rejected => MethodReply.reply (.rejected rejected))
  | progressAssignment draws assignmentId workerId leaseToken expectedLeaseVersion
      leaseDurationMs =>
    simp only [SchedulerOp.program, Scheduler.progressAssignment, bind_assoc, pure_bind]
    apply Store.Client.allOrNothing_fetch
    intro assignment
    apply Store.Client.allOrNothing_ofExcept
    intro verified
    apply Store.Client.allOrNothing_ofExcept
    intro expiresAt
    exact Store.Client.allOrNothing_transaction _ _
      (fun reply => MethodReply.reply (.progress reply))
  | submitResult draws submission =>
    simp only [SchedulerOp.program, Scheduler.submitResult, bind_assoc, pure_bind]
    apply Store.Client.allOrNothing_fetch
    intro assignment
    apply Store.Client.allOrNothing_ofExcept
    intro verified
    apply Store.Client.allOrNothing_fetch
    intro row
    apply Store.Client.allOrNothing_fetch
    intro late
    apply Store.Client.allOrNothing_ofExcept
    intro envelope
    exact Store.Client.allOrNothing_transaction _ _
      (fun reply => MethodReply.reply (.submission reply))
  | scheduleRetry draws attemptId =>
    simp only [SchedulerOp.program, Scheduler.scheduleRetry, Scheduler.rescheduleAs, bind_assoc,
      pure_bind]
    apply Store.Client.allOrNothing_fetch
    intro row
    exact whole_createAttempt _ _ _ _ _ _ (fun created => MethodReply.reply (.attempt created))
  | scheduleFallback draws attemptId =>
    simp only [SchedulerOp.program, Scheduler.scheduleFallback, Scheduler.rescheduleAs, bind_assoc,
      pure_bind]
    apply Store.Client.allOrNothing_fetch
    intro row
    exact whole_createAttempt _ _ _ _ _ _ (fun created => MethodReply.reply (.attempt created))
  | sweepExpiredLeases draws => cases method

/-- Every method is all or nothing. -/
theorem whole_method (platform : Platform) (method : SchedulerMethod) :
    Store.Client.AllOrNothing (program platform method) := by
  cases method with
  | operation op =>
    exact (whole_operation platform op.val op.property).on ControlPlane.db ControlPlane.withDb
  | pollNextAssignment workerId =>
    have reads : Store.Client.AllOrNothing (Scheduler.pollNextAssignment workerId >>= fun found =>
        pure (MethodReply.polled found)) := by
      apply Store.Client.allOrNothing_fetch
      intro found
      exact .done _
    exact reads.on ControlPlane.db ControlPlane.withDb
  | recordWorkerHeartbeat draws workerId status =>
    exact Store.Client.allOrNothing_transaction _ _ (fun _ => MethodReply.recorded)

/-- A method that raises leaves its connection as it found it: every table that is
committed, and what an open transaction has written. `fault` makes any of its
statements raise any exception. -/
theorem method_all_or_nothing (platform : Platform) (method : SchedulerMethod)
    (fault : Nat → Option Raised) (connection left : Store.Client.Connection ControlPlane)
    (error : Raised)
    (raised : ((program platform method).faulted fault false 0).finish connection =
      (.error error, left)) : left = connection :=
  (whole_method platform method).finish_error fault 0 connection error left raised

/-- A business change whose event cannot be written leaves nothing behind either,
whatever the change is. -/
theorem businessChange_all_or_nothing {α : Type} (businessWriter : Store.Block Db Raised α)
    (event : OutboxEventInput) (createdAt : String) (fault : Nat → Option Raised)
    (connection left : Store.Client.Connection Db) (error : Raised)
    (raised : ((Outbox.writeBusinessChangeWithEvent businessWriter event createdAt).faulted fault
      false 0).finish connection = (.error error, left)) : left = connection := by
  have whole : (Outbox.writeBusinessChangeWithEvent businessWriter event createdAt).AllOrNothing := by
    rw [Outbox.writeBusinessChangeWithEvent, ← bind_pure (Store.Client.transaction _ _)]
    exact Store.Client.allOrNothing_transaction _ _ id
  exact whole.finish_error fault 0 connection error left raised

/-- The insertion of an event fails, as the fifth statement of a call. -/
def interrupted (position : Nat) : Option Raised :=
  if position = 4 then some (.operationalError "disk I/O error") else none

/-- A new attempt whose event cannot be inserted is not created either. -/
theorem method_all_or_nothing_interrupted :
    (((program Scenario.platform (.operation ⟨Scenario.createAttempt 0, rfl⟩)).faulted interrupted
        false 0).finish ⟨Scenario.plane, none⟩).2 = ⟨Scenario.plane, none⟩ :=
  method_all_or_nothing Scenario.platform _ interrupted _ _
    (.operationalError "disk I/O error")
    (Prod.ext ((Store.raised_some_iff _ _).mp (by decide +kernel)) rfl)

end Atomicity

end TokenBank
