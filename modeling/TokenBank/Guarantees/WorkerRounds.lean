import TokenBank.Guarantees.HostResults
import TokenBank.Guarantees.StoredHashes
import TokenBank.Guarantees.WorkerRequests

/-!
# Rounds of a worker

A worker goes round after round against the app, over a network that loses requests and answers,
while others call the app between its requests. An assignment that a round accepts has waited until
then and never waits again, so that no later round can accept it. Hence each assignment is completed
in at most one round. A result whose submission was answered is stored and stays so.

A round that finds an assignment waiting completes it, if none of its requests is lost or refused.
-/

namespace TokenBank

namespace WorkerRounds

open WorkerDaemon ControlPlaneClient WorkerProgram

/-! ## What an assignment goes through -/

section Handled

variable (app : WorkerApp)

/-- An assignment was taken up. -/
def Begun (db : Db) (assignmentId : String) : Prop :=
  ∃ row, db.assignments.find? assignmentId = some row ∧ row.status ≠ .created

/-- The result of an assignment is stored: the envelope that its execution returned, as the app
reads it, under the status of its row. -/
def ResultStored (platform : WorkerPlatform) (db : Db) (assignmentId : String) : Prop :=
  ∃ assignment envelope received key row,
    Json.get assignment "assignment_id" = .str assignmentId ∧
    platform.executeEnvelope assignment = .ok envelope ∧
    app.platform.scheduler.modelValidate (envelope.dumpWithStatus envelope.status) = some received ∧
    db.resultEnvelopes.find? key = some row ∧ row.assignmentId = assignmentId ∧
    row.body = .obj (received.dumpWithStatus row.status)

/-- An assignment stays taken up. -/
theorem begun_onward {before after : Db} {assignmentId : String} (onward : Onward before after)
    (begun : Begun before assignmentId) : Begun after assignmentId := by
  obtain ⟨row, found, taken⟩ := begun
  exact onward.assignments _ row found taken

/-- An assignment that waits has waited. -/
theorem waiting_before {before after : Db} {assignmentId : String} (onward : Onward before after)
    (waits : ¬Begun after assignmentId) : ¬Begun before assignmentId :=
  fun begun => waits (begun_onward onward begun)

/-- A result stays stored. -/
theorem resultStored_onward {platform : WorkerPlatform} {before after : Db} {assignmentId : String}
    (onward : Onward before after) (stored : ResultStored app platform before assignmentId) :
    ResultStored app platform after assignmentId := by
  obtain ⟨assignment, envelope, received, key, row, named, executed, validated, found, rest⟩ :=
    stored
  exact ⟨assignment, envelope, received, key, row, named, executed, validated,
    onward.results key row found, rest⟩

/-- An acceptance that is served finds an assignment that waits, and takes it up. -/
theorem accept_served (passage : Passage) {assignmentId : String} {payload body : JsonObject}
    {plane : ResultsPlane} (wellFormed : WellFormed plane.db)
    (served : (app.serve passage (.accept assignmentId) payload plane).1 = .ok body) :
    ¬Begun plane.db assignmentId ∧
      Begun (app.serve passage (.accept assignmentId) payload plane).2.db assignmentId := by
  cases asked : WorkerRoutes.schedulerOp app.runtime passage.draws payload
      (.accept assignmentId) with
  | error error =>
    simp only [WorkerApp.serve, asked] at served
    cases served
  | ok op =>
    obtain ⟨workerId, -, rest⟩ := (Store.bind_ok_iff _ _ _).mp asked
    obtain ⟨expectedLeaseVersion, -, same⟩ := (Store.bind_ok_iff _ _ _).mp rest
    obtain rfl := Except.ok.inj same
    simp only [WorkerApp.serve, asked] at served ⊢
    obtain ⟨reply, returned⟩ := app.call_scheduled passage _ served
    rcases Scheduler.step_cases app.platform.scheduler _ _ wellFormed with
      ⟨error, raised, -⟩ | ⟨reply, plan, -, planned, performed⟩
    · rw [returned] at raised
      cases raised
    · rw [SchedulerOp.plan] at planned
      obtain ⟨read, seen, assignment, expiresAt, own, created, -, rfl⟩ :=
        SchedulerOp.acceptPlan_some _ _ _ _ _ _ _ planned
      obtain rfl : read = plane.db := by simpa using seen
      have found := ((Scheduler.assignmentForWorker_ok_iff _ _ _ _).mp own).1
      constructor
      · rintro ⟨row, there, taken⟩
        obtain rfl := Option.some.inj (found.symm.trans there)
        exact taken created
      · refine begun_onward (app.call_after passage _ wellFormed) ?_
        refine ⟨_, performed.assignment_kept assignmentId assignment found, ?_⟩
        simp [Plan.assignmentAfter, Lease.LeaseUpdate.apply, Scheduler.acceptUpdate]

/-- A submission that is served stores its envelope. -/
theorem result_served (passage : Passage) {assignmentId workerId : String} {output : JsonObject}
    {leaseToken : Json} {envelope : WorkUnitResultEnvelope} {body : JsonObject}
    {plane : ResultsPlane} (wellFormed : WellFormed plane.db) {platform : WorkerPlatform}
    {assignment : JsonObject}
    (named : Json.get assignment "assignment_id" = .str assignmentId)
    (executed : platform.executeEnvelope assignment = .ok envelope)
    (served : (app.serve passage (.result assignmentId)
      (submitted workerId output leaseToken (envelope.dumpWithStatus envelope.status)) plane).1 =
        .ok body) :
    ResultStored app platform (app.serve passage (.result assignmentId)
      (submitted workerId output leaseToken (envelope.dumpWithStatus envelope.status)) plane).2.db
        assignmentId := by
  cases asked : WorkerRoutes.schedulerOp app.runtime passage.draws
      (submitted workerId output leaseToken (envelope.dumpWithStatus envelope.status))
      (.result assignmentId) with
  | error error =>
    simp only [WorkerApp.serve, asked] at served
    cases served
  | ok op =>
    obtain ⟨workerId, -, rest⟩ := (Store.bind_ok_iff _ _ _).mp asked
    obtain ⟨token, -, same⟩ := (Store.bind_ok_iff _ _ _).mp rest
    obtain rfl := Except.ok.inj same
    simp only [WorkerApp.serve, asked] at served ⊢
    refine resultStored_onward app (app.call_after passage _ wellFormed) ?_
    obtain ⟨reply, returned⟩ := app.call_scheduled passage _ served
    rcases Scheduler.step_cases app.platform.scheduler _ _ wellFormed with
      ⟨error, raised, -⟩ | ⟨reply', plan, returned', planned, performed⟩
    · rw [returned] at raised
      cases raised
    · rw [SchedulerOp.plan] at planned
      obtain ⟨read, attempted, looked, row, attempt, given, -, admitted, rfl⟩ :=
        (SchedulerOp.submitPlan_some_iff _ _ _ _ _).mp planned
      have coerced := Scheduler.coerced_of_accepted _ _ _ _ _ admitted.accepted
      obtain ⟨received, validated, rfl⟩ : ∃ received, app.platform.scheduler.modelValidate
          (envelope.dumpWithStatus envelope.status) = some received ∧ given = some received := by
        change Scheduler.coerceResultEnvelope app.platform.scheduler
          (.document (envelope.dumpWithStatus envelope.status)) = .ok given at coerced
        rw [Scheduler.coerceResultEnvelope] at coerced
        split at coerced
        · rename_i received read
          exact ⟨received, read, (Except.ok.inj coerced).symm⟩
        · cases coerced
      have filed := performed.resultEnvelopes received.resultEnvelopeId
      rw [Plan.newResult, if_pos (by rfl)] at filed
      exact ⟨assignment, envelope, received, received.resultEnvelopeId, _, named, executed,
        validated, filed, rfl, rfl⟩

end Handled

/-! ## Rounds -/

section Rounds

variable (app : WorkerApp) (passages : Nat → Passage) (config : WorkerConfig)
  (platform : WorkerPlatform)

/-- A request for a route that returned was served, on tables that others may have changed. -/
theorem sent_served {request : ControlPlaneRequest} {route : WorkerRoute} {payload : JsonObject}
    {state next : State} {value : Json} (wellFormed : WellFormed state.plane.1.db)
    (routed : WorkerApp.routed request = some (route, payload))
    (sent : send (app.server passages) request state = .ok value next) :
    ∃ passage plane body, Onward state.plane.1.db plane.db ∧
      (app.serve passage route payload plane).1 = .ok body ∧
      next.plane.1 = (app.serve passage route payload plane).2 := by
  obtain ⟨given, rfl⟩ := (send_ok_iff _ _ _ _).mp sent
  obtain ⟨fine, left⟩ := answered_handled app passages given
  obtain ⟨⟨body, served⟩, handled⟩ := handled_served app _ routed fine
  refine ⟨passages state.plane.2, met passages state.plane, body,
    WorkerApp.afterOthers_onward _ wellFormed, served, ?_⟩
  rw [afterRequest, left]
  exact handled

/-- A program that returned leads on to where it returned. -/
theorem returned_onward {α : Type} {program : WorkerProgram (ResultsPlane × Nat) α}
    {state next : State} {value : α} (advances : Advances program)
    (wellFormed : WellFormed state.plane.1.db) (returned : program state = .ok value next) :
    Onward state.plane.1.db next.plane.1.db := by
  have onward := advances state wellFormed
  rwa [returned] at onward

/-- A submission that returns was answered with what it returns. -/
theorem submitOrSpool_ok {assignmentId : String} {leaseToken : Json}
    {envelope : WorkUnitResultEnvelope} {state next : State} {result : Json}
    (returned : submitOrSpool (app.server passages) config platform assignmentId leaseToken envelope
      state = .ok result next) :
    send (app.server passages) (submission config.workerToken assignmentId config.workerId
      envelope.output leaseToken none (some envelope.modelDump)) state = .ok result next := by
  rw [submitOrSpool] at returned
  split at returned
  · obtain ⟨_, between, -, rest⟩ := (bind_ok_iff _ _).mp returned
    obtain ⟨_, last, -, raised⟩ := (bind_ok_iff _ _).mp rest
    cases raised
  · exact returned

/-- An assignment that a worker handled was taken up on the way, and its result is stored. -/
theorem handleAssignment_ok {assignment : JsonObject} {assignmentId : String}
    (named : Json.get assignment "assignment_id" = .str assignmentId)
    (plain : WorkerRoutes.plainSegment assignmentId = true) {state next : State} {result : Json}
    (wellFormed : WellFormed state.plane.1.db)
    (handled : handleAssignment (app.server passages) config platform assignment state =
      .ok result next) :
    ¬Begun state.plane.1.db assignmentId ∧ Begun next.plane.1.db assignmentId ∧
      ResultStored app platform next.plane.1.db assignmentId := by
  obtain ⟨id, _, lifted, rest⟩ := (bind_ok_iff _ _).mp handled
  obtain ⟨found, rfl⟩ := (lift_ok_iff _ _ _ _).mp lifted
  rw [Json.item] at found
  split_ifs at found
  obtain rfl := (Except.ok.inj found).symm.trans named
  obtain ⟨accepted, taken, sentAcceptance, rest⟩ := (bind_ok_iff _ _).mp rest
  obtain ⟨envelope, _, lifted, rest⟩ := (bind_ok_iff _ _).mp rest
  obtain ⟨executed, rfl⟩ := (lift_ok_iff _ _ _ _).mp lifted
  obtain ⟨leaseToken, _, lifted, rest⟩ := (bind_ok_iff _ _).mp rest
  obtain ⟨-, rfl⟩ := (lift_ok_iff _ _ _ _).mp lifted
  obtain ⟨leaseVersion, _, lifted, rest⟩ := (bind_ok_iff _ _).mp rest
  obtain ⟨-, rfl⟩ := (lift_ok_iff _ _ _ _).mp lifted
  obtain ⟨progressed, working, sentProgress, rest⟩ := (bind_ok_iff _ _).mp rest
  obtain ⟨answer, done, sentResult, rest⟩ := (bind_ok_iff _ _).mp rest
  obtain ⟨newVersion, _, lifted, rest⟩ := (bind_ok_iff _ _).mp rest
  obtain ⟨-, rfl⟩ := (lift_ok_iff _ _ _ _).mp lifted
  obtain ⟨_, logged, written, returned⟩ := (bind_ok_iff _ _).mp rest
  rw [log_ok] at written
  cases written
  cases returned
  -- The acceptance found the assignment waiting.
  obtain ⟨passage, met, _, others, served, left⟩ := sent_served app passages wellFormed
    (acceptance_routed config.workerToken config.workerId assignmentId plain) sentAcceptance
  obtain ⟨waited, begun⟩ := accept_served app passage others.wellFormed served
  rw [← left] at begun
  -- The submission was answered on tables that are further on.
  have acceptedThen := returned_onward ((advancing app passages).send _) wellFormed sentAcceptance
  have progressedThen :=
    returned_onward ((advancing app passages).send _) acceptedThen.wellFormed sentProgress
  have submittedThen := returned_onward
    ((advancing app passages).submitOrSpool config platform _ _ _) progressedThen.wellFormed sentResult
  have sentEnvelope := submitOrSpool_ok app passages config platform sentResult
  obtain ⟨later, reached, _, othersLater, servedLater, leftLater⟩ :=
    sent_served app passages progressedThen.wellFormed
      (submission_routed config.workerToken config.workerId assignmentId plain envelope.output
        leaseToken (envelope.dumpWithStatus envelope.status)) sentEnvelope
  have stored := result_served app later othersLater.wellFormed named executed servedLater
  rw [← leftLater] at stored
  exact ⟨waiting_before others waited, begun_onward (progressedThen.trans submittedThen) begun,
    stored⟩

/-- The assignment that a round completed, if it has an id that is one segment of a path. -/
def completedAssignment (ended : Json) : Option String :=
  match ended with
  | .obj fields =>
    match Json.get fields "status", Json.get fields "assignment_id" with
    | .str "completed", .str assignmentId =>
      if WorkerRoutes.plainSegment assignmentId then some assignmentId else none
    | _, _ => none
  | _ => none

/-- The document of a round that completed an assignment has its id. -/
theorem completedAssignment_some {ended : Json} {assignmentId : String}
    (completed : completedAssignment ended = some assignmentId) :
    ∃ fields, ended = .obj fields ∧ Json.get fields "assignment_id" = .str assignmentId ∧
      WorkerRoutes.plainSegment assignmentId = true := by
  unfold completedAssignment at completed
  split at completed
  · rename_i fields
    split at completed
    · rename_i id _ named
      obtain ⟨plain, same⟩ := Option.ite_none_right_eq_some.mp completed
      obtain rfl := Option.some.inj same
      exact ⟨fields, rfl, named, plain⟩
    · cases completed
  · cases completed

/-- The worker of a round. It does not remember a registration if it is started for the round. -/
def begin (started : Bool) (state : State) : State :=
  { state with registered := state.registered && !started }

/-- What a round ends with, whether it returns or raises: the assignment that it completed, and
the state. -/
def round (started : Bool) (state : State) : Option String × State :=
  match runOnce (app.server passages) config platform (begin started state) with
  | .ok ended next => (completedAssignment ended, next)
  | .error _ next => (none, next)

/-- Rounds, one after the other: the assignments that they complete, and the state they end in. -/
def rounds : List Bool → State → List String × State
  | [], state => ([], state)
  | started :: rest, state =>
    let here := round app passages config platform started state
    let later := rounds rest here.2
    (here.1.toList ++ later.1, later.2)

/-- A round that completes an assignment has handled it in the end. -/
theorem runOnce_handles {state next : State} {ended : Json} {assignmentId : String}
    (wellFormed : WellFormed state.plane.1.db)
    (ran : runOnce (app.server passages) config platform state = .ok ended next)
    (completed : completedAssignment ended = some assignmentId) :
    ∃ assignment polled result, Onward state.plane.1.db polled.plane.1.db ∧
      Json.get assignment "assignment_id" = .str assignmentId ∧
      WorkerRoutes.plainSegment assignmentId = true ∧
      handleAssignment (app.server passages) config platform assignment polled =
        .ok result next := by
  obtain ⟨_, registered, first, rest⟩ := (bind_ok_iff _ _).mp ran
  obtain ⟨count, replayed, second, rest⟩ := (bind_ok_iff _ _).mp rest
  obtain ⟨_, beaten, third, rest⟩ := (bind_ok_iff _ _).mp rest
  obtain ⟨assignment, polled, fourth, rest⟩ := (bind_ok_iff _ _).mp rest
  have one := returned_onward ((advancing app passages).ensureRegistered config) wellFormed first
  have two :=
    returned_onward ((advancing app passages).replayCompletedSpool config) one.wellFormed second
  have three := returned_onward ((advancing app passages).heartbeatOnce config) two.wellFormed third
  have four := returned_onward ((advancing app passages).pollAssignment config) three.wellFormed fourth
  cases assignment with
  | none =>
    cases rest
    cases completed
  | some assignment =>
    obtain ⟨result, _, handled, returned⟩ := (bind_ok_iff _ _).mp rest
    cases returned
    obtain ⟨fields, same, named, plain⟩ := completedAssignment_some completed
    obtain rfl := Json.obj.inj same
    exact ⟨assignment, polled, result, ((one.trans two).trans three).trans four, named, plain,
      handled⟩

/-- A round leads on, and the assignment it completes was taken up in it and has its result
stored. -/
theorem round_step (started : Bool) (state : State) (wellFormed : WellFormed state.plane.1.db) :
    Onward state.plane.1.db (round app passages config platform started state).2.plane.1.db ∧
      ∀ assignmentId ∈ (round app passages config platform started state).1,
        ¬Begun state.plane.1.db assignmentId ∧
        Begun (round app passages config platform started state).2.plane.1.db assignmentId ∧
        ResultStored app platform (round app passages config platform started state).2.plane.1.db
          assignmentId := by
  have onward := (advancing app passages).runOnce config platform (begin started state) wellFormed
  rw [round]
  cases ran : runOnce (app.server passages) config platform (begin started state) with
  | error error next =>
    rw [ran] at onward
    exact ⟨onward, fun assignmentId completed => by cases completed⟩
  | ok ended next =>
    rw [ran] at onward
    refine ⟨onward, fun assignmentId completed => ?_⟩
    have wellBegun : WellFormed (begin started state).plane.1.db := wellFormed
    obtain ⟨assignment, polled, result, before, named, plain, handled⟩ :=
      runOnce_handles app passages config platform wellBegun ran completed
    obtain ⟨waited, begun, stored⟩ := handleAssignment_ok app passages config platform named plain
      before.wellFormed handled
    exact ⟨waiting_before before waited, begun, stored⟩

/-- Rounds lead on. -/
theorem rounds_onward (starts : List Bool) (state : State)
    (wellFormed : WellFormed state.plane.1.db) :
    Onward state.plane.1.db (rounds app passages config platform starts state).2.plane.1.db := by
  induction starts generalizing state with
  | nil => exact .refl wellFormed
  | cons started rest inductionHypothesis =>
    have here := (round_step app passages config platform started state wellFormed).1
    exact here.trans (inductionHypothesis _ here.wellFormed)

end Rounds

/-! ## Rounds that complete an assignment -/

section Completing

variable (app : WorkerApp) (passages : Nat → Passage) (config : WorkerConfig)
  (platform : WorkerPlatform)

/-- The state of the app after a heartbeat. -/
def beaten (plane : ResultsPlane × Nat) : ResultsPlane × Nat :=
  served app passages plane (.heartbeat config.workerId) []

/-- The state of the app after a heartbeat and a poll. -/
def polled (plane : ResultsPlane × Nat) : ResultsPlane × Nat :=
  served app passages (beaten app passages config plane) (.nextAssignment config.workerId) []

/-- The state of the app when an assignment has been accepted. -/
def taken (assignmentId : String) (plane : ResultsPlane × Nat) : ResultsPlane × Nat :=
  served app passages (polled app passages config plane) (.accept assignmentId)
    [("worker_id", .str config.workerId)]

/-- The state of the app when progress of the assignment has been reported under its lease. -/
def advanced (assignmentId : String) (grant : Scheduler.LeaseGrant) (plane : ResultsPlane × Nat) :
    ResultsPlane × Nat :=
  served app passages (taken app passages config assignmentId plane) (.progress assignmentId)
    (reported config.workerId (.str grant.leaseToken) grant.leaseVersion)

/-- The state of the app when the assignment's envelope has been submitted under its lease. -/
def handedIn (assignmentId : String) (grant : Scheduler.LeaseGrant)
    (envelope : WorkUnitResultEnvelope) (plane : ResultsPlane × Nat) : ResultsPlane × Nat :=
  served app passages (advanced app passages config assignmentId grant plane) (.result assignmentId)
    (submitted config.workerId envelope.output (.str grant.leaseToken)
      (envelope.dumpWithStatus envelope.status))

/-- An assignment can be completed: it waits for the worker first, and everything that the worker
asks for it returns. -/
structure Completable (plane : ResultsPlane × Nat) (assignmentId : String)
    (row : AssignmentRow) (grant : Scheduler.LeaseGrant) (reply : Scheduler.ProgressReply)
    (envelope : WorkUnitResultEnvelope) : Prop where
  delivered : ∀ number, (passages number).delivery = .answered
  permitted : Security.requireTokenKind ("Bearer " ++ config.workerToken) .worker = .ok ()
  workerSegment : WorkerRoutes.plainSegment config.workerId = true
  segment : WorkerRoutes.plainSegment assignmentId = true
  beats : Serves app passages plane (.heartbeat config.workerId) []
    [("status", .str "ok"), ("worker_id", .str config.workerId)]
  waits : Scheduler.waitingAssignment config.workerId
    (met passages (beaten app passages config plane)).db = some (assignmentId, row)
  own : row.workerId = config.workerId
  body : Canonical.plain row.body = true
  constraints : Canonical.plain row.effectiveConstraints = true
  accepted : Serves app passages (polled app passages config plane) (.accept assignmentId)
    [("worker_id", .str config.workerId)] (WorkerRoutes.replyBody (.grant grant))
  executed : ∀ assignment, Json.item assignment "assignment_id" = .ok (.str assignmentId) →
    platform.executeEnvelope assignment = .ok envelope
  progressed : Serves app passages (taken app passages config assignmentId plane)
    (.progress assignmentId) (reported config.workerId (.str grant.leaseToken) grant.leaseVersion)
    (WorkerRoutes.replyBody (.progress reply))
  submitted : ∃ stored, Serves app passages (advanced app passages config assignmentId grant plane)
    (.result assignmentId) (submitted config.workerId envelope.output (.str grant.leaseToken)
      (envelope.dumpWithStatus envelope.status)) stored ∧ Canonical.plain (.obj stored) = true

variable {app passages} in
/-- A submission that is answered yields what it is answered with. -/
theorem submitOrSpool_yields {before after : ResultsPlane × Nat} {assignmentId : String}
    {leaseToken : Json} {envelope : WorkUnitResultEnvelope} {result : Json}
    (sends : Yields before after (send (app.server passages) (submission config.workerToken
      assignmentId config.workerId envelope.output leaseToken none (some envelope.modelDump)))
      result) :
    Yields before after (submitOrSpool (app.server passages) config platform assignmentId leaseToken
      envelope) result := by
  intro state here
  obtain ⟨next, returned, rest⟩ := sends state here
  refine ⟨next, ?_, rest⟩
  rw [submitOrSpool, returned]

namespace Completable

variable {app passages config platform}
variable {plane : ResultsPlane × Nat} {assignmentId : String} {row : AssignmentRow}
  {grant : Scheduler.LeaseGrant} {reply : Scheduler.ProgressReply}
  {envelope : WorkUnitResultEnvelope}

/-- The heartbeat is sent. -/
theorem heartbeatOnce
    (able : Completable app passages config platform plane assignmentId row grant reply envelope) :
    Yields plane (beaten app passages config plane)
      (WorkerDaemon.heartbeatOnce (app.server passages) config) () := by
  have sent := able.beats.yields (able.delivered _)
    (heartbeat_routed config.workerToken config.workerId able.workerSegment) able.permitted
    (plain_obj _ ["status", "worker_id"] rfl (by decide) rfl)
  exact .bind sent.discard (.log _)

/-- The poll finds the document of the assignment. -/
theorem pollAssignment
    (able : Completable app passages config platform plane assignmentId row grant reply envelope) :
    Yields (beaten app passages config plane) (polled app passages config plane)
      (WorkerDaemon.pollAssignment (app.server passages) config)
      (some (orderedMembers (WorkerRoutes.assignmentDocument assignmentId row))) := by
  obtain ⟨written, assigned⟩ := nextAssignment_reads able.waits able.body able.constraints
  have serves : Serves app passages (beaten app passages config plane)
      (.nextAssignment config.workerId) [] (WorkerApp.nextAssignment config.workerId
        (met passages (beaten app passages config plane))) := rfl
  refine .bind (serves.yields (able.delivered _)
    (poll_routed config.workerToken config.workerId able.workerSegment) able.permitted written) ?_
  refine .bind (.lift rfl) ?_
  rw [assigned]
  refine .bind (.lift rfl) ?_
  have worker : Json.get (orderedMembers (WorkerRoutes.assignmentDocument assignmentId row))
      "worker_id" = .str config.workerId := by
    rw [get_orderedMembers (assignmentDocument_plain assignmentId row able.body able.constraints)]
    exact congrArg Json.str able.own
  rw [worker, if_pos ((Json.same_str _ _).mpr rfl)]
  exact .pure _

/-- The assignment is handled: it is accepted, executed, reported on and submitted. -/
theorem handleAssignment
    (able : Completable app passages config platform plane assignmentId row grant reply envelope)
    {assignment : JsonObject}
    (named : Json.item assignment "assignment_id" = .ok (.str assignmentId)) :
    ∃ result, Yields (polled app passages config plane)
      (handedIn app passages config assignmentId grant envelope plane)
      (WorkerDaemon.handleAssignment (app.server passages) config platform assignment) result := by
  obtain ⟨stored, submits, written⟩ := able.submitted
  have accepts := able.accepted.yields (able.delivered _)
    (acceptance_routed config.workerToken config.workerId assignmentId able.segment)
    able.permitted (replyBody_plain _)
  have reports := able.progressed.yields (able.delivered _)
    (progress_routed config.workerToken config.workerId assignmentId able.segment _ _)
    able.permitted (replyBody_plain _)
  have sends := submits.yields (able.delivered _)
    (submission_routed config.workerToken config.workerId assignmentId able.segment _ _ _)
    able.permitted written
  have executed := able.executed assignment named
  have token := item_orderedMembers (replyBody_plain (.grant grant))
    (show Json.item _ "lease_token" = .ok (.str grant.leaseToken) from rfl)
  have version := item_orderedMembers (replyBody_plain (.grant grant))
    (show Json.item _ "lease_version" = .ok (.int grant.leaseVersion) from rfl)
  have taken : (Json.subscripted (.obj (orderedMembers (WorkerRoutes.replyBody (.grant grant))))
      "lease_version" >>= platform.runtime.int) = .ok grant.leaseVersion := by
    rw [Json.subscripted, version]
    rfl
  have renewed := item_orderedMembers (replyBody_plain (.progress reply))
    (show Json.item _ "lease_version" = .ok (.int reply.leaseVersion) from rfl)
  refine ⟨.obj (orderedMembers stored), .bind (.lift named) ?_⟩
  refine .bind accepts (.bind (.lift executed) (.bind (.lift token) (.bind (.lift taken) ?_)))
  refine .bind reports (.bind (submitOrSpool_yields config platform sends) ?_)
  exact .bind (.lift renewed) (.bind (.log _) (.pure _))

/-- What follows the replay of the spool completes the assignment. -/
theorem afterReplay
    (able : Completable app passages config platform plane assignmentId row grant reply envelope)
    (spooledCount : Nat) :
    ∃ ended, Yields plane (handedIn app passages config assignmentId grant envelope plane)
        (WorkerDaemon.afterReplay (app.server passages) config platform spooledCount) ended ∧
      completedAssignment ended = some assignmentId := by
  have document := assignmentDocument_plain assignmentId row able.body able.constraints
  have named := item_orderedMembers document
    (show Json.item _ "assignment_id" = .ok (.str assignmentId) from rfl)
  obtain ⟨result, handled⟩ := able.handleAssignment named
  refine ⟨_, .bind able.heartbeatOnce (.bind able.pollAssignment (.bind handled (.pure _))), ?_⟩
  rw [get_orderedMembers document]
  exact if_pos able.segment

/-- A round that registers first and has nothing to replay completes the assignment. -/
theorem round_some
    (able : Completable app passages config platform plane assignmentId row grant reply envelope)
    (started : Bool) (state : State)
    (fresh : (begin started state).registered = false) (empty : state.spool = .empty)
    (registers : Yields state.plane plane (register (app.server passages) config) ()) :
    (round app passages config platform started state).1 = some assignmentId := by
  obtain ⟨ready, registered, here, kept⟩ := registers (begin started state) rfl
  have ensured : ensureRegistered (app.server passages) config (begin started state) =
      .ok () ready := by
    have asked : (get : WorkerProgram (ResultsPlane × Nat) State) (begin started state) =
        .ok (begin started state) (begin started state) := rfl
    rw [ensureRegistered, bind_ok asked, fresh]
    exact registered
  have read : ResultSpool.completedEntries ready.spool = .ok [] := by
    rw [kept, begin, empty]
    rfl
  have replayed : replayCompletedSpool (app.server passages) config ready = .ok 0 ready := by
    rw [replayCompletedSpool_entries _ _ _ _ read]
    rfl
  obtain ⟨ended, yields, completed⟩ := able.afterReplay 0
  obtain ⟨last, returned, -, -⟩ := yields ready here
  have ran : runOnce (app.server passages) config platform (begin started state) =
      .ok ended last := by
    rw [runOnce, bind_ok ensured, bind_ok replayed]
    exact returned
  rw [round, ran]
  exact completed

end Completable

end Completing

/-! ## Each assignment once -/

section Once

variable (app : WorkerApp) (passages : Nat → Passage) (config : WorkerConfig)
  (platform : WorkerPlatform)

/-- Whatever gets lost on the way and whatever others call in between, each assignment is completed
in at most one round of a worker: it waited before, and its result is stored and stays so. -/
theorem completed_once (starts : List Bool) (state : State)
    (wellFormed : WellFormed state.plane.1.db) :
    (rounds app passages config platform starts state).1.Nodup ∧
      ∀ assignmentId ∈ (rounds app passages config platform starts state).1,
        ¬Begun state.plane.1.db assignmentId ∧
        ResultStored app platform (rounds app passages config platform starts state).2.plane.1.db
          assignmentId := by
  induction starts generalizing state with
  | nil => exact ⟨List.nodup_nil, fun assignmentId listed => by cases listed⟩
  | cons started rest inductionHypothesis =>
    obtain ⟨here, completed⟩ := round_step app passages config platform started state wellFormed
    obtain ⟨distinct, followed⟩ := inductionHypothesis _ here.wellFormed
    have later := rounds_onward app passages config platform rest _ here.wellFormed
    rw [rounds]
    constructor
    · have single : (round app passages config platform started state).1.toList.Nodup := by
        cases (round app passages config platform started state).1 <;> simp
      refine single.append distinct ?_
      -- What this round completed waits in no later one.
      intro assignmentId now again
      have begun := (completed assignmentId (Option.mem_toList.mp now)).2.1
      exact (followed assignmentId again).1 begun
    · intro assignmentId listed
      rcases List.mem_append.mp listed with now | again
      · obtain ⟨waited, -, stored⟩ := completed assignmentId (Option.mem_toList.mp now)
        exact ⟨waited, resultStored_onward app later stored⟩
      · obtain ⟨waited, stored⟩ := followed assignmentId again
        exact ⟨waiting_before here waited, stored⟩

end Once

/-! ## A sample -/

section Sample

/-- Libraries that read the document of the sample's envelope. -/
def sampleLibraries : ResultsPlatform :=
  { HostResults.samplePlatform with
    scheduler := ⟨Scenario.digest, fun _ => some (Scenario.envelope "res_a" 13 14 .succeeded)⟩ }

/-- The app of the sample. Other requests are answered without a change. -/
def sampleApp : WorkerApp where
  platform := sampleLibraries
  runtime := ⟨fun _ => false, fun _ => false, fun _ => "", fun _ => none⟩
  message _ := "refused"
  elsewhere _ := (WorkerApp.response 200 (.obj []), ⟨id, fun _ wellFormed => .refl wellFormed⟩)

/-- Every request of the sample is answered, after another worker has tried to accept the
assignment. -/
def samplePassages (number : Nat) : Passage where
  others := [sampleApp.otherRequest ⟨[], Scenario.draws 80, Scenario.draws 81, .answered⟩
    (acceptance "tbk_w_2" (Scenario.assignmentId 14) "wrk_2")]
  draws := Scenario.draws (40 + number)
  finalizing := Scenario.draws (60 + number)
  delivery := .answered

/-- The worker of the sample. -/
def sampleWorker : WorkerPlatform where
  runtime := sampleApp.runtime
  leaseTokenHash _ := ""
  executeEnvelope _ := .ok (Scenario.envelope "res_a" 13 14 .succeeded)

/-- Its configuration. -/
def sampleConfig : WorkerConfig := { workerId := "wrk_1", workerToken := "tbk_w_1" }

/-- The control plane with one worker, which is registered. -/
def samplePlane : ResultsPlane :=
  let host := HostResults.samplePlane.host
  { HostResults.samplePlane with
    host := { host with
      plane := { host.plane with workerManifests := Scenario.plane.workerManifests } } }

/-- The calls that lead to an assignment for the worker, whose task is none that is finalized. -/
def sampleCalls : List OtherCall :=
  [ResultOp.persistRunAndWorkUnit (Scenario.draws 10)
      { HostResults.sampleWorkUnit with taskType := "translation" } "VS0",
    .persistRoutePlan (Scenario.draws 11) HostResults.samplePlan,
    .persistPolicyDecision (Scenario.draws 12) HostResults.sampleDecision,
    .schedule (Scenario.createAttempt 13),
    .schedule (Scenario.assignNextWork 14)].map (OtherCall.result sampleLibraries)

/-- The assignment waits for the worker. -/
def sampleState : State where
  plane := (WorkerApp.afterOthers sampleCalls samplePlane, 0)
  spool := .empty

/-- The app when the worker has registered. -/
def sampleRegistered : ResultsPlane × Nat := (met samplePassages sampleState.plane, 1)

/-- The assignment. -/
abbrev sampleAssignment : String := Scenario.assignmentId 14

/-- Its lease. -/
def sampleGrant : Scheduler.LeaseGrant :=
  ⟨sampleAssignment, "tbk_l_AAAAAAAAAAAAAAAAAAAAAAAAAAAAAA43", 1, "2026-01-01T00:43:30Z"⟩

/-- The lease when it has been renewed. -/
def sampleReply : Scheduler.ProgressReply := ⟨sampleAssignment, 2, "2026-01-01T00:44:30Z"⟩

/-- Its envelope. -/
def sampleEnvelope : WorkUnitResultEnvelope := Scenario.envelope "res_a" 13 14 .succeeded

/-- What the scheduler is handed when the envelope is submitted. -/
def sampleSubmission : Scheduler.Submission where
  assignmentId := sampleAssignment
  workerId := sampleConfig.workerId
  leaseToken := some sampleGrant.leaseToken
  leaseTokenHash := none
  output := sampleEnvelope.output
  resultEnvelope := .document (sampleEnvelope.dumpWithStatus sampleEnvelope.status)

/-- What the submission is answered with. -/
def sampleStored : Scheduler.SubmissionReply where
  status := .succeeded
  resultEnvelopeId := sampleEnvelope.resultEnvelopeId
  outputHash := sampleEnvelope.outputHash
  resultHash := sampleEnvelope.resultHash

/-- The tables that the submission meets. -/
def sampleTables : ResultsPlane :=
  met samplePassages (advanced sampleApp samplePassages sampleConfig sampleAssignment sampleGrant
    sampleRegistered)

/-- The registration is answered. -/
theorem sample_registers : Yields sampleState.plane sampleRegistered
    (register (sampleApp.server samplePassages) sampleConfig) () := by
  have sent := elsewhere_yields sampleApp samplePassages sampleState.plane _ rfl
    (registration_routed sampleConfig.workerToken sampleConfig.manifestPayload)
    (answered_response rfl)
  exact .bind sent.discard (.bind (.modify (fun _ => ⟨rfl, rfl⟩)) (.log _))

/-- The assignment waits for the worker when the worker polls. -/
theorem sample_waits : ∃ row, Scheduler.waitingAssignment sampleConfig.workerId
      (met samplePassages (beaten sampleApp samplePassages sampleConfig sampleRegistered)).db =
        some (sampleAssignment, row) ∧
    row.workerId = sampleConfig.workerId ∧ Canonical.plain row.body = true ∧
    Canonical.plain row.effectiveConstraints = true := by
  have here : (Scheduler.waitingAssignment sampleConfig.workerId
      (met samplePassages (beaten sampleApp samplePassages sampleConfig sampleRegistered)).db).any
        (fun waiting => decide (waiting.1 = sampleAssignment ∧
          waiting.2.workerId = sampleConfig.workerId ∧ Canonical.plain waiting.2.body = true ∧
          Canonical.plain waiting.2.effectiveConstraints = true)) = true := by decide +kernel
  obtain ⟨⟨_, row⟩, found, fine⟩ := (Option.any_eq_true _ _).mp here
  obtain ⟨rfl, rest⟩ := of_decide_eq_true fine
  exact ⟨row, found, rest⟩

/-- No task of the sample is finalized. -/
theorem sample_unsupported (key : String) (row : WorkUnitDetails)
    (found : sampleTables.host.workUnitDetails.find? key = some row) :
    Host.supportedTask row.body = none := by
  have none_supported : sampleTables.host.workUnitDetails.entries.all
      (fun entry => (Host.supportedTask entry.2.body).isNone) = true := by decide +kernel
  have stored := (sampleTables.host.workUnitDetails.mem_entries_iff key row).mpr found
  exact Option.isNone_iff_eq_none.mp (List.all_eq_true.mp none_supported (key, row) stored)

/-- The round completes the assignment. -/
theorem sample_completable : ∃ row, Completable sampleApp samplePassages sampleConfig sampleWorker
    sampleRegistered sampleAssignment row sampleGrant sampleReply sampleEnvelope := by
  obtain ⟨row, waits, own, body, constraints⟩ := sample_waits
  refine ⟨row, {
    delivered := fun _ => rfl
    permitted := rfl
    workerSegment := by decide
    segment := by decide
    beats := ?_
    waits, own, body, constraints
    accepted := ?_
    executed := fun _ _ => rfl
    progressed := ?_
    submitted := ?_ }⟩
  · have recorded : (WorkerApp.workerHeartbeat (samplePassages 1) sampleConfig.workerId
        (met samplePassages sampleRegistered)).1.isOk = true := by decide +kernel
    exact workerHeartbeat_ok recorded
  · refine call_replied (.acceptAssignment (samplePassages 3).draws sampleAssignment
      sampleConfig.workerId 0 Lease.defaultLeaseDurationMs) (.grant sampleGrant) ?_
        (fun _ same => by cases same)
    decide +kernel
  · refine call_replied (.progressAssignment (samplePassages 4).draws sampleAssignment
      sampleConfig.workerId sampleGrant.leaseToken 1 Lease.defaultLeaseDurationMs)
        (.progress sampleReply) ?_ (fun _ same => by cases same)
    decide +kernel
  · have called : (Scheduler.runAlone sampleLibraries.scheduler
        (.submitResult (samplePassages 5).draws sampleSubmission) sampleTables.db).1 =
          .ok (.submission sampleStored) := by decide +kernel
    exact ⟨_, call_unfinalized called sample_unsupported, replyBody_plain _⟩

/-- Two rounds of the sample's worker, which is started for the first of them. One of them completes
the assignment. -/
theorem completed_once_sample :
    sampleAssignment ∈
        (rounds sampleApp samplePassages sampleConfig sampleWorker [true, false] sampleState).1 ∧
    (rounds sampleApp samplePassages sampleConfig sampleWorker [true, false] sampleState).1.Nodup ∧
      ∀ assignmentId ∈
          (rounds sampleApp samplePassages sampleConfig sampleWorker [true, false] sampleState).1,
        ¬Begun sampleState.plane.1.db assignmentId ∧
        ResultStored sampleApp sampleWorker
          (rounds sampleApp samplePassages sampleConfig sampleWorker [true, false]
            sampleState).2.plane.1.db assignmentId := by
  have fresh : WellFormed samplePlane.db := by
    constructor <;> (intro _ _ found; cases found)
  obtain ⟨row, able⟩ := sample_completable
  have first := able.round_some true sampleState rfl rfl sample_registers
  refine ⟨?_, completed_once sampleApp samplePassages sampleConfig sampleWorker [true, false]
    sampleState (WorkerApp.afterOthers_onward sampleCalls fresh).wellFormed⟩
  rw [rounds, first]
  exact List.mem_append_left _ List.mem_cons_self

end Sample

end WorkerRounds

end TokenBank
