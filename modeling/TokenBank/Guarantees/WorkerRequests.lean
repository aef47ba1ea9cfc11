import TokenBank.App.WorkerRoutes
import TokenBank.Core.Members
import TokenBank.Guarantees.Spooling
import TokenBank.Host.Results
import TokenBank.Models.Revalidation
import TokenBank.Scheduler.System

/-!
# Requests of a worker

A worker sends its requests over a network that loses requests and answers, while others call
the app in between. Whatever they lead to is further on: an assignment that was taken up does not
wait again, and a result that was stored stays so. A request that returns was served by its route,
and a delivered request that its route serves returns what the route does.
-/

namespace TokenBank

/-! ## Further on -/

namespace Onward

/-- Nothing has happened yet. -/
theorem refl {db : Db} (wellFormed : WellFormed db) : Onward db db where
  wellFormed := wellFormed
  results _ _ found := found
  assignments _ row found begun := ⟨row, found, begun⟩

/-- What happened in two stages. -/
theorem trans {before between after : Db} (first : Onward before between)
    (second : Onward between after) : Onward before after where
  wellFormed := second.wellFormed
  results key row found := second.results key row (first.results key row found)
  assignments key row found begun := by
    obtain ⟨later, there, laterBegun⟩ := first.assignments key row found begun
    exact second.assignments key later there laterBegun

/-- Changes of other tables, and new work units. -/
theorem of_same {before after : Db} (wellFormed : WellFormed before)
    (workUnits : ∀ key, (before.workUnits.find? key).isSome = true →
      (after.workUnits.find? key).isSome = true)
    (attempts : after.executionAttempts = before.executionAttempts)
    (assignments : after.assignments = before.assignments)
    (results : after.resultEnvelopes = before.resultEnvelopes) : Onward before after where
  wellFormed := by
    constructor
    · rw [attempts]
      exact fun key row found => workUnits _ (wellFormed.attempts key row found)
    · rw [attempts, assignments]
      exact wellFormed.assignments
  results key row found := results ▸ found
  assignments key row found begun := ⟨row, assignments ▸ found, begun⟩

/-- No plan makes an assignment wait again that was taken up. -/
theorem assignmentAfter_begun (platform : Platform) (plan : Plan) (key : String)
    (row : AssignmentRow) (begun : row.status ≠ .created) :
    (plan.assignmentAfter platform key row).status ≠ .created := by
  cases plan with
  | accept draws assignmentId workerId expectedLeaseVersion expiresAt assignment =>
    rw [Plan.assignmentAfter]
    split_ifs
    · simp [Lease.LeaseUpdate.apply, Scheduler.acceptUpdate]
    · exact begun
  | reject draws assignmentId workerId assignment =>
    rw [Plan.assignmentAfter]
    split_ifs
    · simp [Scheduler.rejectRow]
    · exact begun
  | progress draws assignmentId workerId expectedLeaseVersion expiresAt assignment =>
    rw [Plan.assignmentAfter]
    split_ifs
    · simp [Lease.LeaseUpdate.apply, Scheduler.progressUpdate]
    · exact begun
  | submit draws assignmentId assignment late result =>
    rw [Plan.assignmentAfter]
    split_ifs
    · simp [Scheduler.completeRow]
    · simp [Scheduler.completeRow]
    · exact begun
  | sweep draws rows =>
    rw [Plan.assignmentAfter, Scheduler.expiredRow_status]
    split_ifs
    · simp
    · exact begun
  | _ => exact begun

/-- A call of the scheduler. -/
theorem scheduled (platform : Platform) (op : SchedulerOp) {db : Db} (wellFormed : WellFormed db) :
    Onward db (Scheduler.step platform db op) := by
  rcases Scheduler.step_cases platform op db wellFormed with
    ⟨error, -, same⟩ | ⟨reply, plan, -, -, performed⟩
  · rw [same]
    exact refl wellFormed
  · refine ⟨Scheduler.step_wellFormed platform op db wellFormed, ?_, ?_⟩
    · intro key row found
      rw [performed.resultEnvelopes key]
      cases filed : plan.newResult key with
      | none => exact found
      | some other =>
        have absent := performed.newResult_absent key other filed
        exact absurd (absent.symm.trans found) (by simp)
    · intro key row found begun
      exact ⟨_, performed.assignment_kept key row found,
        assignmentAfter_begun platform plan key row begun⟩

/-- A finalization. -/
theorem finalized {platform : ResultsPlatform} {draws : Draws} {resultEnvelopeId : String}
    {result : Except Raised (Option (VerifierReport × HostResultSummary))}
    {before after : ResultsPlane} (wellFormed : WellFormed before.db)
    (ends : Host.Finalized platform draws resultEnvelopeId before result after) :
    Onward before.db after.db := by
  obtain ⟨outbox, same_host⟩ := ends.host
  have same_db : after.db = { before.db with eventOutbox := outbox } := by
    rw [ResultsPlane.db, same_host]
    rfl
  rw [same_db]
  exact of_same wellFormed (fun _ present => present) rfl rfl rfl

/-- A call of the host. -/
theorem stepped (platform : ResultsPlatform) (op : ResultOp) {plane : ResultsPlane}
    (wellFormed : WellFormed plane.db) :
    Onward plane.db (ResultsPlane.step platform plane op).db := by
  have happened := ResultsPlane.step_happened platform plane op
  generalize ResultsPlane.step platform plane op = after at happened
  cases happened with
  | nothing => exact refl wellFormed
  | workUnit draws workUnit phase runs workUnits details outbox inserted described =>
    refine of_same wellFormed (fun key present => ?_) rfl rfl rfl
    change (workUnits.find? key).isSome = true
    rw [Store.Table.find?_insert _ _ _ _ inserted]
    split_ifs
    · rfl
    · exact present
  | routePlan op routePlan keys outbox stores =>
    exact of_same wellFormed (fun _ present => present) rfl rfl rfl
  | policyDecision draws decision keys outbox =>
    exact of_same wellFormed (fun _ present => present) rfl rfl rfl
  | scheduled op => exact scheduled platform.scheduler op wellFormed
  | finalized draws resultEnvelopeId result left ends => exact finalized wellFormed ends
  | asked draws workUnitId resultEnvelopeId row result left unsummarised last ends =>
    exact finalized wellFormed ends

/-- A heartbeat. -/
theorem heartbeat (passage : Passage) (workerId : String) {plane : ResultsPlane}
    (wellFormed : WellFormed plane.db) :
    Onward plane.db (WorkerApp.workerHeartbeat passage workerId plane).2.db := by
  simp only [WorkerApp.workerHeartbeat, Store.Part.run_on, ControlPlane.recordWorkerHeartbeat,
    Store.Client.run_transaction]
  cases recorded : (ControlPlane.recordWorkerHeartbeatWrites passage.draws workerId
      "healthy").run plane.host.plane with
  | error error =>
    simp only [HostPlane.controlPart, ResultsPlane.hostPart, recorded]
    exact refl wellFormed
  | ok outcome =>
    obtain ⟨value, left⟩ := outcome
    simp only [HostPlane.controlPart, ResultsPlane.hostPart, recorded]
    simp only [ControlPlane.recordWorkerHeartbeatWrites, Store.Block.run_bind_ok,
      Store.Block.run_put_ok, Store.Block.run_fetch_ok, Store.map_ok_iff] at recorded
    obtain ⟨_, _, ⟨snapshots, -, rfl⟩, sequence, _, ⟨-, rfl⟩, db, enqueued, rfl⟩ := recorded
    rw [Outbox.insertPending] at enqueued
    split_ifs at enqueued
    obtain ⟨outbox, -, rfl⟩ := (Store.map_ok_iff _ _ _).mp enqueued
    exact of_same wellFormed (fun _ present => present) rfl rfl rfl

end Onward

namespace OtherCall

/-- A call of the host is a call of someone else. -/
def result (platform : ResultsPlatform) (op : ResultOp) : OtherCall where
  change plane := ResultsPlane.step platform plane op
  onward _ wellFormed := .stepped platform op wellFormed

end OtherCall

namespace WorkerApp

variable (app : WorkerApp)

/-- The calls of others, one after the other. -/
theorem afterOthers_onward (others : List OtherCall) {plane : ResultsPlane}
    (wellFormed : WellFormed plane.db) : Onward plane.db (afterOthers others plane).db := by
  induction others generalizing plane with
  | nil => exact .refl wellFormed
  | cons first rest inductionHypothesis =>
    have here := first.onward plane wellFormed
    exact here.trans (inductionHypothesis here.wellFormed)

/-- What happens to the tables behind a call of the scheduler, which is finalized if it stored a
result. -/
theorem call_after (passage : Passage) (op : SchedulerOp) {plane : ResultsPlane}
    (wellFormed : WellFormed plane.db) :
    Onward (Scheduler.step app.platform.scheduler plane.db op)
      (app.call passage op plane).2.db := by
  have called := Onward.scheduled app.platform.scheduler op wellFormed
  unfold call
  simp only
  split
  · exact .refl called.wellFormed
  · rename_i reply _
    let stored := ResultsPlane.dbPart.replace plane
      (Scheduler.runAlone app.platform.scheduler op plane.db).2
    have ends := (Host.finalizeUrlCheckResult_ensures app.platform passage.finalizing
      reply.resultEnvelopeId stored).run
    have wellFormedStored : WellFormed stored.db := called.wellFormed
    exact Onward.finalized wellFormedStored ends
  · exact .refl called.wellFormed

/-- A call of the scheduler with its finalization. -/
theorem call_onward (passage : Passage) (op : SchedulerOp) {plane : ResultsPlane}
    (wellFormed : WellFormed plane.db) : Onward plane.db (app.call passage op plane).2.db :=
  (Onward.scheduled app.platform.scheduler op wellFormed).trans
    (app.call_after passage op wellFormed)

/-- A call returns only if the scheduler does. -/
theorem call_scheduled (passage : Passage) (op : SchedulerOp) {plane : ResultsPlane}
    {body : JsonObject} (called : (app.call passage op plane).1 = .ok body) :
    ∃ reply, (Scheduler.runAlone app.platform.scheduler op plane.db).1 = .ok reply := by
  cases ran : (Scheduler.runAlone app.platform.scheduler op plane.db).1 with
  | error error =>
    simp only [call, ran] at called
    cases called
  | ok reply => exact ⟨reply, rfl⟩

/-- A route. -/
theorem serve_onward (passage : Passage) (route : WorkerRoute) (payload : JsonObject)
    {plane : ResultsPlane} (wellFormed : WellFormed plane.db) :
    Onward plane.db (app.serve passage route payload plane).2.db := by
  unfold serve
  split
  · exact .heartbeat passage _ wellFormed
  · exact .refl wellFormed
  · split
    · exact app.call_onward passage _ wellFormed
    · exact .refl wellFormed
    · exact .refl wellFormed

/-- A request. -/
theorem handle_onward (passage : Passage) (request : ControlPlaneRequest) {plane : ResultsPlane}
    (wellFormed : WellFormed plane.db) :
    Onward plane.db (app.handle passage request plane).2.db := by
  unfold handle
  split
  · exact (app.elsewhere request).2.onward plane wellFormed
  · split
    · exact .refl wellFormed
    · exact app.serve_onward passage _ _ wellFormed

/-- The request of another worker is a call of someone else. -/
def otherRequest (passage : Passage) (request : ControlPlaneRequest) : OtherCall where
  change plane := (app.handle passage request plane).2
  onward _ wellFormed := app.handle_onward passage request wellFormed

/-- What the network makes of a request. -/
theorem respond_onward (passages : Nat → Passage) (request : ControlPlaneRequest)
    (state : ResultsPlane × Nat) (wellFormed : WellFormed state.1.db) :
    Onward state.1.db (((app.server passages).respond state request).2).1.db := by
  have met := afterOthers_onward (passages state.2).others wellFormed
  have handled := app.handle_onward (passages state.2) request met.wellFormed
  simp only [server]
  cases (passages state.2).delivery with
  | answered => exact met.trans handled
  | unanswered => exact met.trans handled
  | undelivered => exact met

end WorkerApp

/-! ## Programs of a worker -/

namespace WorkerProgram

section Inversion

variable {σ α β : Type} {program : WorkerProgram σ α} {state last : WorkerState σ}

/-- A sequence returns exactly through its first program. -/
theorem bind_ok_iff (rest : α → WorkerProgram σ β) (result : β) :
    (program >>= rest) state = .ok result last ↔
      ∃ value next, program state = .ok value next ∧ rest value next = .ok result last := by
  cases ran : program state with
  | error error next =>
    rw [bind_error ran]
    simp
  | ok value next =>
    rw [bind_ok ran]
    simp

end Inversion

end WorkerProgram

namespace WorkerRounds

open WorkerDaemon ControlPlaneClient WorkerProgram

section Advancing

variable (app : WorkerApp) (passages : Nat → Passage)

/-- The state of a worker of the app. -/
abbrev State := WorkerState (ResultsPlane × Nat)

/-- What a program leads to is further on. -/
def Advances {α : Type} (program : WorkerProgram (ResultsPlane × Nat) α) : Prop :=
  ∀ state, WellFormed state.plane.1.db →
    Onward state.plane.1.db (stateAfter (program state)).plane.1.db

/-- What requests lead to is further on. -/
theorem advancing : Leading (app.server passages) (fun before after =>
    WellFormed before.plane.1.db → Onward before.plane.1.db after.plane.1.db) where
  quiet before after same _ wellFormed := by
    rw [same]
    exact .refl wellFormed
  trans before between after first second wellFormed := by
    have here := first wellFormed
    exact here.trans (second here.wellFormed)
  asks state request := app.respond_onward passages request state.plane

end Advancing

/-! ## What an answer without an error says -/

section Answers

variable {σ : Type} {plane : ControlPlaneServer σ}

/-- A request returns exactly if its answer carries a value. -/
theorem send_ok_iff (request : ControlPlaneRequest) (state next : WorkerState σ) (value : Json) :
    send plane request state = .ok value next ↔
      answered (plane.respond state.plane request).1 = .ok value ∧
        afterRequest plane state request = next := by
  cases given : answered (plane.respond state.plane request).1 with
  | error error =>
    rw [send_error plane request state error given]
    simp
  | ok carried =>
    rw [send_ok plane request state carried given]
    simp

/-- A value is raised or returned as it is. -/
theorem lift_ok_iff {α : Type} (result : Except Raised α) (state next : WorkerState σ)
    (value : α) : (lift result : WorkerProgram σ α) state = .ok value next ↔
      result = .ok value ∧ state = next := by
  cases result with
  | error error => simp [lift, throw, throwThe, MonadExceptOf.throw, EStateM.throw]
  | ok carried => simp [lift, pure, EStateM.pure]

end Answers

section Handling

variable (app : WorkerApp) (passages : Nat → Passage)

/-- The tables that a request meets, when others have made their calls. -/
def met (plane : ResultsPlane × Nat) : ResultsPlane :=
  WorkerApp.afterOthers (passages plane.2).others plane.1

/-- A request whose answer carries a value was handled, and was answered without an error. -/
theorem answered_handled {plane : ResultsPlane × Nat} {request : ControlPlaneRequest} {value : Json}
    (given : answered ((app.server passages).respond plane request).1 = .ok value) :
    (app.handle (passages plane.2) request (met passages plane)).1.statusCode < 400 ∧
      ((app.server passages).respond plane request).2 =
        ((app.handle (passages plane.2) request (met passages plane)).2, plane.2 + 1) := by
  simp only [WorkerApp.server] at given ⊢
  cases delivered : (passages plane.2).delivery with
  | answered =>
    rw [delivered] at given
    refine ⟨?_, rfl⟩
    by_contra failed
    have refused : 400 ≤ (app.handle (passages plane.2) request
        (WorkerApp.afterOthers (passages plane.2).others plane.1)).1.statusCode :=
      Nat.le_of_not_lt failed
    simp only [answered, if_pos refused] at given
    cases given
  | unanswered =>
    rw [delivered] at given
    cases given
  | undelivered =>
    rw [delivered] at given
    cases given

/-- A request that is refused for its token is answered with an error. -/
theorem requireTokenKind_error {authorization : String} {tokenKind : Security.TokenKind}
    {error : HttpError}
    (refused : Security.requireTokenKind authorization tokenKind = .error error) :
    400 ≤ error.statusCode := by
  unfold Security.requireTokenKind at refused
  cases extracted : Security.extractBearerToken authorization with
  | error unread =>
    have missing : unread = ⟨401, .obj [("error", .str "missing_bearer_token")]⟩ := by
      unfold Security.extractBearerToken at extracted
      simp only at extracted
      split_ifs at extracted
      exact (Except.error.inj extracted).symm
    rw [extracted] at refused
    obtain rfl := Except.error.inj refused
    rw [missing]
    decide
  | ok token =>
    rw [extracted] at refused
    simp only [bind, Except.bind] at refused
    split_ifs at refused
    · cases refused
    · obtain rfl := Except.error.inj refused
      decide

/-- A request for a route that is answered without an error was served without an exception. -/
theorem handled_served (passage : Passage) {request : ControlPlaneRequest} {plane : ResultsPlane}
    {route : WorkerRoute} {payload : JsonObject}
    (routed : WorkerApp.routed request = some (route, payload))
    (fine : (app.handle passage request plane).1.statusCode < 400) :
    (∃ body, (app.serve passage route payload plane).1 = .ok body) ∧
      (app.handle passage request plane).2 = (app.serve passage route payload plane).2 := by
  rw [WorkerApp.handle, routed] at fine ⊢
  simp only at fine ⊢
  cases permitted : Security.requireTokenKind request.authorization .worker with
  | error error =>
    rw [permitted] at fine
    have refused := requireTokenKind_error permitted
    exact absurd fine (Nat.not_lt.mpr refused)
  | ok _ =>
    rw [permitted] at fine
    refine ⟨?_, rfl⟩
    cases served : (app.serve passage route payload plane).1 with
    | ok body => exact ⟨body, rfl⟩
    | error error =>
      simp only [served, WorkerApp.answer] at fine
      split_ifs at fine
      · exact absurd fine (by simp [WorkerApp.refused, WorkerApp.response])
      · exact absurd fine (by decide)

end Handling

/-! ## Routes of requests -/

section Routes

/-- An id that is one segment is found between the segments before it and behind it. -/
theorem segments_id (front id back : String) (plain : WorkerRoutes.plainSegment id = true) :
    WorkerRoutes.segments (front ++ "/" ++ id ++ ("/" ++ back)) =
      WorkerRoutes.segments front ++ id :: WorkerRoutes.segments back := by
  have unslashed : '/' ∉ id.toList := by
    intro slashed
    simp only [WorkerRoutes.plainSegment, Bool.and_eq_true, List.all_eq_true] at plain
    have fine := plain.2 '/' slashed
    revert fine
    decide
  have split : (front ++ "/" ++ id ++ ("/" ++ back)).toList =
      front.toList ++ '/' :: (id.toList ++ '/' :: back.toList) := by
    simp
  rw [WorkerRoutes.segments, split, List.splitOn_append_cons_self, List.splitOn_append_cons_self,
    List.splitOn_eq_singleton unslashed]
  simp [WorkerRoutes.segments]

/-- The route of an action on an assignment. -/
theorem routeOf_assignment (id action : String) (plain : WorkerRoutes.plainSegment id = true)
    (single : '/' ∉ action.toList) :
    WorkerRoutes.routeOf "POST" ("/v0/assignments/" ++ id ++ ("/" ++ action)) =
      if action = "accept" then some (.accept id)
      else if action = "reject" then some (.reject id)
      else if action = "progress" then some (.progress id)
      else if action = "result" then some (.result id)
      else none := by
  have split := segments_id "/v0/assignments" id action plain
  have first : WorkerRoutes.segments "/v0/assignments" = ["", "v0", "assignments"] := by decide
  have last : WorkerRoutes.segments action = [action] := by
    rw [WorkerRoutes.segments, List.splitOn_eq_singleton single]
    simp
  change WorkerRoutes.routeOf "POST" ("/v0/assignments" ++ "/" ++ id ++ ("/" ++ action)) = _
  rw [WorkerRoutes.routeOf, split, first, last]
  simp [plain]

variable (token workerId id : String)

/-- A registration is left to others. -/
theorem registration_routed (payload : Json) :
    WorkerApp.routed (registration token payload) = none := by
  have route : WorkerRoutes.routeOf "POST" "/v0/workers/register" = none := by decide
  simp only [WorkerApp.routed, registration, requestOf, route]

/-- A heartbeat is routed as one. -/
theorem heartbeat_routed (plain : WorkerRoutes.plainSegment workerId = true) :
    WorkerApp.routed (heartbeat token workerId) = some (.heartbeat workerId, []) := by
  have split := segments_id "/v0/workers" workerId "heartbeat" plain
  have first : WorkerRoutes.segments "/v0/workers" = ["", "v0", "workers"] := by decide
  have last : WorkerRoutes.segments "heartbeat" = ["heartbeat"] := by decide
  have route : WorkerRoutes.routeOf "POST" ("/v0/workers/" ++ workerId ++ "/heartbeat") =
      some (.heartbeat workerId) := by
    change WorkerRoutes.routeOf "POST"
      ("/v0/workers" ++ "/" ++ workerId ++ ("/" ++ "heartbeat")) = _
    rw [WorkerRoutes.routeOf, split, first, last]
    simp [plain]
  simp only [WorkerApp.routed, heartbeat, requestOf, route]

/-- A poll is routed as one. -/
theorem poll_routed (plain : WorkerRoutes.plainSegment workerId = true) :
    WorkerApp.routed (poll token workerId) = some (.nextAssignment workerId, []) := by
  have split := segments_id "/v0/workers" workerId "assignments/next" plain
  have first : WorkerRoutes.segments "/v0/workers" = ["", "v0", "workers"] := by decide
  have last : WorkerRoutes.segments "assignments/next" = ["assignments", "next"] := by decide
  have route : WorkerRoutes.routeOf "GET" ("/v0/workers/" ++ workerId ++ "/assignments/next") =
      some (.nextAssignment workerId) := by
    change WorkerRoutes.routeOf "GET"
      ("/v0/workers" ++ "/" ++ workerId ++ ("/" ++ "assignments/next")) = _
    rw [WorkerRoutes.routeOf, split, first, last]
    simp [plain]
  simp only [WorkerApp.routed, poll, requestOf, route]

/-- An acceptance is routed as one. -/
theorem acceptance_routed (plain : WorkerRoutes.plainSegment id = true) :
    WorkerApp.routed (acceptance token id workerId) =
      some (.accept id, [("worker_id", .str workerId)]) := by
  have route : WorkerRoutes.routeOf "POST" ("/v0/assignments/" ++ id ++ "/accept") =
      some (.accept id) := routeOf_assignment id "accept" plain (by decide)
  simp only [WorkerApp.routed, acceptance, requestOf, route]
  rfl

/-- The members of a report of progress. -/
def reported (leaseToken : Json) (leaseVersion : Int) : JsonObject :=
  [("worker_id", .str workerId), ("lease_token", leaseToken),
    ("expected_lease_version", .int leaseVersion)]

/-- A report of progress is routed as one. -/
theorem progress_routed (plain : WorkerRoutes.plainSegment id = true) (leaseToken : Json)
    (leaseVersion : Int) :
    WorkerApp.routed (progress token id workerId leaseToken leaseVersion) =
      some (.progress id, reported workerId leaseToken leaseVersion) := by
  have route : WorkerRoutes.routeOf "POST" ("/v0/assignments/" ++ id ++ "/progress") =
      some (.progress id) := routeOf_assignment id "progress" plain (by decide)
  simp only [WorkerApp.routed, progress, requestOf, route]
  rfl

/-- The members of a submission of an envelope. -/
def submitted (output : JsonObject) (leaseToken : Json) (envelope : JsonObject) : JsonObject :=
  [("worker_id", .str workerId), ("output", .obj output), ("result_envelope", .obj envelope),
    ("lease_token", leaseToken)]

/-- A submission is routed as one. -/
theorem submission_routed (plain : WorkerRoutes.plainSegment id = true) (output : JsonObject)
    (leaseToken : Json) (envelope : JsonObject) :
    WorkerApp.routed (submission token id workerId output leaseToken none (some (.obj envelope))) =
      some (.result id, submitted workerId output leaseToken envelope) := by
  have route : WorkerRoutes.routeOf "POST" ("/v0/assignments/" ++ id ++ "/result") =
      some (.result id) := routeOf_assignment id "result" plain (by decide)
  simp only [WorkerApp.routed, submission, requestOf, route]
  rfl

end Routes

/-! ## Documents that routes return -/

section Documents

open Canonical

/-- What a call returns to a worker is plain. -/
theorem replyBody_plain (reply : Reply) : plain (.obj (WorkerRoutes.replyBody reply)) = true := by
  cases reply with
  | grant grant =>
    apply plain_obj _ ["assignment_id", "lease_token", "lease_version", "lease_expires_at"] rfl
      (by decide)
    rfl
  | rejected assignmentId => exact plain_obj _ ["assignment_id", "status"] rfl (by decide) rfl
  | progress reply =>
    apply plain_obj _ ["assignment_id", "status", "lease_version", "lease_expires_at"] rfl
      (by decide)
    rfl
  | submission reply =>
    apply plain_obj _ ["status", "result_envelope_id", "output_hash", "result_hash"] rfl (by decide)
    rfl
  | _ => rfl

/-- An object read from a canonical text is plain, and so is the empty one in its place. -/
theorem decodeJsonObject_plain (body : Json) (written : plain body = true) :
    plain (.obj (WorkerRoutes.decodeJsonObject (canonicalJsonDumps body))) = true := by
  have reread := plain_ordered body written
  rw [WorkerRoutes.decodeJsonObject, jsonLoads_canonicalJsonDumps body written]
  cases same : ordered body with
  | obj fields => rwa [same] at reread
  | _ => rfl

/-- The document of an assignment is plain if what it stores is. -/
theorem assignmentDocument_plain (assignmentId : String) (row : AssignmentRow)
    (body : plain row.body = true) (constraints : plain row.effectiveConstraints = true) :
    plain (.obj (WorkerRoutes.assignmentDocument assignmentId row)) = true := by
  have bodyFields := decodeJsonObject_plain row.body body
  have constraintFields := decodeJsonObject_plain row.effectiveConstraints constraints
  have backendClass : plain (Json.get _ "backend_class") = true :=
    getOr_plain _ bodyFields "backend_class" .null rfl
  apply plain_obj _ ["assignment_id", "attempt_id", "work_unit_id", "worker_id", "status",
    "body_json", "created_at", "capacity_node_id", "backend_id", "lease_token_hash",
    "lease_token_prefix", "lease_version", "effective_constraints_json", "assigned_at",
    "lease_expires_at", "accepted_at", "completed_at", "updated_at", "body",
    "effective_constraints", "backend_class"] rfl (by decide)
  simp only [WorkerRoutes.assignmentDocument, plainFields, plain_str, plain_optional, bodyFields,
    constraintFields, backendClass]
  rfl

/-- A member of a plain object by key is the member itself, by key. -/
theorem get_orderedMembers {fields : JsonObject} (written : plain (.obj fields) = true)
    (key : String) : Json.get (orderedMembers fields) key = ordered (Json.get fields key) :=
  get_ordered fields (plain_distinct written) key

/-- A member that a plain object has is there by key. -/
theorem item_orderedMembers {fields : JsonObject} (written : plain (.obj fields) = true)
    {key : String} {value : Json} (here : Json.item fields key = .ok value) :
    Json.item (orderedMembers fields) key = .ok (ordered value) :=
  item_ordered written here

/-- The answer to a poll that finds an assignment holds its document. -/
theorem nextAssignment_reads {workerId assignmentId : String} {tables : ResultsPlane}
    {row : AssignmentRow}
    (waits : Scheduler.waitingAssignment workerId tables.db = some (assignmentId, row))
    (body : plain row.body = true) (constraints : plain row.effectiveConstraints = true) :
    plain (.obj (WorkerApp.nextAssignment workerId tables)) = true ∧
      Json.get (orderedMembers (WorkerApp.nextAssignment workerId tables)) "assignment" =
        .obj (orderedMembers (WorkerRoutes.assignmentDocument assignmentId row)) := by
  have document := assignmentDocument_plain assignmentId row body constraints
  have written : plain (.obj (WorkerApp.nextAssignment workerId tables)) = true := by
    apply plain_obj _ ["status", "assignment"] rfl (by decide)
    simp [WorkerApp.nextAssignment, plainFields, waits, document]
  have assigned : Json.get (WorkerApp.nextAssignment workerId tables) "assignment" =
      .obj (WorkerRoutes.assignmentDocument assignmentId row) := by
    rw [WorkerApp.nextAssignment, waits]
    rfl
  refine ⟨written, ?_⟩
  rw [get_orderedMembers written, assigned, ordered_obj]
  rfl

end Documents

/-! ## Programs whose requests are served -/

section Yielding

variable {α β : Type}

/-- Between some states of the app, a program returns a value. It leaves the spool as it is, and
neither the log nor the requests so far matter to it. -/
def Yields (before after : ResultsPlane × Nat) (program : WorkerProgram (ResultsPlane × Nat) α)
    (value : α) : Prop :=
  ∀ state : State, state.plane = before →
    ∃ next, program state = .ok value next ∧ next.plane = after ∧ next.spool = state.spool

namespace Yields

variable {before between after : ResultsPlane × Nat}
  {program : WorkerProgram (ResultsPlane × Nat) α} {value : α}

/-- A sequence yields what its second program yields. -/
theorem bind {rest : α → WorkerProgram (ResultsPlane × Nat) β} {result : β}
    (first : Yields before between program value)
    (second : Yields between after (rest value) result) :
    Yields before after (program >>= rest) result := by
  intro state here
  obtain ⟨next, returned, there, kept⟩ := first state here
  obtain ⟨last, rested, left, keptLater⟩ := second next there
  exact ⟨last, (bind_ok returned rest).trans rested, left, keptLater.trans kept⟩

/-- A value is yielded where it is. -/
theorem pure (value : α) :
    Yields before before (Pure.pure value : WorkerProgram (ResultsPlane × Nat) α) value :=
  fun state here => ⟨state, rfl, here, rfl⟩

/-- A value that is returned is yielded where it is. -/
theorem lift {result : Except Raised α} (returned : result = .ok value) :
    Yields before before (WorkerDaemon.lift result) value :=
  fun state here => ⟨state, (lift_ok_iff _ _ _ _).mpr ⟨returned, rfl⟩, here, rfl⟩

/-- A message is logged where it is. -/
theorem log (message : String) : Yields before before (WorkerDaemon.log message) () :=
  fun state here => ⟨_, log_ok message state, here, rfl⟩

/-- A change of what is neither the app nor the spool is made where it is. -/
theorem modify {change : State → State}
    (same : ∀ state, (change state).plane = state.plane ∧ (change state).spool = state.spool) :
    Yields before before (modify change : WorkerProgram (ResultsPlane × Nat) Unit) () :=
  fun state here => ⟨change state, rfl, (same state).1.trans here, (same state).2⟩

/-- A value may be discarded. -/
theorem discard (yielded : Yields before after program value) :
    Yields before after (discard program) () := by
  intro state here
  obtain ⟨next, returned, rest⟩ := yielded state here
  exact ⟨next, discard_ok returned, rest⟩

end Yields

end Yielding

section Serving

variable (app : WorkerApp) (passages : Nat → Passage)

/-- The state of the app when it has served a route. -/
def served (plane : ResultsPlane × Nat) (route : WorkerRoute) (payload : JsonObject) :
    ResultsPlane × Nat :=
  ((app.serve (passages plane.2) route payload (met passages plane)).2, plane.2 + 1)

/-- The document that a route returns, on the tables that others have left. -/
def Serves (plane : ResultsPlane × Nat) (route : WorkerRoute) (payload body : JsonObject) : Prop :=
  (app.serve (passages plane.2) route payload (met passages plane)).1 = .ok body

variable (plane : ResultsPlane × Nat) (request : ControlPlaneRequest)

/-- A delivered request yields the value of its answer. -/
theorem handled_yields {value : Json} (delivered : (passages plane.2).delivery = .answered)
    (given : answered (.ok (app.handle (passages plane.2) request (met passages plane)).1) =
      .ok value) :
    Yields plane ((app.handle (passages plane.2) request (met passages plane)).2, plane.2 + 1)
      (send (app.server passages) request) value := by
  rintro state rfl
  have responded : (app.server passages).respond state.plane request =
      (.ok (app.handle (passages state.plane.2) request (met passages state.plane)).1,
        ((app.handle (passages state.plane.2) request (met passages state.plane)).2,
          state.plane.2 + 1)) := by
    simp only [WorkerApp.server, delivered]
    rfl
  refine ⟨_, send_ok _ _ _ _ (by rw [responded]; exact given), ?_, rfl⟩
  rw [afterRequest, responded]

/-- A delivered request for no route yields the value it is answered with elsewhere. -/
theorem elsewhere_yields {value : Json} (delivered : (passages plane.2).delivery = .answered)
    (unrouted : WorkerApp.routed request = none)
    (given : answered (.ok (app.elsewhere request).1) = .ok value) :
    Yields plane ((app.elsewhere request).2.change (met passages plane), plane.2 + 1)
      (send (app.server passages) request) value := by
  have handled : app.handle (passages plane.2) request (met passages plane) =
      ((app.elsewhere request).1, (app.elsewhere request).2.change (met passages plane)) := by
    rw [WorkerApp.handle, unrouted]
  have carried : answered (.ok (app.handle (passages plane.2) request
      (met passages plane)).1) = .ok value := by rw [handled, given]
  have yields := handled_yields app passages plane request delivered carried
  rwa [handled] at yields

/-- An answer with a plain object carries the object by key. -/
theorem answered_response {body : JsonObject} (plain : Canonical.plain (.obj body) = true) :
    answered (.ok (WorkerApp.response 200 (.obj body))) = .ok (.obj (orderedMembers body)) := by
  simp only [answered, WorkerApp.response, Canonical.jsonLoads_canonicalJsonDumps _ plain]
  rw [Canonical.ordered_obj]
  rfl

variable {app passages plane request}

/-- A delivered request for a route that returns a plain document yields the document by key. -/
theorem Serves.yields {route : WorkerRoute} {payload body : JsonObject}
    (serves : Serves app passages plane route payload body)
    (delivered : (passages plane.2).delivery = .answered)
    (routed : WorkerApp.routed request = some (route, payload))
    (permitted : Security.requireTokenKind request.authorization .worker = .ok ())
    (plain : Canonical.plain (.obj body) = true) :
    Yields plane (served app passages plane route payload) (send (app.server passages) request)
      (.obj (orderedMembers body)) := by
  have handled : app.handle (passages plane.2) request (met passages plane) =
      (WorkerApp.response 200 (.obj body), (served app passages plane route payload).1) := by
    rw [WorkerApp.handle, routed]
    simp only [permitted]
    rw [show (app.serve _ _ _ _).1 = .ok body from serves]
    rfl
  have carried : answered (.ok (app.handle (passages plane.2) request
      (met passages plane)).1) = .ok (.obj (orderedMembers body)) := by
    rw [handled, answered_response plain]
  have yields := handled_yields app passages plane request delivered carried
  rwa [handled] at yields

/-- A heartbeat that is recorded is answered with the worker's id. -/
theorem workerHeartbeat_ok {passage : Passage} {workerId : String} {tables : ResultsPlane}
    (recorded : (WorkerApp.workerHeartbeat passage workerId tables).1.isOk = true) :
    (WorkerApp.workerHeartbeat passage workerId tables).1 =
      .ok [("status", .str "ok"), ("worker_id", .str workerId)] := by
  simp only [WorkerApp.workerHeartbeat] at recorded ⊢
  generalize (Store.Client.run _ tables).1 = outcome at recorded ⊢
  cases outcome with
  | error error => cases recorded
  | ok _ => rfl

/-- A call of the scheduler returns what the scheduler returns, if that is not a submission. -/
theorem call_replied {passage : Passage} {tables : ResultsPlane} (op : SchedulerOp) (reply : Reply)
    (called : (Scheduler.runAlone app.platform.scheduler op tables.db).1 = .ok reply)
    (unsubmitted : ∀ submission, reply ≠ .submission submission) :
    (app.call passage op tables).1 = .ok (WorkerRoutes.replyBody reply) := by
  rw [WorkerApp.call, called]
  cases reply with
  | submission submission => exact absurd rfl (unsubmitted submission)
  | _ => rfl

/-- A submission returns what the scheduler returns, if it is of a task that is not finalized. -/
theorem call_unfinalized {passage : Passage} {op : SchedulerOp} {tables : ResultsPlane}
    {reply : Scheduler.SubmissionReply}
    (called : (Scheduler.runAlone app.platform.scheduler op tables.db).1 =
      .ok (.submission reply))
    (unsupported : ∀ key row, tables.host.workUnitDetails.find? key = some row →
      Host.supportedTask row.body = none) :
    (app.call passage op tables).1 = .ok (WorkerRoutes.replyBody (.submission reply)) := by
  let left := ResultsPlane.dbPart.replace tables
    (Scheduler.runAlone app.platform.scheduler op tables.db).2
  have skipped := Host.finalizeUrlCheckResult_skipped app.platform passage.finalizing
    reply.resultEnvelopeId left (Host.contextOf_unsupported app.platform left unsupported)
  rw [WorkerApp.call, called]
  simp only
  rw [skipped]
  simp [Except.map, WorkerRoutes.finalizedBody]

end Serving

end WorkerRounds

end TokenBank
