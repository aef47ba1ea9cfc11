import TokenBank.App.ControlPlane
import TokenBank.Core.Collections
import TokenBank.Host.Results
import TokenBank.Worker.Client

/-!
# The app's routes for workers

A worker sends its heartbeats, asks for assignments, accepts, rejects and progresses them and
submits their results, each with its token. An exception that a route expects is answered with a
conflict, and any other one with an internal error. A stored result is finalized before it is
answered, and stays stored when that raises.

Registrations, requests with members of other kinds than a worker sends, and ids with characters
that have a meaning in a URL are left to a parameter.
-/

namespace TokenBank

/-- What a request is refused with. -/
structure HttpError where
  statusCode : Nat
  detail : Json

namespace Security

/-- The kinds of tokens. -/
inductive TokenKind : Type
  | host
  | worker
  | internal
deriving DecidableEq

/-- What the tokens of a kind start with. -/
def tokenPrefixes : TokenKind → String
  | .host => "tbk_h_"
  | .worker => "tbk_w_"
  | .internal => "tbk_i_"

/-- The token of an authorization: what follows the first blank, behind the scheme. -/
def extractBearerToken (authorization : String) : Except HttpError String :=
  let scheme := authorization.toList.takeWhile (· ≠ ' ')
  let token := (authorization.toList.dropWhile (· ≠ ' ')).tail
  if scheme.flatMap Redaction.lowerCharacter ≠ "bearer".toList ∨ token = [] then
    .error ⟨401, .obj [("error", .str "missing_bearer_token")]⟩
  else .ok (String.ofList token)

/-- Refuse a request without a token of a kind. -/
def requireTokenKind (authorization : String) (tokenKind : TokenKind) : Except HttpError Unit := do
  let token ← extractBearerToken authorization
  if (tokenPrefixes tokenKind).toList.isPrefixOf token.toList then return ()
  else .error ⟨403, .obj [("error", .str "wrong_token_kind")]⟩

end Security

/-! ## Routes -/

/-- The routes for workers. -/
inductive WorkerRoute : Type
  | heartbeat (workerId : String)
  | nextAssignment (workerId : String)
  | accept (assignmentId : String)
  | reject (assignmentId : String)
  | progress (assignmentId : String)
  | result (assignmentId : String)
deriving DecidableEq

namespace WorkerRoutes

/-- An id that is one segment of a path as it stands. -/
def plainSegment (segment : String) : Bool :=
  segment ≠ "" && segment ≠ "." && segment ≠ ".." &&
    segment.toList.all (fun character =>
      ' ' ≤ character && character ≠ '\x7f' && !"/?#%".toList.contains character)

/-- The segments of a path. -/
def segments (path : String) : List String := (path.toList.splitOn '/').map String.ofList

/-- The route of a method and a path. -/
def routeOf (method path : String) : Option WorkerRoute :=
  match segments path with
  | [root, version, family, id, action] =>
    if root = "" ∧ version = "v0" ∧ method = "POST" ∧ plainSegment id = true then
      if family = "workers" ∧ action = "heartbeat" then some (.heartbeat id)
      else if family = "assignments" ∧ action = "accept" then some (.accept id)
      else if family = "assignments" ∧ action = "reject" then some (.reject id)
      else if family = "assignments" ∧ action = "progress" then some (.progress id)
      else if family = "assignments" ∧ action = "result" then some (.result id)
      else none
    else none
  | [root, version, family, id, inner, action] =>
    if root = "" ∧ version = "v0" ∧ method = "GET" ∧ plainSegment id = true ∧
        family = "workers" ∧ inner = "assignments" ∧ action = "next" then some (.nextAssignment id)
    else none
  | _ => none

/-- The exceptions that a route answers with a conflict. -/
def conflict : WorkerRoute → Raised → Bool
  | .accept _, .leaseConflictError _ | .progress _, .leaseConflictError _ => true
  | .result _, .valueError _ | .result _, .validationError => true
  | .heartbeat _, _ | .nextAssignment _, _ => false
  | _, .keyError _ | _, .permissionError _ => true
  | _, _ => false

/-! ## Calls -/

section Calls

variable (runtime : PythonRuntime) (draws : Draws)

/-- A member is a text, or is not there. -/
def textOrAbsent (payload : JsonObject) (key : String) : Bool :=
  match Json.get payload key with
  | .str _ | .null => true
  | _ => false

/-- A member is an object, or is not there. -/
def objectOrAbsent (payload : JsonObject) (key : String) : Bool :=
  match Json.get payload key with
  | .obj _ | .null => true
  | _ => false

/-- The members of a payload are of the kinds that a worker sends. -/
def wellShaped (payload : JsonObject) : Bool :=
  textOrAbsent payload "worker_id" && textOrAbsent payload "lease_token_hash" &&
    objectOrAbsent payload "output" && objectOrAbsent payload "result_envelope"

/-- The text under a key of a payload that must have it. A value of another kind is no text. -/
def requiredText (payload : JsonObject) (key : String) : Except Raised String := do
  match ← Json.item payload key with
  | .str text => return text
  | .null => throw (.permissionError ("no " ++ key))
  | _ => throw .attributeError

/-- A token that may be missing. -/
def optionalToken (payload : JsonObject) : Except Raised (Option String) :=
  match Json.get payload "lease_token" with
  | .str token => .ok (some token)
  | .null => .ok none
  | _ => .error .attributeError

/-- The envelope argument of a submission. -/
def envelopeArgument (payload : JsonObject) : Scheduler.EnvelopeArgument :=
  match Json.get payload "result_envelope" with
  | .obj fields => .document fields
  | _ => .absent

/-- The output of a submission. -/
def outputOf (payload : JsonObject) : JsonObject :=
  match Json.get payload "output" with
  | .obj fields => fields
  | _ => []

/-- The call of the scheduler that a route makes with a payload. -/
def schedulerOp (payload : JsonObject) : WorkerRoute → Except Raised (Option SchedulerOp)
  | .accept assignmentId => do
    let workerId ← requiredText payload "worker_id"
    let expectedLeaseVersion ← runtime.int (Json.getOr payload "expected_lease_version" (.int 0))
    return some (.acceptAssignment draws assignmentId workerId expectedLeaseVersion
      Lease.defaultLeaseDurationMs)
  | .reject assignmentId => do
    let workerId ← requiredText payload "worker_id"
    return some (.rejectAssignment draws assignmentId workerId)
  | .progress assignmentId => do
    let workerId ← requiredText payload "worker_id"
    let leaseToken ← requiredText payload "lease_token"
    let expectedLeaseVersion ← Json.item payload "expected_lease_version" >>= runtime.int
    return some (.progressAssignment draws assignmentId workerId leaseToken expectedLeaseVersion
      Lease.defaultLeaseDurationMs)
  | .result assignmentId => do
    let workerId ← requiredText payload "worker_id"
    let leaseToken ← optionalToken payload
    return some (.submitResult draws {
      assignmentId, workerId, leaseToken
      leaseTokenHash := (Json.get payload "lease_token_hash").textual
      output := outputOf payload
      resultEnvelope := envelopeArgument payload })
  | .heartbeat _ | .nextAssignment _ => .ok none

end Calls

/-! ## Answers -/

/-- What a call of the scheduler returns to a worker. -/
def replyBody : Reply → JsonObject
  | .grant grant =>
    [("assignment_id", .str grant.assignmentId), ("lease_token", .str grant.leaseToken),
      ("lease_version", .int grant.leaseVersion), ("lease_expires_at", .str grant.leaseExpiresAt)]
  | .rejected assignmentId => [("assignment_id", .str assignmentId), ("status", .str "rejected")]
  | .progress reply =>
    [("assignment_id", .str reply.assignmentId), ("status", .str "running"),
      ("lease_version", .int reply.leaseVersion), ("lease_expires_at", .str reply.leaseExpiresAt)]
  | .submission reply =>
    [("status", .str reply.status.text), ("result_envelope_id", .str reply.resultEnvelopeId),
      ("output_hash", .str reply.outputHash), ("result_hash", .str reply.resultHash)]
  | _ => []

/-- What a finalized result is answered with besides. -/
def finalizedBody : Option (VerifierReport × HostResultSummary) → JsonObject
  | some (report, summary) =>
    [("verifier_report", .obj report.modelDump), ("host_result_summary", .obj summary.modelDump)]
  | none => []

/-- The object that a stored text holds. -/
def decodeJsonObject (text : String) : JsonObject :=
  match Canonical.jsonLoads text with
  | some (.obj fields) => fields
  | _ => []

/-- The document of an assignment: its columns, and what two of them hold. -/
def assignmentDocument (assignmentId : String) (row : AssignmentRow) : JsonObject :=
  let bodyJson := Canonical.canonicalJsonDumps row.body
  let effectiveConstraintsJson := Canonical.canonicalJsonDumps row.effectiveConstraints
  [("assignment_id", .str assignmentId), ("attempt_id", .str row.attemptId),
    ("work_unit_id", .str row.workUnitId), ("worker_id", .str row.workerId),
    ("status", .str row.status.text), ("body_json", .str bodyJson),
    ("created_at", .str row.createdAt), ("capacity_node_id", .optional row.capacityNodeId),
    ("backend_id", .optional row.backendId), ("lease_token_hash", .optional row.leaseTokenHash),
    ("lease_token_prefix", .optional row.leaseTokenPrefix), ("lease_version", .int row.leaseVersion),
    ("effective_constraints_json", .str effectiveConstraintsJson),
    ("assigned_at", .optional row.assignedAt), ("lease_expires_at", .optional row.leaseExpiresAt),
    ("accepted_at", .optional row.acceptedAt), ("completed_at", .optional row.completedAt),
    ("updated_at", .optional row.updatedAt), ("body", .obj (decodeJsonObject bodyJson)),
    ("effective_constraints", .obj (decodeJsonObject effectiveConstraintsJson)),
    ("backend_class", Json.get (decodeJsonObject bodyJson) "backend_class")]

end WorkerRoutes

/-! ## The app and the network -/

/-- References between the scheduler's rows go on to resolve, results stay as they are, and an
assignment that was taken up once does not wait again. -/
structure Onward (before after : Db) : Prop where
  wellFormed : WellFormed after
  results : ∀ key row, before.resultEnvelopes.find? key = some row →
    after.resultEnvelopes.find? key = some row
  assignments : ∀ key row, before.assignments.find? key = some row → row.status ≠ .created →
    ∃ later, after.assignments.find? key = some later ∧ later.status ≠ .created

/-- A call of someone else, which leaves the tables of the scheduler further on. -/
structure OtherCall where
  change : ResultsPlane → ResultsPlane
  onward : ∀ plane : ResultsPlane, WellFormed plane.db → Onward plane.db (change plane).db

/-- The app as workers see it: its libraries, the texts of exceptions, and the requests that are
left to others. -/
structure WorkerApp where
  platform : ResultsPlatform
  runtime : PythonRuntime
  message : Raised → String
  elsewhere : ControlPlaneRequest → ControlPlaneResponse × OtherCall

/-- Whether a request arrives, and its answer comes back. -/
inductive Delivery : Type
  | answered
  | unanswered
  | undelivered
deriving DecidableEq

/-- What happens to a request: the calls of others before it, what is drawn for it and for the
finalization of a result, and its delivery. -/
structure Passage where
  others : List OtherCall
  draws : Draws
  finalizing : Draws
  delivery : Delivery

namespace WorkerApp

variable (app : WorkerApp) (passage : Passage)

/-- An answer with a value. -/
def response (statusCode : Nat) (value : Json) : ControlPlaneResponse :=
  ⟨statusCode, Canonical.canonicalJsonDumps value⟩

/-- The answer to a request that is refused. -/
def refused (error : HttpError) : ControlPlaneResponse :=
  response error.statusCode (.obj [("detail", error.detail)])

/-- The answer of a route. -/
def answer (route : WorkerRoute) : Except Raised JsonObject → ControlPlaneResponse
  | .ok body => response 200 (.obj body)
  | .error error =>
    if WorkerRoutes.conflict route error then
      refused ⟨409, .obj [("error", .str (app.message error))]⟩
    else ⟨500, "Internal Server Error"⟩

/-- Call the scheduler, and finalize a result that it stored. -/
def call (op : SchedulerOp) (plane : ResultsPlane) : Except Raised JsonObject × ResultsPlane :=
  let called := Scheduler.runAlone app.platform.scheduler op plane.db
  let left := ResultsPlane.dbPart.replace plane called.2
  match called.1 with
  | .error error => (.error error, left)
  | .ok (.submission reply) =>
    let finalized := (Host.finalizeUrlCheckResult app.platform passage.finalizing
      reply.resultEnvelopeId).run left
    (finalized.1.map (fun outcome =>
      WorkerRoutes.replyBody (.submission reply) ++ WorkerRoutes.finalizedBody outcome),
      finalized.2)
  | .ok reply => (.ok (WorkerRoutes.replyBody reply), left)

/-- Record a heartbeat. -/
def workerHeartbeat (workerId : String) (plane : ResultsPlane) :
    Except Raised JsonObject × ResultsPlane :=
  let recorded := (((ControlPlane.recordWorkerHeartbeat passage.draws workerId "healthy").on
    HostPlane.controlPart.read HostPlane.controlPart.replace).on ResultsPlane.hostPart.read
      ResultsPlane.hostPart.replace).run plane
  (recorded.1.map (fun _ => [("status", .str "ok"), ("worker_id", .str workerId)]), recorded.2)

/-- Look for an assignment that waits for a worker. -/
def nextAssignment (workerId : String) (plane : ResultsPlane) : JsonObject :=
  [("status", .str "ok"), ("assignment",
    match Scheduler.waitingAssignment workerId plane.db with
    | some (assignmentId, row) => .obj (WorkerRoutes.assignmentDocument assignmentId row)
    | none => .null)]

/-- Serve a route with a payload. -/
def serve (route : WorkerRoute) (payload : JsonObject) (plane : ResultsPlane) :
    Except Raised JsonObject × ResultsPlane :=
  match route with
  | .heartbeat workerId => workerHeartbeat passage workerId plane
  | .nextAssignment workerId => (.ok (nextAssignment workerId plane), plane)
  | route =>
    match WorkerRoutes.schedulerOp app.runtime passage.draws payload route with
    | .ok (some op) => app.call passage op plane
    | .ok none => (.ok [], plane)
    | .error error => (.error error, plane)

/-- The route of a request and its payload, unless the request is left to others. -/
def routed (request : ControlPlaneRequest) : Option (WorkerRoute × JsonObject) :=
  match WorkerRoutes.routeOf request.method request.path, request.json with
  | some (.heartbeat workerId), none => some (.heartbeat workerId, [])
  | some (.nextAssignment workerId), none => some (.nextAssignment workerId, [])
  | some route, some (.obj payload) =>
    if WorkerRoutes.wellShaped payload then some (route, payload) else none
  | _, _ => none

/-- Handle a request. -/
def handle (request : ControlPlaneRequest) (plane : ResultsPlane) :
    ControlPlaneResponse × ResultsPlane :=
  match routed request with
  | none => ((app.elsewhere request).1, (app.elsewhere request).2.change plane)
  | some (route, payload) =>
    match Security.requireTokenKind request.authorization .worker with
    | .error error => (refused error, plane)
    | .ok () =>
      let served := app.serve passage route payload plane
      (app.answer route served.1, served.2)

/-- The tables after the calls of others. -/
def afterOthers (others : List OtherCall) (plane : ResultsPlane) : ResultsPlane :=
  others.foldl (fun plane call => call.change plane) plane

/-- The app behind a network. It has its tables and the number of requests so far, and each request
meets its own passage. -/
def server (passages : Nat → Passage) : ControlPlaneServer (ResultsPlane × Nat) where
  respond := fun (plane, number) request =>
    let passage := passages number
    let met := afterOthers passage.others plane
    let handled := app.handle passage request met
    match passage.delivery with
    | .answered => (.ok handled.1, (handled.2, number + 1))
    | .unanswered => (.error (.transportError "no answer"), (handled.2, number + 1))
    | .undelivered => (.error (.transportError "not delivered"), (met, number + 1))

end WorkerApp

end TokenBank
