import TokenBank.Models.ResultEnvelope
import TokenBank.Worker.Client
import TokenBank.Worker.Spool

/-!
# The worker

In each round a worker registers unless it has, submits the completed results that are waiting
in its spool, sends a heartbeat and polls for an assignment. It accepts the assignment, executes
it, reports progress and submits the result, which goes to the spool if it is refused. The
execution itself is a parameter here.
-/

namespace TokenBank

/-- The configuration of a worker. -/
structure WorkerConfig where
  workerId : String
  workerToken : String
  capabilities : List String := ["url_check"]
  backendIds : List String := ["backend:url_check:v0"]
  backendClasses : List String := ["local_tool"]
  allowedTaskTypes : List String := ["url_check"]
  allowedDataLabels : List String := ["public_url"]
  allowedPrivacyLevels : List String := ["private"]

namespace WorkerConfig

/-- A list of texts. -/
def texts (values : List String) : Json := .arr (values.map .str)

/-- What a worker registers with. -/
def manifestPayload (config : WorkerConfig) : Json :=
  .obj [("worker_id", .str config.workerId), ("identity", .str config.workerId),
    ("capabilities", texts config.capabilities),
    ("allowed_task_types", texts config.allowedTaskTypes),
    ("allowed_data_labels", texts config.allowedDataLabels),
    ("allowed_privacy_levels", texts config.allowedPrivacyLevels),
    ("execution_location", .str "windows_worker"), ("trust_level", .str "trusted_private"),
    ("backend_ids", texts config.backendIds), ("backend_classes", texts config.backendClasses),
    ("health_status", .str "healthy")]

end WorkerConfig

/-- What a worker works with: the runtime, the hash of a lease token, and the execution of an
assignment. -/
structure WorkerPlatform where
  runtime : PythonRuntime
  leaseTokenHash : String → String
  executeEnvelope : JsonObject → Except Raised WorkUnitResultEnvelope

namespace WorkerDaemon

open ControlPlaneClient

variable {σ : Type} (plane : ControlPlaneServer σ) (config : WorkerConfig)

/-- A result as it is raised or returned. -/
def lift {α : Type} : Except Raised α → WorkerProgram σ α
  | .ok value => pure value
  | .error error => throw (.raised error)

/-- Write a message to the log. -/
def log (message : String) : WorkerProgram σ Unit := do
  let state ← get
  let written ← lift (WorkerLog.write state.log message.toList)
  set { state with log := written }

/-- Register. -/
def register : WorkerProgram σ Unit := do
  discard (send plane (registration config.workerToken config.manifestPayload))
  modify (fun state => { state with registered := true })
  log ("worker registered: " ++ config.workerId)

/-- Send a heartbeat. -/
def heartbeatOnce : WorkerProgram σ Unit := do
  discard (send plane (heartbeat config.workerToken config.workerId))
  log ("worker heartbeat: " ++ config.workerId)

/-- The submission of a spooled result. -/
def spooledSubmission (entry : CompletedSpoolEntry) : ControlPlaneRequest :=
  submission config.workerToken entry.assignmentId entry.workerId entry.output .null
    (some entry.leaseTokenHash)

/-- Submit spooled results one after the other, and remove the file of each. -/
def replayEntries : List (String × CompletedSpoolEntry) → Nat → WorkerProgram σ Nat
  | [], submitted => pure submitted
  | (path, entry) :: rest, submitted => do
    discard (send plane (spooledSubmission config entry))
    modify (fun state => { state with spool := ResultSpool.remove state.spool path })
    log ("spooled result submitted: " ++ entry.assignmentId)
    replayEntries rest (submitted + 1)

/-- Submit the completed results of the spool. -/
def replayCompletedSpool : WorkerProgram σ Nat := do
  let state ← get
  let entries ← lift (ResultSpool.completedEntries state.spool)
  replayEntries plane config entries 0

/-- Poll for an assignment, which must be for this worker. -/
def pollAssignment : WorkerProgram σ (Option JsonObject) := do
  let response ← send plane (poll config.workerToken config.workerId)
  let members ← lift response.asked
  match Json.get members "assignment" with
  | .null => return none
  | assignment =>
    let fields ← lift assignment.asked
    if Json.same (Json.get fields "worker_id") (.str config.workerId) then return some fields
    else throw (.permissionError "worker received assignment for a different worker_id")

section Rounds

variable (platform : WorkerPlatform)

/-- Put a result into the spool. -/
def spoolResult (assignmentId : String) (leaseToken : Json) (output : JsonObject) :
    WorkerProgram σ Unit :=
  match leaseToken with
  | .str token => modify (fun state =>
      { state with
        spool := ResultSpool.writeCompleted platform.leaseTokenHash state.spool assignmentId
          config.workerId token output })
  | _ => throw (.raised .attributeError)

/-- Put a refused result into the spool, and raise. -/
def spoolRefused (assignmentId : String) (leaseToken : Json) (output : JsonObject)
    (text : String) : WorkerProgram σ Json := do
  spoolResult config platform assignmentId leaseToken output
  log ("result submit failed; completed output spooled: " ++ assignmentId)
  throw (.controlPlaneRequestError text)

/-- Submit a result, and put it into the spool if it is refused. -/
def submitOrSpool (assignmentId : String) (leaseToken : Json)
    (envelope : WorkUnitResultEnvelope) : WorkerProgram σ Json := fun state =>
  match send plane (submission config.workerToken assignmentId config.workerId envelope.output
    leaseToken none (some envelope.modelDump)) state with
  | .error (.controlPlaneRequestError text) after =>
    spoolRefused config platform assignmentId leaseToken envelope.output text after
  | result => result

/-- Handle an assignment. -/
def handleAssignment (assignment : JsonObject) : WorkerProgram σ Json := do
  let assignmentId := platform.runtime.str (← lift (Json.item assignment "assignment_id"))
  let accepted ← send plane (acceptance config.workerToken assignmentId config.workerId)
  let envelope ← lift (platform.executeEnvelope assignment)
  let leaseToken ← lift (accepted.subscripted "lease_token")
  let leaseVersion ← lift (accepted.subscripted "lease_version" >>= platform.runtime.int)
  let progressed ← send plane
    (progress config.workerToken assignmentId config.workerId leaseToken leaseVersion)
  let result ← submitOrSpool plane config platform assignmentId leaseToken envelope
  let newVersion ← lift (progressed.subscripted "lease_version")
  log ("assignment completed: " ++ assignmentId ++ " lease_version=" ++
    platform.runtime.str newVersion)
  return result

/-- What a round ends with: the assignment, if there is one. -/
def afterPoll (spooledCount : Nat) : Option JsonObject → WorkerProgram σ Json
  | none =>
    return .obj [("status", .str "idle"), ("worker_id", .str config.workerId),
      ("spooled_submitted", .nat spooledCount)]
  | some assignment => do
    let result ← handleAssignment plane config platform assignment
    return .obj [("status", .str "completed"), ("worker_id", .str config.workerId),
      ("assignment_id", Json.get assignment "assignment_id"), ("result", result),
      ("spooled_submitted", .nat spooledCount)]

/-- What a round goes on with when the spool has been replayed: a heartbeat, a poll, and the
assignment. -/
def afterReplay (spooledCount : Nat) : WorkerProgram σ Json := do
  heartbeatOnce plane config
  let assignment ← pollAssignment plane config
  afterPoll plane config platform spooledCount assignment

/-- Register unless that has been done. -/
def ensureRegistered : WorkerProgram σ Unit := do
  if !(← get).registered then register plane config

/-- One round of a worker. -/
def runOnce : WorkerProgram σ Json := do
  ensureRegistered plane config
  let spooledCount ← replayCompletedSpool plane config
  afterReplay plane config platform spooledCount

end Rounds

end WorkerDaemon

end TokenBank
