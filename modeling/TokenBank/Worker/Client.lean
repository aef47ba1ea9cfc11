import TokenBank.Core.Loads
import TokenBank.Core.Runtime
import TokenBank.Store.Table
import TokenBank.Worker.Logs

/-!
# The control plane as a worker sees it

A worker sends requests to its control plane, one at a time, and raises an exception when one
is answered with an error. What the control plane answers, and what becomes of it, is a
parameter. A program of the worker changes its files, its log and the control plane step by
step, and what it has done stays done when it raises.
-/

namespace TokenBank

/-- A request to the control plane. -/
structure ControlPlaneRequest where
  method : String
  path : String
  authorization : String
  json : Option Json := none

/-- An answer of the control plane. -/
structure ControlPlaneResponse where
  statusCode : Nat
  text : String

/-- The exceptions of a worker. -/
inductive WorkerRaised : Type
  | controlPlaneRequestError (text : String)
  | transportError (message : String)
  | permissionError (message : String)
  | raised (error : Raised)

/-- A control plane: what it answers in each of its states, unless nothing comes back, and the
state after it. -/
structure ControlPlaneServer (σ : Type) where
  respond : σ → ControlPlaneRequest → Except WorkerRaised ControlPlaneResponse × σ

/-- What a worker and its control plane are at some moment: the files of the spool by their
names, the log, and the requests sent so far. -/
structure WorkerState (σ : Type) where
  plane : σ
  spool : Store.Table String String
  log : List Char := []
  registered : Bool := false
  sent : List ControlPlaneRequest := []

/-- A program of a worker. -/
abbrev WorkerProgram (σ α : Type) := EStateM WorkerRaised (WorkerState σ) α

namespace WorkerProgram

variable {σ α β : Type} {program : WorkerProgram σ α} {state next : WorkerState σ}

/-- The state that a program leaves, whether it returns or raises. -/
def stateAfter : EStateM.Result WorkerRaised (WorkerState σ) α → WorkerState σ
  | .ok _ state => state
  | .error _ state => state

/-- A program that returns is followed by the rest. -/
theorem bind_ok {value : α} (returned : program state = .ok value next)
    (rest : α → WorkerProgram σ β) : (program >>= rest) state = rest value next := by
  simp only [bind, EStateM.bind, returned]

/-- A program that raises is not followed by the rest. -/
theorem bind_error {error : WorkerRaised} (failed : program state = .error error next)
    (rest : α → WorkerProgram σ β) : (program >>= rest) state = .error error next := by
  simp only [bind, EStateM.bind, failed]

/-- A program whose value is discarded leaves the state it leaves. -/
theorem discard_ok {value : α} (returned : program state = .ok value next) :
    discard program state = .ok () next := by
  change EStateM.map (fun _ => ()) program state = _
  simp only [EStateM.map, returned]

/-- A program whose value is discarded raises what it raises. -/
theorem discard_error {error : WorkerRaised} (failed : program state = .error error next) :
    (discard program : WorkerProgram σ Unit) state = .error error next := by
  change EStateM.map (fun _ => ()) program state = _
  simp only [EStateM.map, failed]

end WorkerProgram

namespace ControlPlaneClient

variable {σ : Type} (plane : ControlPlaneServer σ) (workerToken : String)

/-- The value that an answer carries, unless it is an error. -/
def answered : Except WorkerRaised ControlPlaneResponse → Except WorkerRaised Json
  | .error error => .error error
  | .ok response =>
    if 400 ≤ response.statusCode then .error (.controlPlaneRequestError response.text)
    else
      match Canonical.jsonLoads response.text with
      | some value => .ok value
      | none => .error (.raised (.valueError response.text))

/-- The state after a request, whatever is answered. -/
def afterRequest (state : WorkerState σ) (request : ControlPlaneRequest) : WorkerState σ :=
  { state with
    plane := (plane.respond state.plane request).2
    sent := state.sent ++ [request] }

/-- Send a request. -/
def send (request : ControlPlaneRequest) : WorkerProgram σ Json := fun state =>
  match answered (plane.respond state.plane request).1 with
  | .ok value => .ok value (afterRequest plane state request)
  | .error error => .error error (afterRequest plane state request)

/-- A request of a worker. -/
def requestOf (method path : String) (json : Option Json := none) : ControlPlaneRequest :=
  ⟨method, path, "Bearer " ++ workerToken, json⟩

/-- The registration of a worker. -/
def registration (payload : Json) : ControlPlaneRequest :=
  requestOf workerToken "POST" "/v0/workers/register" (some payload)

/-- The heartbeat of a worker. -/
def heartbeat (workerId : String) : ControlPlaneRequest :=
  requestOf workerToken "POST" ("/v0/workers/" ++ workerId ++ "/heartbeat")

/-- The poll for an assignment of a worker. -/
def poll (workerId : String) : ControlPlaneRequest :=
  requestOf workerToken "GET" ("/v0/workers/" ++ workerId ++ "/assignments/next")

/-- The acceptance of an assignment. -/
def acceptance (assignmentId workerId : String) : ControlPlaneRequest :=
  requestOf workerToken "POST" ("/v0/assignments/" ++ assignmentId ++ "/accept")
    (some (.obj [("worker_id", .str workerId)]))

/-- The progress of an assignment. -/
def progress (assignmentId workerId : String) (leaseToken : Json) (expectedLeaseVersion : Int) :
    ControlPlaneRequest :=
  requestOf workerToken "POST" ("/v0/assignments/" ++ assignmentId ++ "/progress")
    (some (.obj [("worker_id", .str workerId), ("lease_token", leaseToken),
      ("expected_lease_version", .int expectedLeaseVersion)]))

/-- The submission of a result, with the hash of the lease token or else the token itself. -/
def submission (assignmentId workerId : String) (output : JsonObject) (leaseToken : Json)
    (leaseTokenHash : Option String := none) (resultEnvelope : Option Json := none) :
    ControlPlaneRequest :=
  requestOf workerToken "POST" ("/v0/assignments/" ++ assignmentId ++ "/result")
    (some (.obj ([("worker_id", .str workerId), ("output", .obj output)] ++
      (resultEnvelope.map (fun envelope => ("result_envelope", envelope))).toList ++
      [match leaseTokenHash with
        | some hash => ("lease_token_hash", .str hash)
        | none => ("lease_token", leaseToken)])))

/-- A request is answered without an exception exactly through its value. -/
theorem send_ok (request : ControlPlaneRequest) (state : WorkerState σ) (value : Json)
    (given : answered (plane.respond state.plane request).1 = .ok value) :
    send plane request state = .ok value (afterRequest plane state request) := by
  rw [send, given]

/-- A request that is answered with an exception raises it. -/
theorem send_error (request : ControlPlaneRequest) (state : WorkerState σ) (error : WorkerRaised)
    (given : answered (plane.respond state.plane request).1 = .error error) :
    send plane request state = .error error (afterRequest plane state request) := by
  rw [send, given]

end ControlPlaneClient

end TokenBank
