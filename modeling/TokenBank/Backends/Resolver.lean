import TokenBank.Config.Loaded
import TokenBank.Store.Table
import TokenBank.Store.Transactions

/-!
# Resolving a backend to capacity

A rule names a backend, or a class whose first backend for the task type is meant. A
gateway backend runs on the worker of the control plane, a worker-local one on the worker
the rule names or on the first that has it.
-/

namespace TokenBank

/-- The capacity node of a worker. -/
def capacityNodeId (workerId : String) : String := "capnode:worker:" ++ workerId

namespace Capacity

/-- A backend executes where its class must. -/
def validateBackendExecutionLocation (backend : BackendManifest) : Except Raised Unit := do
  Store.ensure (backend.backendClass.apiGateway = true →
    backend.executionLocation = "mac_control_plane")
    (.valueError "API gateway backends must execute on mac_control_plane")
  Store.ensure (backend.backendClass.workerLocal = true →
    backend.executionLocation ∈ ["local_machine", "windows_worker"])
    (.valueError "worker-local backends must execute on local_machine or windows_worker")

/-- A worker may execute a worker-local backend. -/
def validateWorkerLocalBackend (worker : WorkerManifest) (backend : BackendManifest) :
    Except Raised Unit := do
  validateBackendExecutionLocation backend
  if backend.backendClass.apiGateway then
    Store.ensure (worker.workerId = controlPlaneGatewayWorkerId)
      (.valueError "worker direct API model path is denied")
  else
    Store.ensure (backend.backendClass.workerLocal = true)
      (.valueError ("unsupported worker-local backend_class: " ++ backend.backendClass.text))
    Store.ensure (backend.backendId ∈ worker.backendIds)
      (.valueError ("worker " ++ worker.workerId ++ " does not allow backend_id " ++
        backend.backendId))
    Store.ensure (backend.backendClass ∈ worker.backendClasses)
      (.valueError ("worker manifest does not allow backend_class " ++ backend.backendClass.text))

/-- A worker may execute a gateway backend. -/
def validateGatewayWorker (worker : WorkerManifest) (backend : BackendManifest) :
    Except Raised Unit := do
  validateBackendExecutionLocation backend
  Store.ensure (worker.workerId = controlPlaneGatewayWorkerId)
    (.valueError "API model gateway must resolve to wrk_control_plane_gateway")
  Store.ensure (backend.backendId ∈ worker.backendIds)
    (.valueError ("control-plane gateway worker manifest is missing backend_id " ++
      backend.backendId))
  Store.ensure (backend.backendClass ∈ worker.backendClasses)
    (.valueError ("control-plane gateway worker manifest is missing backend_class " ++
      backend.backendClass.text))

end Capacity

/-- The manifests of all backends. -/
structure BackendRegistry where
  manifests : List BackendManifest

namespace BackendRegistry

/-- The first backend with an id. -/
def find? (registry : BackendRegistry) (backendId : String) : Option BackendManifest :=
  registry.manifests.find? (fun manifest => manifest.backendId = backendId)

/-- The first backend with an id, or an exception. -/
def get (registry : BackendRegistry) (backendId : String) : Except Raised BackendManifest :=
  match registry.find? backendId with
  | some manifest => .ok manifest
  | none => .error (.keyError ("unknown backend_id: " ++ backendId))

/-- The backend of a class with the least id, of those for a task type. -/
def resolveByClass (registry : BackendRegistry) (backendClass : String)
    (taskType : Option String) : Except Raised BackendManifest :=
  let found := Store.first (fun left right => decide (left.backendId < right.backendId))
    (registry.manifests.filter (fun manifest => decide (manifest.backendClass.text = backendClass) &&
      taskType.all (fun taskType => manifest.supportedTaskTypes.contains taskType)))
  match found with
  | some manifest => .ok manifest
  | none => .error (.keyError ("unknown backend_class: " ++ backendClass))

end BackendRegistry

/-- What a rule resolves to. -/
structure BackendResolution where
  backendId : String
  backendClass : BackendClass
  capacityNodeId : String
  workerId : Option String
  executionLocation : String
  supportedTaskTypes : List String
  manifestHash : String

/-- What resolving needs to know. -/
structure BackendResolver where
  backendRegistry : BackendRegistry
  workerManifests : List WorkerManifest
  allowedBackendIds : List String := []
  allowedBackendClasses : List String := []

namespace BackendResolver

/-- The resolver of a configuration. -/
def fromConfig (config : LoadedConfig) : BackendResolver where
  backendRegistry := ⟨config.backends⟩
  workerManifests := config.workerManifests
  allowedBackendIds := config.allowedBackendIds
  allowedBackendClasses := config.allowedBackendClasses

/-- The workers by their ids. Of two with one id the later counts. -/
def workersById (resolver : BackendResolver) : Store.Table String WorkerManifest :=
  resolver.workerManifests.foldl
    (fun workers worker => workers.upsert worker.workerId worker (fun _ => worker)) .empty

/-- A text that is given and not empty. -/
def given (text : Option String) : Option String := text.filter (fun text => text ≠ "")

/-- The backend a rule means. -/
def resolveBackendManifest (resolver : BackendResolver) (rule : CandidateRule) :
    Except Raised BackendManifest :=
  match given rule.backendId, given rule.backendClass with
  | some backendId, backendClass =>
    match resolver.backendRegistry.find? backendId with
    | none => .error (.valueError ("'unknown backend_id: " ++ backendId ++ "'"))
    | some backend =>
      if backendClass.all (fun backendClass => backend.backendClass.text = backendClass) then
        .ok backend
      else .error (.valueError "route candidate backend_class does not match backend_id")
  | none, none => .error (.valueError "route candidate must include backend_id or class")
  | none, some backendClass =>
    match resolver.backendRegistry.resolveByClass backendClass (some rule.taskType) with
    | .ok backend => .ok backend
    | .error _ => .error (.valueError ("'unknown backend_class: " ++ backendClass ++ "'"))

/-- The policy allows the backend and its class. An empty list allows everything. -/
def enforcePolicy (resolver : BackendResolver) (backend : BackendManifest) : Except Raised Unit := do
  Store.ensure (resolver.allowedBackendIds = [] ∨ backend.backendId ∈ resolver.allowedBackendIds)
    (.valueError ("backend_id is not allowed by backend_policy: " ++ backend.backendId))
  Store.ensure (resolver.allowedBackendClasses = [] ∨
    backend.backendClass.text ∈ resolver.allowedBackendClasses)
    (.valueError ("backend_class is not allowed by backend_policy: " ++ backend.backendClass.text))

/-- The worker with an id. -/
def worker (resolver : BackendResolver) (workerId : String) : Except Raised WorkerManifest :=
  match resolver.workersById.find? workerId with
  | some worker => .ok worker
  | none => .error (.valueError ("unknown worker_id: " ++ workerId))

/-- The worker with the least id that has a backend, other than that of the control plane. -/
def firstWorkerForBackend (resolver : BackendResolver) (backend : BackendManifest) :
    Except Raised WorkerManifest :=
  let found := Store.first (fun left right => decide (left.1 < right.1))
    (resolver.workersById.select (fun workerId worker =>
      workerId != controlPlaneGatewayWorkerId && worker.backendIds.contains backend.backendId &&
        worker.backendClasses.contains backend.backendClass))
  match found with
  | some (_, worker) => .ok worker
  | none => .error (.valueError ("no worker manifest supports backend_id: " ++ backend.backendId))

/-- A backend on a worker. -/
def resolution (backend : BackendManifest) (worker : WorkerManifest) : BackendResolution where
  backendId := backend.backendId
  backendClass := backend.backendClass
  capacityNodeId := TokenBank.capacityNodeId worker.workerId
  workerId := some worker.workerId
  executionLocation := worker.executionLocation
  supportedTaskTypes := backend.supportedTaskTypes
  manifestHash := backend.manifestHash

/-- Resolve a worker-local backend. -/
def resolveWorkerLocal (resolver : BackendResolver) (backend : BackendManifest)
    (rule : CandidateRule) (workerId : Option String) : Except Raised BackendResolution := do
  let worker ← match given ((given workerId).or rule.workerId) with
    | some target => resolver.worker target
    | none => resolver.firstWorkerForBackend backend
  Capacity.validateWorkerLocalBackend worker backend
  return resolution backend worker

/-- Resolve a gateway backend. -/
def resolveGateway (resolver : BackendResolver) (backend : BackendManifest) :
    Except Raised BackendResolution := do
  let worker ← resolver.worker controlPlaneGatewayWorkerId
  Capacity.validateGatewayWorker worker backend
  return resolution backend worker

/-- Resolve a rule, on a worker of the caller's choice if there is one. -/
def resolve (resolver : BackendResolver) (rule : CandidateRule) (workerId : Option String := none) :
    Except Raised BackendResolution := do
  let backend ← resolver.resolveBackendManifest rule
  resolver.enforcePolicy backend
  if backend.backendClass.apiGateway then
    Store.ensure (workerId = none ∨ workerId = some controlPlaneGatewayWorkerId)
      (.valueError "worker direct API model path is denied")
    resolver.resolveGateway backend
  else if backend.backendClass.workerLocal then
    resolver.resolveWorkerLocal backend rule workerId
  else .error (.valueError ("unknown backend_class for resolver: " ++ backend.backendClass.text))

end BackendResolver

end TokenBank
