import TokenBank.App.ControlPlane
import TokenBank.Capacity.Rebuild
import TokenBank.Core.Members

/-!
# Manifests of a running control plane

The manifests of workers come from the configuration and from those that registered: of two
with one id the registered one counts. A registration stores the manifest in a statement of
its own, commits, and then rebuilds the capacity nodes from all manifests. The control plane
does the same rebuild when it starts.

A model inside a manifest of the configuration is given as its document, validated along with
the manifest.
-/

namespace TokenBank

open Canonical

/-- The documents of a loaded configuration. Loading has written each as canonical JSON. -/
structure ConfigDocuments where
  backendPolicy : JsonObject
  backendRegistry : JsonObject
  capacityRegistry : JsonObject
  runtime : JsonObject
  pricing : List JsonObject
  written : plain (.obj backendRegistry) = true ∧ plain (.obj capacityRegistry) = true

namespace Bootstrap

/-- What the manifest of a worker is made of: the members of its entry or payload, or defaults. -/
def manifestPayload (workerId capabilities : Json) (fields : JsonObject) : JsonObject :=
  [("worker_id", workerId), ("identity", Json.getOr fields "identity" workerId),
    ("capabilities", capabilities),
    ("allowed_task_types", Json.getOr fields "allowed_task_types" (.texts [])),
    ("allowed_data_labels", Json.getOr fields "allowed_data_labels" (.texts ["public_url"])),
    ("allowed_privacy_levels", Json.getOr fields "allowed_privacy_levels" (.texts ["private"])),
    ("execution_location", Json.getOr fields "execution_location" (.str "windows_worker")),
    ("trust_level", Json.getOr fields "trust_level" (.str "trusted_private")),
    ("backend_ids", Json.getOr fields "backend_ids" (.texts [])),
    ("backend_classes", Json.getOr fields "backend_classes" (.texts ["local_tool"])),
    ("health_status", Json.getOr fields "health_status" (.str "healthy"))]

/-! ## The configuration -/

/-- The entries of a registry under two keys. -/
def entries (document : JsonObject) (registry listed : String) : Except Raised (List Json) := do
  let members ← (Json.getOr document registry (.obj [])).asked
  (Json.getOr members listed (.arr [])).iterated

/-- The document of the manifest of a configured worker. -/
def workerDocument (entry : Json) : Except Raised Json := do
  let workerId ← entry.subscripted "worker_id"
  let fields ← entry.asked
  return .obj (manifestPayload workerId (Json.getOr fields "allowed_task_types" (.texts [])) fields ++
    [("manifest_hash", Json.get fields "manifest_hash")])

/-- The document of the manifest of a configured backend. -/
def backendDocument (runtime : PythonRuntime) (entry : Json) : Except Raised Json := do
  let backendId := Json.str (runtime.str (← entry.subscripted "backend_id"))
  let fields ← entry.asked
  let backendClass ← Json.item fields "backend_class"
  let capacityNodeId ← Json.item fields "capacity_node_id"
  let executionLocation ← Json.item fields "execution_location"
  let manifestHash ← Json.item fields "manifest_hash"
  let health ← (Json.getOr fields "health" (.obj [])).asked
  let cost ← (Json.getOr fields "cost_model" (.obj [])).asked
  let estimatedCostMicros ← runtime.int (Json.getOr cost "estimated_cost_micros" (.int 0))
  return .obj [("backend_id", backendId), ("backend_class", backendClass),
    ("capacity_node_id", capacityNodeId),
    ("display_name", Json.getOr fields "display_name" backendId),
    ("version", Json.getOr fields "version" (.str "v0")),
    ("supported_task_types", Json.getOr fields "supported_task_types" (.texts [])),
    ("allowed_privacy_levels", Json.getOr fields "allowed_privacy_levels" (.texts ["private"])),
    ("execution_location", executionLocation), ("manifest_hash", manifestHash),
    ("health", .obj [("backend_id", backendId),
      ("status", Json.getOr health "status" (Json.getOr fields "health_status" (.str "healthy"))),
      ("latency_ms", Json.get health "latency_ms"), ("message", Json.get health "message")]),
    ("cost_model", .obj [("estimated_cost_micros", .int estimatedCostMicros),
      ("cost_source", Json.getOr cost "cost_source" (.str "policy_default"))]),
    ("policy_constraints", Json.getOr fields "policy_constraints" (.obj []))]

section Configured

variable {library : CapacityLibrary} (now : Reading library) (config : ConfigDocuments)

/-- The manifests of the configured workers. -/
def workerManifestsFromConfig : Except Raised (List (ValidWorker library)) := do
  let workers ← entries config.capacityRegistry "capacity_registry" "worker_manifests"
  workers.mapM (fun entry => do
    let document ← workerDocument entry
    Capacity.validatedOr (Capacity.readWorker library now document))

/-- The entries of a plain registry are plain. -/
theorem entries_plain (document : JsonObject) (written : plain (.obj document) = true)
    (registry listed : String) (found : List Json)
    (here : entries document registry listed = .ok found) :
    ∀ entry ∈ found, plain entry = true := by
  obtain ⟨members, asked, iterated⟩ := (Store.bind_ok_iff _ _ _).mp here
  have members_plain := asked_plain _ (getOr_plain document written registry (.obj []) rfl) members
    asked
  exact iterated_plain _ (getOr_plain members members_plain listed (.arr []) rfl) found iterated

/-- The document of the manifest of a plain entry is plain. -/
theorem backendDocument_plain (runtime : PythonRuntime) (entry : Json) (written : plain entry = true)
    (document : Json) (here : backendDocument runtime entry = .ok document) :
    plain document = true := by
  unfold backendDocument at here
  simp only [Store.bind_ok_iff] at here
  obtain ⟨_, -, fields, asked, _, backendClass, _, capacityNodeId, _, executionLocation, _,
    manifestHash, health, asked_health, cost, asked_cost, _, -, returned⟩ := here
  cases returned
  have member := getOr_plain fields (asked_plain entry written fields asked)
  have required := item_plain fields (asked_plain entry written fields asked)
  have of_health := getOr_plain health
    (asked_plain _ (member "health" (.obj []) rfl) health asked_health)
  have of_cost := getOr_plain cost
    (asked_plain _ (member "cost_model" (.obj []) rfl) cost asked_cost)
  refine plain_obj _ BackendManifest.fieldNames rfl (by decide) ?_
  simp only [plainFields, Bool.and_eq_true]
  refine ⟨rfl, required _ _ backendClass, required _ _ capacityNodeId, member _ _ rfl,
    member _ _ rfl, member _ _ (plain_texts []), member _ _ (plain_texts ["private"]),
    required _ _ executionLocation, required _ _ manifestHash, ?_, ?_, member _ _ rfl, trivial⟩
  · refine plain_obj _ ["backend_id", "status", "latency_ms", "message"] rfl (by decide) ?_
    simp only [plainFields, Bool.and_eq_true]
    exact ⟨rfl, of_health _ _ (member _ _ rfl), of_health _ _ rfl, of_health _ _ rfl, trivial⟩
  · refine plain_obj _ ["estimated_cost_micros", "cost_source"] rfl (by decide) ?_
    simp only [plainFields, Bool.and_eq_true]
    exact ⟨rfl, of_cost _ _ rfl, trivial⟩

variable (runtime : PythonRuntime)

/-- The manifest of a configured backend. -/
def backendManifestFromConfig (entry : Json) (written : plain entry = true) :
    Except Raised (ValidBackend library) :=
  match found : backendDocument runtime entry with
  | .error raised => .error raised
  | .ok document => Capacity.validatedOr (Capacity.readBackend library now document
      (backendDocument_plain runtime entry written document found))

/-- The manifests of the configured backends. -/
def loadBackendManifests : Except Raised (List (ValidBackend library)) :=
  match found : entries config.backendRegistry "backend_registry" "backends" with
  | .error raised => .error raised
  | .ok backends => (backends.attachWith (fun entry => plain entry = true)
      (entries_plain config.backendRegistry config.written.1 _ _ backends found)).mapM
        (fun entry => backendManifestFromConfig now runtime entry.1 entry.2)

end Configured

end Bootstrap

/-! ## The running control plane -/

/-- The control plane with the table of capacity nodes. -/
structure CapacityPlane where
  plane : ControlPlane
  capacityNodes : Store.Table String StoredCapacityNode

namespace CapacityPlane

section Rebuild

variable {library : CapacityLibrary} (digest : Digest) (runtime : PythonRuntime)
  (config : ConfigDocuments)

/-- The manifest in a row of `worker_manifests`. -/
def storedWorker (now : Reading library) (row : WorkerManifestRow) : Option (ValidWorker library) :=
  (jsonLoads (canonicalJsonDumps row.body)).bind (Capacity.readWorker library now)

/-- The manifests of the workers that registered, by their ids. -/
def storedWorkerManifests (now : Reading library) (capacity : CapacityPlane) :
    Except Raised (List (ValidWorker library)) :=
  (capacity.plane.workerManifests.entries.insertionSort (fun left right => left.1 ≤ right.1)).mapM
    (fun entry => Capacity.validatedOr (storedWorker now entry.2))

/-- Workers by their ids. Of two with one id the later counts. -/
def workersById (workers : List (ValidWorker library)) : Store.Table String (ValidWorker library) :=
  workers.foldl (fun found worker => found.upsert worker.1.workerId worker (fun _ => worker)) .empty

/-- Rebuild the capacity nodes from the configuration and from the workers that registered. -/
def rebuildCapacityProjectionFromConfigAndDb (clock : RebuildClock library)
    (capacity : CapacityPlane) : Except Raised (Nat × CapacityPlane) := do
  let configured ← Bootstrap.workerManifestsFromConfig clock.validatedAt config
  let stored ← storedWorkerManifests clock.validatedAt capacity
  let backends ← Bootstrap.loadBackendManifests clock.validatedAt config runtime
  let workers := (workersById (configured ++ stored)).entries.map Prod.snd
  let (nodes, capacityNodes) ← Capacity.rebuildCapacityNodes digest clock
    (workers.map .model) (backends.map .model) capacity.capacityNodes
  return (nodes.length, { capacity with capacityNodes := capacityNodes })

/-- The manifest that a payload registers, and its hash. -/
def registeredManifest (now : Reading library) (payload : JsonObject) :
    Except Raised (ValidWorker library × String) := do
  let workerId ← Json.item payload "worker_id"
  let manifestPayload := Bootstrap.manifestPayload workerId
    (Json.getOr payload "capabilities" (Json.getOr payload "allowed_task_types" (.texts []))) payload
  let manifestHash := canonicalJsonHash digest.sha256 (.obj manifestPayload)
  let worker ← Capacity.validatedOr (Capacity.readWorker library now
    (.obj (manifestPayload ++ [("manifest_hash", .str manifestHash)])))
  return (worker, manifestHash)

/-- Store the manifest that a payload registers, and commit. -/
def upsertWorkerManifest (now : Reading library) (writtenAt : String) (payload : JsonObject)
    (capacity : CapacityPlane) : Except Raised (ValidWorker library × CapacityPlane) := do
  let (worker, manifestHash) ← registeredManifest digest now payload
  return (worker, { capacity with
    plane := capacity.plane.putWorkerManifest worker.1.workerId manifestHash worker.1.modelDump
      writtenAt })

/-- A request to register a worker, and what is read of the clock for it. -/
structure RegistrationRequest (library : CapacityLibrary) where
  payload : JsonObject
  validatedAt : Reading library
  writtenAt : String
  clock : RebuildClock library

/-- The answer to a request that registered a worker. -/
structure Registered where
  workerId : String
  manifestHash : Option String
  capacityNodeId : String
  capacityNodeCount : Nat

/-- Register a worker. The manifest stays stored when the rebuild raises an exception. -/
def registerWorker (request : RegistrationRequest library) (capacity : CapacityPlane) :
    Except Raised Registered × CapacityPlane :=
  match upsertWorkerManifest digest request.validatedAt request.writtenAt request.payload
      capacity with
  | .error raised => (.error raised, capacity)
  | .ok (worker, registered) =>
    match rebuildCapacityProjectionFromConfigAndDb digest runtime config request.clock
        registered with
    | .error raised => (.error raised, registered)
    | .ok (count, rebuilt) => (.ok {
        workerId := worker.1.workerId
        manifestHash := worker.1.manifestHash
        capacityNodeId := capacityNodeId worker.1.workerId
        capacityNodeCount := count }, rebuilt)

end Rebuild

end CapacityPlane

end TokenBank
