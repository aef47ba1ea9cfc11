import TokenBank.Backends.Resolver
import TokenBank.Core.Loads
import TokenBank.Models.CapacityValidation

/-!
# The capacity registry

The rows of `capacity_nodes` are a projection of the manifests of workers and backends. A
rebuild validates the manifests, checks that workers and backends fit each other, deletes the
rows of other nodes and files one row per node, by the id of the node. The health snapshots
written along with the rows are left out, as is the database's limit on bound variables.

The clock is read for each timestamp that a model has by default: once for all documents of a
rebuild, and for each node.
-/

namespace TokenBank

open Canonical Validation

/-- A validated worker manifest. -/
abbrev ValidWorker (library : CapacityLibrary) :=
  { worker : CapacityWorkerManifest // worker.Valid library.toModelLibrary }

/-- A validated backend manifest. -/
abbrev ValidBackend (library : CapacityLibrary) :=
  { backend : BackendManifest // backend.Valid library.toModelLibrary }

/-- A validated capacity node. -/
abbrev ValidNode (library : CapacityLibrary) :=
  { node : CapacityNode // node.Valid library.toModelLibrary }

/-- A reading of the clock. -/
abbrev Reading (library : CapacityLibrary) := { text : String // library.Dated text }

/-- A manifest, or a document that is yet to be validated. -/
inductive GivenManifest (α : Type) : Type
  | model (manifest : α)
  | document (value : Json) (written : plain value = true)

/-- A hash function. Its texts are not blank. -/
structure Digest where
  sha256 : String → String
  named : ∀ text, Named (sha256 text)

/-- The timestamps that a node has by default. -/
structure NodeStamp (library : CapacityLibrary) where
  checkedAt : Reading library
  createdAt : Reading library
  updatedAt : Reading library

/-- What a rebuild reads of the clock. -/
structure RebuildClock (library : CapacityLibrary) where
  validatedAt : Reading library
  stamp : Nat → NodeStamp library

/-- A row of `capacity_nodes`, with all its columns. -/
structure StoredCapacityNode where
  nodeType : String
  status : String
  workerId : Option String
  backendId : Option String
  backendClass : Option String
  executionLocation : String
  trustLevel : String
  allowedTaskTypesJson : String
  allowedPrivacyLevelsJson : String
  allowedDataLabelsJson : String
  backendIdsJson : String
  manifestHash : String
  healthSummaryJson : String
  bodyJson : String
  createdAt : String
  updatedAt : String

namespace Capacity

section Projection

variable (library : CapacityLibrary) (digest : Digest)

/-- The worker manifest a document validates as. -/
def readWorker (now : Reading library) (value : Json) : Option (ValidWorker library) :=
  match validated : CapacityWorkerManifest.modelValidate (library.at now) value with
  | some worker => some ⟨worker, worker.valid_of_validated library now now.2 value validated⟩
  | none => none

/-- The backend manifest a document validates as. -/
def readBackend (now : Reading library) (value : Json) (written : plain value = true) :
    Option (ValidBackend library) :=
  match validated : BackendManifest.modelValidate (library.at now) value with
  | some backend =>
    some ⟨backend, backend.valid_of_validated library now now.2 value written validated⟩
  | none => none

/-- The worker manifest that is given, validated. -/
def validatedWorker (now : Reading library) :
    GivenManifest (ValidWorker library) → Option (ValidWorker library)
  | .model worker => some worker
  | .document value _ => readWorker library now value

/-- The backend manifest that is given, validated. -/
def validatedBackend (now : Reading library) :
    GivenManifest (ValidBackend library) → Option (ValidBackend library)
  | .model backend => some backend
  | .document value written => readBackend library now value written

/-- A document gives the worker manifest that it validates as. -/
theorem readWorker_iff (now : Reading library) (value : Json) (worker : ValidWorker library) :
    readWorker library now value = some worker ↔
      CapacityWorkerManifest.modelValidate (library.at now) value = some worker.1 := by
  rw [readWorker]
  split
  · rename_i found validated
    simp only [validated, Option.some.injEq, Subtype.ext_iff]
  · rename_i refused
    simp [refused]

/-- A document gives the backend manifest that it validates as. -/
theorem readBackend_iff (now : Reading library) (value : Json) (written : plain value = true)
    (backend : ValidBackend library) : readBackend library now value written = some backend ↔
      BackendManifest.modelValidate (library.at now) value = some backend.1 := by
  rw [readBackend]
  split
  · rename_i found validated
    simp only [validated, Option.some.injEq, Subtype.ext_iff]
  · rename_i refused
    simp [refused]

/-- A validated value, or the exception of validation. -/
def validatedOr {α : Type} : Option α → Except Raised α
  | some value => .ok value
  | none => .error .validationError

/-- The hash of a worker's manifest: the one it states, unless that is empty. -/
def manifestHash (worker : CapacityWorkerManifest) : String :=
  (worker.manifestHash.filter (fun explicit => explicit ≠ "")).getD
    (canonicalJsonHash digest.sha256 worker.modelDump)

/-- The hash of a validated worker manifest is not blank. -/
theorem manifestHash_named (worker : ValidWorker library) :
    Named (manifestHash digest worker.1) := by
  unfold manifestHash
  cases stated : worker.1.manifestHash.filter (fun explicit => explicit ≠ "") with
  | none => exact digest.named _
  | some explicit =>
    obtain ⟨here, filled⟩ := Option.filter_eq_some_iff.mp stated
    exact ⟨worker.2.manifestHash explicit here, by simpa using filled⟩

/-- The id of a worker's node is neither blank nor in need of trimming. -/
theorem capacityNodeId_named (workerId : String) (named : Named workerId) :
    Named (capacityNodeId workerId) := by
  have characters : (capacityNodeId workerId).toList =
      "capnode:worker:".toList ++ workerId.toList := by
    rw [capacityNodeId, String.toList_append]
  have filled : workerId.toList ≠ [] := by
    simpa using named.2
  refine ⟨trimmed_of_ends _ ?_ ?_, ?_⟩
  · rw [characters]
    rfl
  · rw [characters, List.getLast?_append_of_ne_nil _ filled]
    exact trimmed_last workerId named.1
  · intro empty
    have nothing := congrArg String.toList empty
    rw [characters] at nothing
    simp at nothing

/-- The node of a worker. -/
def workerNode (stamp : NodeStamp library) (worker : CapacityWorkerManifest) : CapacityNode where
  capacityNodeId := capacityNodeId worker.workerId
  nodeType := .windowsWorker
  identity := worker.identity
  capabilities := worker.capabilities
  trustLevel := worker.trustLevel
  allowedTaskTypes := worker.allowedTaskTypes
  allowedDataLabels := worker.allowedDataLabels
  allowedPrivacyLevels := worker.allowedPrivacyLevels
  executionLocation := worker.executionLocation
  costModel := {}
  health := {
    capacityNodeId := capacityNodeId worker.workerId
    status := worker.healthStatus
    checkedAt := stamp.checkedAt }
  policyConstraints := []
  backendIds := worker.backendIds
  backendClasses := worker.backendClasses
  workerId := some worker.workerId
  manifestHash := manifestHash digest worker
  createdAt := worker.createdAt
  updatedAt := worker.updatedAt

/-- The node of a backend that executes at a location. -/
def backendNode (stamp : NodeStamp library) (backend : BackendManifest)
    (executionLocation : ExecutionLocation) : CapacityNode where
  capacityNodeId := backend.capacityNodeId
  nodeType := backend.backendClass.nodeType
  identity := backend.displayName
  capabilities := backend.supportedTaskTypes
  trustLevel := .trustedPrivate
  allowedTaskTypes := backend.supportedTaskTypes
  allowedDataLabels := []
  allowedPrivacyLevels := backend.allowedPrivacyLevels
  executionLocation := executionLocation
  costModel := backend.costModel
  health := {
    capacityNodeId := backend.capacityNodeId
    status := (backend.health.map BackendHealth.status).getD .unknown
    checkedAt := (backend.health.map BackendHealth.checkedAt).getD stamp.checkedAt }
  policyConstraints := backend.policyConstraints
  backendIds := [backend.backendId]
  backendClasses := [backend.backendClass]
  backendId := some backend.backendId
  manifestHash := backend.manifestHash
  createdAt := stamp.createdAt
  updatedAt := stamp.updatedAt

/-- Project the manifest of a worker. Validated values are left alone when the node is. -/
def projectWorkerManifest (stamp : NodeStamp library) (worker : ValidWorker library) :
    ValidNode library :=
  ⟨workerNode library digest stamp worker.1, {
    capacityNodeId := capacityNodeId_named _ worker.2.workerId
    identity := worker.2.identity
    capabilities := worker.2.capabilities
    allowedTaskTypes := worker.2.allowedTaskTypes
    allowedDataLabels := worker.2.allowedDataLabels
    costModel := CostModel.valid_default
    health := ⟨capacityNodeId_named _ worker.2.workerId, stamp.checkedAt.2, by simp [workerNode]⟩
    policyConstraints := ⟨rfl, by simp [workerNode]⟩
    allowed := rfl
    backendIds := worker.2.backendIds
    backendId := by simp [workerNode]
    workerId := fun text here => Option.some.inj here ▸ worker.2.workerId.1
    providerId := by simp [workerNode]
    modelId := by simp [workerNode]
    manifestHash := manifestHash_named library digest worker
    createdAt := worker.2.createdAt
    updatedAt := worker.2.updatedAt }⟩

/-- The timestamp of a backend's health is a datetime. -/
theorem backendHealth_dated (stamp : NodeStamp library) (backend : ValidBackend library) :
    library.Dated ((backend.1.health.map BackendHealth.checkedAt).getD stamp.checkedAt) := by
  cases known : backend.1.health with
  | none => exact stamp.checkedAt.2
  | some health => exact (backend.2.health health known).checkedAt

/-- The node of a validated backend is valid, unless its constraints have a forbidden key. -/
theorem backendNode_valid (stamp : NodeStamp library) (backend : ValidBackend library)
    (executionLocation : ExecutionLocation)
    (allowed : BaseModel.hasForbiddenKey (.obj backend.1.policyConstraints) = false) :
    (backendNode library stamp backend.1 executionLocation).Valid library.toModelLibrary where
  capacityNodeId := backend.2.capacityNodeId
  identity := backend.2.displayName
  capabilities := backend.2.supportedTaskTypes
  allowedTaskTypes := backend.2.supportedTaskTypes
  allowedDataLabels := by simp [backendNode]
  costModel := backend.2.costModel
  health := ⟨backend.2.capacityNodeId, backendHealth_dated library stamp backend,
    by simp [backendNode]⟩
  policyConstraints := backend.2.policyConstraints
  allowed := allowed
  backendIds := by simpa [backendNode] using backend.2.backendId
  backendId := fun text here => Option.some.inj here ▸ backend.2.backendId.1
  workerId := by simp [backendNode]
  providerId := by simp [backendNode]
  modelId := by simp [backendNode]
  manifestHash := backend.2.manifestHash
  createdAt := stamp.createdAt.2
  updatedAt := stamp.updatedAt.2

/-- Project the manifest of a backend. The node refuses a location that is none of its own, and
a key of the constraints that is forbidden now that it is trimmed. -/
def projectBackendManifest (stamp : NodeStamp library) (backend : ValidBackend library) :
    Except Raised (ValidNode library) :=
  match literal ExecutionLocation.literals ExecutionLocation.text
      (.str backend.1.executionLocation) with
  | none => .error .validationError
  | some executionLocation =>
    if allowed : BaseModel.hasForbiddenKey (.obj backend.1.policyConstraints) = false then
      .ok ⟨backendNode library stamp backend.1 executionLocation,
        backendNode_valid library stamp backend executionLocation allowed⟩
    else .error .validationError

end Projection

/-! ## Pairing -/

/-- Backends by their ids. Of two with one id the later counts. -/
def backendsById (backends : List BackendManifest) : Store.Table String BackendManifest :=
  backends.foldl
    (fun found backend => found.upsert backend.backendId backend (fun _ => backend)) .empty

/-- A worker may execute a backend it names. -/
def validatePair (backends : List BackendManifest) (worker : WorkerManifest) (backendId : String) :
    Except Raised Unit :=
  match (backendsById backends).find? backendId with
  | none => .error (.valueError ("worker " ++ worker.workerId ++
      " references unknown backend_id: " ++ backendId))
  | some backend =>
    if backend.backendClass.apiGateway then validateGatewayWorker worker backend
    else validateWorkerLocalBackend worker backend

/-- Workers and backends fit each other. Without backends no worker is looked at. -/
def validateRegistryPairing (workers : List WorkerManifest) (backends : List BackendManifest) :
    Except Raised Unit := do
  backends.forM validateBackendExecutionLocation
  if backends.isEmpty then return
  workers.forM (fun worker => worker.backendIds.forM (validatePair backends worker))

/-! ## The table -/

/-- The first of a list that has no other. -/
def single {α : Type} : List α → Option α
  | [value] => some value
  | _ => none

/-- The row of a node. -/
def nodeRow (node : CapacityNode) : StoredCapacityNode where
  nodeType := node.nodeType.text
  status := node.health.status.text
  workerId := node.workerId
  backendId := single node.backendIds
  backendClass := (single node.backendClasses).map BackendClass.text
  executionLocation := node.executionLocation.text
  trustLevel := node.trustLevel.text
  allowedTaskTypesJson := canonicalJsonDumps (.texts node.allowedTaskTypes)
  allowedPrivacyLevelsJson := canonicalJsonDumps (.privacyLevels node.allowedPrivacyLevels)
  allowedDataLabelsJson := canonicalJsonDumps (.texts node.allowedDataLabels)
  backendIdsJson := canonicalJsonDumps (.texts node.backendIds)
  manifestHash := node.manifestHash
  healthSummaryJson := canonicalJsonDumps node.health.modelDump
  bodyJson := canonicalJsonDumps node.modelDump
  createdAt := node.createdAt
  updatedAt := node.updatedAt

/-- File the row of a node. A row that is there keeps the time it was created at. -/
def upsertCapacityNode {library : CapacityLibrary} (table : Store.Table String StoredCapacityNode)
    (node : ValidNode library) : Store.Table String StoredCapacityNode :=
  table.upsert node.1.capacityNodeId (nodeRow node.1)
    (fun stored => { nodeRow node.1 with createdAt := stored.createdAt })

/-- The nodes of validated manifests, workers first. -/
def projectedNodes {library : CapacityLibrary} (digest : Digest)
    (stamp : Nat → NodeStamp library) (workers : List (ValidWorker library))
    (backends : List (ValidBackend library)) : Except Raised (List (ValidNode library)) := do
  let workerNodes := workers.zipIdx.map (fun (worker, position) =>
    projectWorkerManifest library digest (stamp position) worker)
  let backendNodes ← (backends.zipIdx workers.length).mapM (fun (backend, position) =>
    projectBackendManifest library (stamp position) backend)
  return workerNodes ++ backendNodes

/-- The table with the rows of the nodes and no others. -/
def replaceNodes {library : CapacityLibrary} (nodes : List (ValidNode library))
    (table : Store.Table String StoredCapacityNode) : Store.Table String StoredCapacityNode :=
  let nodeIds := nodes.map (fun node => node.1.capacityNodeId)
  nodes.foldl upsertCapacityNode (table.delete (fun nodeId _ => !nodeIds.contains nodeId))

/-- Rebuild the table from the manifests. -/
def rebuildCapacityNodes {library : CapacityLibrary} (digest : Digest)
    (clock : RebuildClock library) (workerManifests : List (GivenManifest (ValidWorker library)))
    (backendManifests : List (GivenManifest (ValidBackend library)))
    (table : Store.Table String StoredCapacityNode) :
    Except Raised (List (ValidNode library) × Store.Table String StoredCapacityNode) := do
  let workers ← workerManifests.mapM (fun given =>
    validatedOr (validatedWorker library clock.validatedAt given))
  let backends ← backendManifests.mapM (fun given =>
    validatedOr (validatedBackend library clock.validatedAt given))
  validateRegistryPairing (workers.map (fun worker => worker.1.routed)) (backends.map (·.1))
  let nodes ← projectedNodes digest clock.stamp workers backends
  return (nodes, replaceNodes nodes table)

/-- A stored node, validated again. -/
def storedNode (library : CapacityLibrary) (row : StoredCapacityNode) : Except Raised CapacityNode :=
  validatedOr ((jsonLoads row.bodyJson).bind (CapacityNode.modelValidate library.toModelLibrary))

/-- The stored nodes by their ids. -/
def listCapacityNodes (library : CapacityLibrary) (table : Store.Table String StoredCapacityNode) :
    Except Raised (List CapacityNode) :=
  (table.entries.insertionSort (fun left right => left.1 ≤ right.1)).mapM
    (fun entry => storedNode library entry.2)

end Capacity

end TokenBank
