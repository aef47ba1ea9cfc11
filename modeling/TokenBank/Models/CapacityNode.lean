import TokenBank.Models.Backend
import TokenBank.Models.Validation

/-!
# Capacity nodes

The node a worker or a backend is projected to, the full manifest of a worker, the documents
they dump to, and what the modelling library makes of such documents and of the document of a
backend's manifest. Datetimes are kept as the text they dump to.
-/

namespace TokenBank

open Validation

/-! ## Enumerations -/

/-- Where something executes. -/
inductive ExecutionLocation : Type
  | macControlPlane
  | windowsWorker
  | localMachine
deriving DecidableEq

/-- The text of an execution location. -/
def ExecutionLocation.text : ExecutionLocation → String
  | .macControlPlane => "mac_control_plane"
  | .windowsWorker => "windows_worker"
  | .localMachine => "local_machine"

/-- The literals of an execution location. -/
def ExecutionLocation.literals : List ExecutionLocation :=
  [.macControlPlane, .windowsWorker, .localMachine]

/-- How far a node is trusted. -/
inductive TrustLevel : Type
  | trustedPrivate
  | controlPlane
  | sandboxed
deriving DecidableEq

/-- The text of a trust level. -/
def TrustLevel.text : TrustLevel → String
  | .trustedPrivate => "trusted_private"
  | .controlPlane => "control_plane"
  | .sandboxed => "sandboxed"

/-- The literals of a trust level. -/
def TrustLevel.literals : List TrustLevel := [.trustedPrivate, .controlPlane, .sandboxed]

/-- The kind of a capacity node. -/
inductive CapacityNodeType : Type
  | windowsWorker
  | controlPlaneGateway
  | localTool
  | localScript
  | browserFetch
  | localModel
  | apiModelGateway
  | primaryModelGateway
  | futureAgent
deriving DecidableEq

/-- The text of the kind of a node. -/
def CapacityNodeType.text : CapacityNodeType → String
  | .windowsWorker => "windows_worker"
  | .controlPlaneGateway => "control_plane_gateway"
  | .localTool => "local_tool"
  | .localScript => "local_script"
  | .browserFetch => "browser_fetch"
  | .localModel => "local_model"
  | .apiModelGateway => "api_model_gateway"
  | .primaryModelGateway => "primary_model_gateway"
  | .futureAgent => "future_agent"

/-- The literals of the kind of a node. -/
def CapacityNodeType.literals : List CapacityNodeType :=
  [.windowsWorker, .controlPlaneGateway, .localTool, .localScript, .browserFetch, .localModel,
    .apiModelGateway, .primaryModelGateway, .futureAgent]

/-- The kind of a node of a backend: the literal with the text of its class. -/
def BackendClass.nodeType : BackendClass → CapacityNodeType
  | .localTool => .localTool
  | .localScript => .localScript
  | .browserFetch => .browserFetch
  | .localModel => .localModel
  | .apiModelGateway => .apiModelGateway
  | .primaryModelGateway => .primaryModelGateway

/-- The literals of a privacy level. -/
def PrivacyLevel.literals : List PrivacyLevel := [.privateData, .internal, .sensitive]

/-- The literals of a health status. -/
def HealthStatus.literals : List HealthStatus := [.healthy, .degraded, .unhealthy, .unknown]

/-! ## Models and their documents -/

/-- An array of texts. -/
def Json.texts (values : List String) : Json := .arr (values.map .str)

/-- An array of privacy levels. -/
def Json.privacyLevels (levels : List PrivacyLevel) : Json :=
  .arr (levels.map (fun level => .str level.text))

/-- An array of backend classes. -/
def Json.backendClasses (classes : List BackendClass) : Json :=
  .arr (classes.map (fun backendClass => .str backendClass.text))

/-- What is known about the health of a capacity node. -/
structure CapacityNodeHealth where
  capacityNodeId : String
  status : HealthStatus := .unknown
  checkedAt : String
  latencyMs : Option Nat := none
  activeAssignments : Nat := 0
  message : Option String := none

/-- The document of a node's health. -/
def CapacityNodeHealth.modelDump (health : CapacityNodeHealth) : Json :=
  .obj [schemaVersion, ("capacity_node_id", .str health.capacityNodeId),
    ("status", .str health.status.text), ("checked_at", .str health.checkedAt),
    ("latency_ms", (health.latencyMs.map Json.nat).getD .null),
    ("active_assignments", .nat health.activeAssignments), ("message", .optional health.message)]

/-- A capacity node. -/
structure CapacityNode where
  capacityNodeId : String
  nodeType : CapacityNodeType
  identity : String
  capabilities : List String
  trustLevel : TrustLevel
  allowedTaskTypes : List String
  allowedDataLabels : List String := []
  allowedPrivacyLevels : List PrivacyLevel := [.privateData]
  executionLocation : ExecutionLocation
  costModel : CostModel := {}
  health : CapacityNodeHealth
  policyConstraints : JsonObject := []
  backendIds : List String := []
  backendClasses : List BackendClass := []
  backendId : Option String := none
  workerId : Option String := none
  providerId : Option String := none
  modelId : Option String := none
  manifestHash : String
  createdAt : String
  updatedAt : String

/-- The fields of a capacity node. -/
def CapacityNode.fieldNames : List String :=
  ["capacity_node_id", "node_type", "identity", "capabilities", "trust_level",
    "allowed_task_types", "allowed_data_labels", "allowed_privacy_levels", "execution_location",
    "cost_model", "health", "policy_constraints", "backend_ids", "backend_classes", "backend_id",
    "worker_id", "provider_id", "model_id", "manifest_hash", "created_at", "updated_at"]

/-- The document of a capacity node. -/
def CapacityNode.modelDump (node : CapacityNode) : Json :=
  .obj [schemaVersion, ("capacity_node_id", .str node.capacityNodeId),
    ("node_type", .str node.nodeType.text), ("identity", .str node.identity),
    ("capabilities", .texts node.capabilities), ("trust_level", .str node.trustLevel.text),
    ("allowed_task_types", .texts node.allowedTaskTypes),
    ("allowed_data_labels", .texts node.allowedDataLabels),
    ("allowed_privacy_levels", .privacyLevels node.allowedPrivacyLevels),
    ("execution_location", .str node.executionLocation.text),
    ("cost_model", node.costModel.modelDump), ("health", node.health.modelDump),
    ("policy_constraints", .obj node.policyConstraints), ("backend_ids", .texts node.backendIds),
    ("backend_classes", .backendClasses node.backendClasses),
    ("backend_id", .optional node.backendId), ("worker_id", .optional node.workerId),
    ("provider_id", .optional node.providerId), ("model_id", .optional node.modelId),
    ("manifest_hash", .str node.manifestHash), ("created_at", .str node.createdAt),
    ("updated_at", .str node.updatedAt)]

/-- The manifest of a worker, with all its fields. -/
structure CapacityWorkerManifest where
  workerId : String
  identity : String
  capabilities : List String := []
  allowedTaskTypes : List String := []
  allowedDataLabels : List String := []
  allowedPrivacyLevels : List PrivacyLevel := [.privateData]
  executionLocation : ExecutionLocation := .windowsWorker
  trustLevel : TrustLevel := .trustedPrivate
  backendIds : List String := []
  backendClasses : List BackendClass := []
  healthStatus : HealthStatus := .unknown
  manifestHash : Option String := none
  createdAt : String
  updatedAt : String

/-- The fields of a worker's manifest. -/
def CapacityWorkerManifest.fieldNames : List String :=
  ["worker_id", "identity", "capabilities", "allowed_task_types", "allowed_data_labels",
    "allowed_privacy_levels", "execution_location", "trust_level", "backend_ids",
    "backend_classes", "health_status", "manifest_hash", "created_at", "updated_at"]

/-- The document of a worker's manifest. -/
def CapacityWorkerManifest.modelDump (worker : CapacityWorkerManifest) : Json :=
  .obj [schemaVersion, ("worker_id", .str worker.workerId), ("identity", .str worker.identity),
    ("capabilities", .texts worker.capabilities),
    ("allowed_task_types", .texts worker.allowedTaskTypes),
    ("allowed_data_labels", .texts worker.allowedDataLabels),
    ("allowed_privacy_levels", .privacyLevels worker.allowedPrivacyLevels),
    ("execution_location", .str worker.executionLocation.text),
    ("trust_level", .str worker.trustLevel.text), ("backend_ids", .texts worker.backendIds),
    ("backend_classes", .backendClasses worker.backendClasses),
    ("health_status", .str worker.healthStatus.text),
    ("manifest_hash", .optional worker.manifestHash), ("created_at", .str worker.createdAt),
    ("updated_at", .str worker.updatedAt)]

/-- What routing and pairing read of the manifest of a worker. -/
def CapacityWorkerManifest.routed (worker : CapacityWorkerManifest) : WorkerManifest where
  workerId := worker.workerId
  executionLocation := worker.executionLocation.text
  backendIds := worker.backendIds
  backendClasses := worker.backendClasses

/-! ## Validation -/

/-- The library at a moment, which is the default of every timestamp. -/
def ModelLibrary.at (library : ModelLibrary) (now : String) : ModelLibrary :=
  { library with now := now }

/-- Validate the document of a cost model. -/
def CostModel.modelValidate (value : Json) : Option CostModel := do
  let fields ← document ["unit", "estimated_cost_micros", "cost_source"] value
  let unit ← defaulted "work_unit" nonEmptyStr fields "unit"
  let estimatedCostMicros ← defaulted 0 nonNegativeInt fields "estimated_cost_micros"
  let costSource ← defaulted .policyDefault (literal CostSource.literals CostSource.text) fields
    "cost_source"
  return { unit, estimatedCostMicros, costSource }

/-- Validate the document of a backend's health. -/
def BackendHealth.modelValidate (library : ModelLibrary) (value : Json) : Option BackendHealth := do
  let fields ← document ["backend_id", "status", "checked_at", "latency_ms", "message"] value
  let backendId ← required nonEmptyStr fields "backend_id"
  let status ← defaulted .unknown (literal HealthStatus.literals HealthStatus.text) fields "status"
  let checkedAt ← defaulted library.now (datetime library) fields "checked_at"
  let latencyMs ← defaulted none (optional nonNegativeInt) fields "latency_ms"
  let message ← defaulted none (optional str) fields "message"
  return { backendId, status, checkedAt, latencyMs, message }

/-- The fields of a backend's manifest. -/
def BackendManifest.fieldNames : List String :=
  ["backend_id", "backend_class", "capacity_node_id", "display_name", "version",
    "supported_task_types", "allowed_privacy_levels", "execution_location", "manifest_hash",
    "health", "cost_model", "policy_constraints"]

/-- Validate the document of a backend's manifest. -/
def BackendManifest.modelValidate (library : ModelLibrary) (value : Json) :
    Option BackendManifest := do
  let fields ← document BackendManifest.fieldNames value
  let backendId ← required nonEmptyStr fields "backend_id"
  let backendClass ← required (literal BackendClass.literals BackendClass.text) fields
    "backend_class"
  let capacityNodeId ← required nonEmptyStr fields "capacity_node_id"
  let displayName ← required nonEmptyStr fields "display_name"
  let version ← required nonEmptyStr fields "version"
  let supportedTaskTypes ← required (listOf nonEmptyStr) fields "supported_task_types"
  let allowedPrivacyLevels ← defaulted [.privateData]
    (listOf (literal PrivacyLevel.literals PrivacyLevel.text)) fields "allowed_privacy_levels"
  let executionLocation ← required nonEmptyStr fields "execution_location"
  let manifestHash ← required nonEmptyStr fields "manifest_hash"
  let health ← defaulted none (optional (BackendHealth.modelValidate library)) fields "health"
  let costModel ← defaulted {} CostModel.modelValidate fields "cost_model"
  let policyConstraints ← defaulted [] (mapping library) fields "policy_constraints"
  return { backendId, backendClass, capacityNodeId, displayName, version, supportedTaskTypes,
           allowedPrivacyLevels, executionLocation, manifestHash, health, costModel,
           policyConstraints }

/-- Validate the document of a worker's manifest. -/
def CapacityWorkerManifest.modelValidate (library : ModelLibrary) (value : Json) :
    Option CapacityWorkerManifest := do
  let fields ← document CapacityWorkerManifest.fieldNames value
  let workerId ← required nonEmptyStr fields "worker_id"
  let identity ← required nonEmptyStr fields "identity"
  let capabilities ← defaulted [] (listOf nonEmptyStr) fields "capabilities"
  let allowedTaskTypes ← defaulted [] (listOf nonEmptyStr) fields "allowed_task_types"
  let allowedDataLabels ← defaulted [] (listOf nonEmptyStr) fields "allowed_data_labels"
  let allowedPrivacyLevels ← defaulted [.privateData]
    (listOf (literal PrivacyLevel.literals PrivacyLevel.text)) fields "allowed_privacy_levels"
  let executionLocation ← defaulted .windowsWorker
    (literal ExecutionLocation.literals ExecutionLocation.text) fields "execution_location"
  let trustLevel ← defaulted .trustedPrivate (literal TrustLevel.literals TrustLevel.text) fields
    "trust_level"
  let backendIds ← defaulted [] (listOf nonEmptyStr) fields "backend_ids"
  let backendClasses ← defaulted [] (listOf (literal BackendClass.literals BackendClass.text))
    fields "backend_classes"
  let healthStatus ← defaulted .unknown (literal HealthStatus.literals HealthStatus.text) fields
    "health_status"
  let manifestHash ← defaulted none (optional str) fields "manifest_hash"
  let createdAt ← defaulted library.now (datetime library) fields "created_at"
  let updatedAt ← defaulted library.now (datetime library) fields "updated_at"
  return { workerId, identity, capabilities, allowedTaskTypes, allowedDataLabels,
           allowedPrivacyLevels, executionLocation, trustLevel, backendIds, backendClasses,
           healthStatus, manifestHash, createdAt, updatedAt }

/-- Validate the document of a node's health. -/
def CapacityNodeHealth.modelValidate (library : ModelLibrary) (value : Json) :
    Option CapacityNodeHealth := do
  let fields ← document ["capacity_node_id", "status", "checked_at", "latency_ms",
    "active_assignments", "message"] value
  let capacityNodeId ← required nonEmptyStr fields "capacity_node_id"
  let status ← defaulted .unknown (literal HealthStatus.literals HealthStatus.text) fields "status"
  let checkedAt ← defaulted library.now (datetime library) fields "checked_at"
  let latencyMs ← defaulted none (optional nonNegativeInt) fields "latency_ms"
  let activeAssignments ← defaulted 0 nonNegativeInt fields "active_assignments"
  let message ← defaulted none (optional str) fields "message"
  return { capacityNodeId, status, checkedAt, latencyMs, activeAssignments, message }

/-- Validate the document of a capacity node. -/
def CapacityNode.modelValidate (library : ModelLibrary) (value : Json) : Option CapacityNode := do
  let fields ← document CapacityNode.fieldNames value
  let capacityNodeId ← required nonEmptyStr fields "capacity_node_id"
  let nodeType ← required (literal CapacityNodeType.literals CapacityNodeType.text) fields
    "node_type"
  let identity ← required nonEmptyStr fields "identity"
  let capabilities ← required (listOf nonEmptyStr) fields "capabilities"
  let trustLevel ← required (literal TrustLevel.literals TrustLevel.text) fields "trust_level"
  let allowedTaskTypes ← required (listOf nonEmptyStr) fields "allowed_task_types"
  let allowedDataLabels ← defaulted [] (listOf nonEmptyStr) fields "allowed_data_labels"
  let allowedPrivacyLevels ← defaulted [.privateData]
    (listOf (literal PrivacyLevel.literals PrivacyLevel.text)) fields "allowed_privacy_levels"
  let executionLocation ← required (literal ExecutionLocation.literals ExecutionLocation.text)
    fields "execution_location"
  let costModel ← defaulted {} CostModel.modelValidate fields "cost_model"
  let health ← required (CapacityNodeHealth.modelValidate library) fields "health"
  let policyConstraints ← defaulted [] (mapping library) fields "policy_constraints"
  let backendIds ← defaulted [] (listOf nonEmptyStr) fields "backend_ids"
  let backendClasses ← defaulted [] (listOf (literal BackendClass.literals BackendClass.text))
    fields "backend_classes"
  let backendId ← defaulted none (optional str) fields "backend_id"
  let workerId ← defaulted none (optional str) fields "worker_id"
  let providerId ← defaulted none (optional str) fields "provider_id"
  let modelId ← defaulted none (optional str) fields "model_id"
  let manifestHash ← required nonEmptyStr fields "manifest_hash"
  let createdAt ← defaulted library.now (datetime library) fields "created_at"
  let updatedAt ← defaulted library.now (datetime library) fields "updated_at"
  return { capacityNodeId, nodeType, identity, capabilities, trustLevel, allowedTaskTypes,
           allowedDataLabels, allowedPrivacyLevels, executionLocation, costModel, health,
           policyConstraints, backendIds, backendClasses, backendId, workerId, providerId,
           modelId, manifestHash, createdAt, updatedAt }

end TokenBank
