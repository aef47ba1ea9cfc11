import TokenBank.Models.ResultEnvelope
import TokenBank.Models.WorkUnit

/-!
# Backends and workers

The validated manifest of a backend, the document it dumps to, and what routing reads of
the manifest of a worker. Datetimes are kept as the text they dump to.
-/

namespace TokenBank

/-- The worker of the control plane. -/
def controlPlaneGatewayWorkerId : String := "wrk_control_plane_gateway"

/-- Backends of the class are gateways to models. -/
def BackendClass.apiGateway : BackendClass → Bool
  | .apiModelGateway => true
  | .primaryModelGateway => true
  | _ => false

/-- Backends of the class run on a worker. -/
def BackendClass.workerLocal : BackendClass → Bool
  | .browserFetch => true
  | .localScript => true
  | .localTool => true
  | _ => false

/-- The health of a backend. -/
inductive HealthStatus : Type
  | healthy
  | degraded
  | unhealthy
  | unknown
deriving DecidableEq

/-- The text of a health status. -/
def HealthStatus.text : HealthStatus → String
  | .healthy => "healthy"
  | .degraded => "degraded"
  | .unhealthy => "unhealthy"
  | .unknown => "unknown"

/-- What is known about the health of a backend. -/
structure BackendHealth where
  backendId : String
  status : HealthStatus := .unknown
  checkedAt : String
  latencyMs : Option Nat := none
  message : Option String := none

/-- The document of a backend's health. -/
def BackendHealth.modelDump (health : BackendHealth) : Json :=
  .obj [schemaVersion, ("backend_id", .str health.backendId), ("status", .str health.status.text),
    ("checked_at", .str health.checkedAt),
    ("latency_ms", (health.latencyMs.map Json.nat).getD .null),
    ("message", .optional health.message)]

/-- What a unit of work costs. -/
structure CostModel where
  unit : String := "work_unit"
  estimatedCostMicros : Nat := 0
  costSource : CostSource := .policyDefault

/-- The document of a cost model. -/
def CostModel.modelDump (cost : CostModel) : Json :=
  .obj [schemaVersion, ("unit", .str cost.unit),
    ("estimated_cost_micros", .nat cost.estimatedCostMicros),
    ("cost_source", .str cost.costSource.text)]

/-- The manifest of a backend. -/
structure BackendManifest where
  backendId : String
  backendClass : BackendClass
  capacityNodeId : String
  displayName : String
  version : String
  supportedTaskTypes : List String
  allowedPrivacyLevels : List PrivacyLevel := [.privateData]
  executionLocation : String
  manifestHash : String
  health : Option BackendHealth := none
  costModel : CostModel := {}
  policyConstraints : JsonObject := []

/-- The document of a backend's manifest. -/
def BackendManifest.modelDump (backend : BackendManifest) : JsonObject :=
  [schemaVersion, ("backend_id", .str backend.backendId),
    ("backend_class", .str backend.backendClass.text),
    ("capacity_node_id", .str backend.capacityNodeId), ("display_name", .str backend.displayName),
    ("version", .str backend.version),
    ("supported_task_types", .arr (backend.supportedTaskTypes.map .str)),
    ("allowed_privacy_levels", .arr (backend.allowedPrivacyLevels.map (fun level => .str level.text))),
    ("execution_location", .str backend.executionLocation),
    ("manifest_hash", .str backend.manifestHash),
    ("health", (backend.health.map BackendHealth.modelDump).getD .null),
    ("cost_model", backend.costModel.modelDump),
    ("policy_constraints", .obj backend.policyConstraints)]

/-- What routing reads of the manifest of a worker. -/
structure WorkerManifest where
  workerId : String
  executionLocation : String := "windows_worker"
  backendIds : List String := []
  backendClasses : List BackendClass := []

end TokenBank
