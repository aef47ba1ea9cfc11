import TokenBank.Core.Json

/-!
# Result envelopes

The validated envelope a worker submits, and the JSON document it dumps to. The
document lists the schema version first and then every field in declaration
order, absent ones as null. Datetimes are kept as the text they dump to.
Validation itself is done by the modelling library and is a parameter of the
functions that call it.
-/

namespace TokenBank

/-- The status a worker reports for a result. -/
inductive ResultEnvelopeStatus : Type
  | succeeded
  | failed
  | quarantined
deriving DecidableEq

/-- The stored text of a result status. -/
def ResultEnvelopeStatus.text : ResultEnvelopeStatus → String
  | .succeeded => "succeeded"
  | .failed => "failed"
  | .quarantined => "quarantined"

/-- The classes of backends. -/
inductive BackendClass : Type
  | localTool
  | localScript
  | browserFetch
  | localModel
  | apiModelGateway
  | primaryModelGateway
deriving DecidableEq

/-- The text of a backend class. -/
def BackendClass.text : BackendClass → String
  | .localTool => "local_tool"
  | .localScript => "local_script"
  | .browserFetch => "browser_fetch"
  | .localModel => "local_model"
  | .apiModelGateway => "api_model_gateway"
  | .primaryModelGateway => "primary_model_gateway"

/-- Where a cost figure comes from. -/
inductive CostSource : Type
  | measured
  | estimated
  | policyDefault
  | zeroInternalPhase0
  | notApplicable
deriving DecidableEq

/-- The text of a cost source. -/
def CostSource.text : CostSource → String
  | .measured => "measured"
  | .estimated => "estimated"
  | .policyDefault => "policy_default"
  | .zeroInternalPhase0 => "zero_internal_phase0"
  | .notApplicable => "not_applicable"

/-- How far a cost figure is trusted. -/
inductive CostConfidence : Type
  | low
  | medium
  | high
  | notApplicable
deriving DecidableEq

/-- The text of a cost confidence. -/
def CostConfidence.text : CostConfidence → String
  | .low => "low"
  | .medium => "medium"
  | .high => "high"
  | .notApplicable => "not_applicable"

/-- The schema version every document starts with. -/
def schemaVersion : String × Json := ("schema_version", .str "p0.v1")

/-- A stored artifact a result refers to. -/
structure ArtifactRef where
  artifactId : String
  uri : String
  mediaType : String := "application/octet-stream"
  artifactHash : String
  metadata : JsonObject := []

/-- The document of an artifact reference. -/
def ArtifactRef.modelDump (artifact : ArtifactRef) : Json :=
  .obj [schemaVersion, ("artifact_id", .str artifact.artifactId), ("uri", .str artifact.uri),
    ("media_type", .str artifact.mediaType), ("artifact_hash", .str artifact.artifactHash),
    ("metadata", .obj artifact.metadata)]

/-- Units and costs of one backend call. -/
structure UsageRecord where
  usageRecordId : String
  workUnitId : String
  attemptId : String
  backendId : String
  inputUnits : Nat := 0
  outputUnits : Nat := 0
  estimatedCostMicros : Nat := 0
  actualCostMicros : Nat := 0
  costSource : CostSource := .notApplicable
  costConfidence : CostConfidence := .notApplicable
  recordedAt : String

/-- The document of a usage record. -/
def UsageRecord.modelDump (usage : UsageRecord) : Json :=
  .obj [schemaVersion, ("usage_record_id", .str usage.usageRecordId),
    ("work_unit_id", .str usage.workUnitId), ("attempt_id", .str usage.attemptId),
    ("backend_id", .str usage.backendId), ("input_units", .nat usage.inputUnits),
    ("output_units", .nat usage.outputUnits),
    ("estimated_cost_micros", .nat usage.estimatedCostMicros),
    ("actual_cost_micros", .nat usage.actualCostMicros),
    ("cost_source", .str usage.costSource.text),
    ("cost_confidence", .str usage.costConfidence.text),
    ("recorded_at", .str usage.recordedAt)]

/-- An error a backend reported. -/
structure BackendError where
  errorCode : String
  errorMessage : String
  retryable : Bool := false
  fallbackable : Bool := false
  redactedDetails : JsonObject := []
  occurredAt : String

/-- The document of a backend error. -/
def BackendError.modelDump (error : BackendError) : Json :=
  .obj [schemaVersion, ("error_code", .str error.errorCode),
    ("error_message", .str error.errorMessage), ("retryable", .bool error.retryable),
    ("fallbackable", .bool error.fallbackable),
    ("redacted_details", .obj error.redactedDetails), ("occurred_at", .str error.occurredAt)]

/-- The result envelope of one assignment. -/
structure WorkUnitResultEnvelope where
  resultEnvelopeId : String
  workUnitId : String
  runId : String
  attemptId : String
  assignmentId : String
  status : ResultEnvelopeStatus
  backendId : Option String := none
  backendClass : Option BackendClass := none
  providerId : Option String := none
  modelId : Option String := none
  workerId : Option String := none
  capacityNodeId : Option String := none
  output : JsonObject := []
  outputHash : String
  resultHash : String
  artifactRefs : List ArtifactRef := []
  usageRecords : List UsageRecord := []
  costEstimateMicros : Nat := 0
  actualCostMicros : Nat := 0
  costSource : CostSource := .notApplicable
  costConfidence : CostConfidence := .notApplicable
  redactedLogs : List String := []
  errors : List BackendError := []
  backendError : Option BackendError := none
  startedAt : Option String := none
  completedAt : String
  durationMs : Option Nat := none

/-- The members of an envelope's document, with the status given separately: a late result
is stored under another status than the one the worker reported. -/
def WorkUnitResultEnvelope.dumpWithStatus (envelope : WorkUnitResultEnvelope)
    (status : ResultEnvelopeStatus) : JsonObject :=
  [schemaVersion, ("result_envelope_id", .str envelope.resultEnvelopeId),
    ("work_unit_id", .str envelope.workUnitId), ("run_id", .str envelope.runId),
    ("attempt_id", .str envelope.attemptId), ("assignment_id", .str envelope.assignmentId),
    ("status", .str status.text), ("backend_id", .optional envelope.backendId),
    ("backend_class", .optional (envelope.backendClass.map BackendClass.text)),
    ("provider_id", .optional envelope.providerId), ("model_id", .optional envelope.modelId),
    ("worker_id", .optional envelope.workerId),
    ("capacity_node_id", .optional envelope.capacityNodeId), ("output", .obj envelope.output),
    ("output_hash", .str envelope.outputHash), ("result_hash", .str envelope.resultHash),
    ("artifact_refs", .arr (envelope.artifactRefs.map ArtifactRef.modelDump)),
    ("usage_records", .arr (envelope.usageRecords.map UsageRecord.modelDump)),
    ("cost_estimate_micros", .nat envelope.costEstimateMicros),
    ("actual_cost_micros", .nat envelope.actualCostMicros),
    ("cost_source", .str envelope.costSource.text),
    ("cost_confidence", .str envelope.costConfidence.text),
    ("redacted_logs", .arr (envelope.redactedLogs.map .str)),
    ("errors", .arr (envelope.errors.map BackendError.modelDump)),
    ("backend_error", (envelope.backendError.map BackendError.modelDump).getD .null),
    ("started_at", .optional envelope.startedAt), ("completed_at", .str envelope.completedAt),
    ("duration_ms", (envelope.durationMs.map Json.nat).getD .null)]

/-- The document of an envelope. -/
def WorkUnitResultEnvelope.modelDump (envelope : WorkUnitResultEnvelope) : Json :=
  .obj (envelope.dumpWithStatus envelope.status)

end TokenBank
