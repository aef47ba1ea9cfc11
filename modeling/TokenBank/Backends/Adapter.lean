import TokenBank.Models.Validation

/-!
# Building result envelopes

An adapter executes backend work and builds the envelope of its result from the context of
the execution: the hashes are computed from the context as it was given, the totals and the
cost metadata from the usage records, and the model then trims the texts it is given and
refuses what it does not allow. A backend class that is not known is left out of the
envelope.
-/

namespace TokenBank

/-- A datetime with a zone: its instant in microseconds, and the text it dumps to. -/
structure Datetime where
  micros : Int
  text : String

/-- The members of an execution context that an envelope is built from. -/
structure BackendExecutionContext where
  workUnitId : String
  runId : String
  attemptId : String
  assignmentId : String
  backendId : String
  backendClass : String
  providerId : Option String := none
  modelId : Option String := none
  workerId : Option String := none
  capacityNodeId : Option String := none

namespace Adapter

/-- The classes of backends that there are adapters for. -/
def knownBackendClasses : List String :=
  ["api_model_gateway", "browser_fetch", "local_model", "local_script", "local_tool",
    "primary_model_gateway"]

/-- The class with a text, if it is known. -/
def backendClassOrNone (value : String) : Option BackendClass :=
  if value ∈ knownBackendClasses then
    BackendClass.literals.find? (fun backendClass => backendClass.text = value)
  else none

/-- The cost metadata of usage records together: that of the first one, unless another one
has a different source. -/
def aggregateCostMetadata : List UsageRecord → CostSource × CostConfidence
  | [] => (.notApplicable, .notApplicable)
  | usage :: rest =>
    if rest.any (fun other => decide (other.costSource ≠ usage.costSource)) then (.estimated, .low)
    else (usage.costSource, usage.costConfidence)

/-- The payload that the result hash is computed from. -/
def resultPayload (context : BackendExecutionContext) (status outHash : String)
    (usageRecords : List UsageRecord) (errors : List BackendError) : Json :=
  .obj [("work_unit_id", .str context.workUnitId), ("attempt_id", .str context.attemptId),
    ("assignment_id", .str context.assignmentId), ("backend_id", .str context.backendId),
    ("backend_class", .str context.backendClass), ("output_hash", .str outHash),
    ("status", .str status),
    ("usage_record_ids", .arr (usageRecords.map (fun usage => .str usage.usageRecordId))),
    ("error_codes", .arr (errors.map (fun error => .str error.errorCode)))]

/-- Whole milliseconds between two datetimes, none if the second one is earlier. The seconds
between them and their thousandfold are doubles. -/
def durationMs (startedAt completedAt : Datetime) : Nat :=
  let seconds := Number.nearestDouble (((completedAt.micros - startedAt.micros : Int) : ℚ) / 1000000)
  ⌊Number.nearestDouble (seconds * 1000)⌋.toNat

/-- Build the envelope of a result. -/
def buildResultEnvelope (library : ModelLibrary) (sha256 : String → String)
    (context : BackendExecutionContext) (output : JsonObject) (usageRecords : List UsageRecord)
    (startedAt completedAt : Datetime) (status : String := "succeeded")
    (errors : List BackendError := []) (redactedLogs : List String := [])
    (providerId modelId : Option String := none) : Except Raised WorkUnitResultEnvelope :=
  let outHash := Canonical.outputHash sha256 (.obj output)
  let payload := resultPayload context status outHash usageRecords errors
  let resHash := Canonical.resultHash sha256 payload
  let resultEnvelopeId :=
    "res_" ++ String.ofList ((Canonical.canonicalJsonHash sha256 payload).toList.take 24)
  match ResultEnvelopeStatus.literals.find? (fun literal => literal.text = status) with
  | none => .error .validationError
  | some literal =>
    if BaseModel.hasForbiddenKey (.obj output) ∨
        ∃ text ∈ [resultEnvelopeId, context.workUnitId, context.runId, context.attemptId,
          context.assignmentId, context.backendId, outHash, resHash],
          BaseModel.stripped text = "" then
      .error .validationError
    else .ok
      { resultEnvelopeId := BaseModel.stripped resultEnvelopeId
        workUnitId := BaseModel.stripped context.workUnitId
        runId := BaseModel.stripped context.runId
        attemptId := BaseModel.stripped context.attemptId
        assignmentId := BaseModel.stripped context.assignmentId
        status := literal
        backendId := some (BaseModel.stripped context.backendId)
        backendClass := backendClassOrNone context.backendClass
        providerId := (providerId.or context.providerId).map BaseModel.stripped
        modelId := (modelId.or context.modelId).map BaseModel.stripped
        workerId := context.workerId.map BaseModel.stripped
        capacityNodeId := context.capacityNodeId.map BaseModel.stripped
        output := library.mapping output
        outputHash := BaseModel.stripped outHash
        resultHash := BaseModel.stripped resHash
        usageRecords := usageRecords
        costEstimateMicros := (usageRecords.map UsageRecord.estimatedCostMicros).sum
        actualCostMicros := (usageRecords.map UsageRecord.actualCostMicros).sum
        costSource := (aggregateCostMetadata usageRecords).1
        costConfidence := (aggregateCostMetadata usageRecords).2
        redactedLogs := redactedLogs.map BaseModel.stripped
        errors := errors
        backendError := errors.head?
        startedAt := some startedAt.text
        completedAt := completedAt.text
        durationMs := some (durationMs startedAt completedAt) }

end Adapter

end TokenBank
