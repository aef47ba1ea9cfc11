import TokenBank.Core.Rereading
import TokenBank.Models.Base
import TokenBank.Models.ResultEnvelope

/-!
# Validation of result envelopes

What the modelling library makes of a parsed document: texts are trimmed, those that must
not be empty are refused when nothing is left, the literals of an enumeration are matched
exactly, absent members take their defaults, and members that no field is named after are
refused, as are keys that no document may have. A dumped envelope validates as itself, up
to the order of the members inside its free-form mappings.

Conversions of members whose JSON type is not that of a dump, such as an integer given as a
string, are left out: such a document is refused here. Whether the keys of a free-form
mapping are trimmed like texts is a parameter, and so is the reading of a datetime.
-/

namespace TokenBank

/-- What is left open about the modelling library: whether it trims the keys of free-form
mappings, the text that the datetime of a text dumps to, and the default of a timestamp. -/
structure ModelLibrary where
  trimsKeys : Bool
  datetime : String → Option String
  now : String

namespace ModelLibrary

variable (library : ModelLibrary)

/-- A key of a free-form mapping. -/
def key (key : String) : String := if library.trimsKeys then BaseModel.stripped key else key

/-- A free-form mapping with its keys validated, the last value of those with one key. -/
def mapping (fields : JsonObject) : JsonObject :=
  Canonical.objectOf (fields.map (fun field => (library.key field.1, field.2)))

end ModelLibrary

namespace Validation

/-- A text without the blanks around it. -/
def str : Json → Option String
  | .str text => some (BaseModel.stripped text)
  | _ => none

/-- A text of which something is left. -/
def nonEmptyStr (value : Json) : Option String := (str value).filter (fun text => text ≠ "")

/-- A value or null. -/
def optional {α : Type} (read : Json → Option α) : Json → Option (Option α)
  | .null => some none
  | value => (read value).map some

/-- An integer that is not negative. -/
def nonNegativeInt : Json → Option Nat
  | .int value => if 0 ≤ value then some value.toNat else none
  | _ => none

/-- A truth value. -/
def boolean : Json → Option Bool
  | .bool value => some value
  | _ => none

/-- One of the literals of an enumeration. -/
def literal {α : Type} (literals : List α) (text : α → String) : Json → Option α
  | .str given => literals.find? (fun option => text option = given)
  | _ => none

/-- The items of an array. -/
def listOf {α : Type} (read : Json → Option α) : Json → Option (List α)
  | .arr items => items.mapM read
  | _ => none

/-- A free-form mapping. -/
def mapping (library : ModelLibrary) : Json → Option JsonObject
  | .obj fields => some (library.mapping fields)
  | _ => none

/-- A datetime, as the text it dumps to. -/
def datetime (library : ModelLibrary) : Json → Option String
  | .str text => library.datetime text
  | _ => none

/-- The member of a document under the name of a field. -/
def member (fields : JsonObject) (name : String) : Option Json :=
  (fields.find? (fun field => field.1 = name)).map Prod.snd

/-- A field that has to be there. -/
def required {α : Type} (read : Json → Option α) (fields : JsonObject) (name : String) :
    Option α :=
  (member fields name).bind read

/-- A field with a default. -/
def defaulted {α : Type} (default : α) (read : Json → Option α) (fields : JsonObject)
    (name : String) : Option α :=
  match member fields name with
  | none => some default
  | some value => read value

/-- The members of a document whose keys are allowed, are names of fields, and give the
schema version if there is one. -/
def document (names : List String) : Json → Option JsonObject
  | .obj fields =>
    if BaseModel.hasForbiddenKey (.obj fields) = false ∧
        (∀ field ∈ fields, field.1 = "schema_version" ∨ field.1 ∈ names) ∧
        (defaulted true (fun value => (literal ["p0.v1"] id value).map (fun _ => true)) fields
          "schema_version").isSome then some fields
    else none
  | _ => none

end Validation

/-- The literals of a result status. -/
def ResultEnvelopeStatus.literals : List ResultEnvelopeStatus := [.succeeded, .failed, .quarantined]

/-- The literals of a backend class. -/
def BackendClass.literals : List BackendClass :=
  [.localTool, .localScript, .browserFetch, .localModel, .apiModelGateway, .primaryModelGateway]

/-- The literals of a cost source. -/
def CostSource.literals : List CostSource :=
  [.measured, .estimated, .policyDefault, .zeroInternalPhase0, .notApplicable]

/-- The literals of a cost confidence. -/
def CostConfidence.literals : List CostConfidence := [.low, .medium, .high, .notApplicable]

open Validation

/-- Validate the document of an artifact reference. -/
def ArtifactRef.modelValidate (library : ModelLibrary) (value : Json) : Option ArtifactRef := do
  let fields ← document ["artifact_id", "uri", "media_type", "artifact_hash", "metadata"] value
  let artifactId ← required nonEmptyStr fields "artifact_id"
  let uri ← required nonEmptyStr fields "uri"
  let mediaType ← defaulted "application/octet-stream" nonEmptyStr fields "media_type"
  let artifactHash ← required nonEmptyStr fields "artifact_hash"
  let metadata ← defaulted [] (mapping library) fields "metadata"
  return { artifactId, uri, mediaType, artifactHash, metadata }

/-- Validate the document of a usage record. -/
def UsageRecord.modelValidate (library : ModelLibrary) (value : Json) : Option UsageRecord := do
  let fields ← document ["usage_record_id", "work_unit_id", "attempt_id", "backend_id",
    "input_units", "output_units", "estimated_cost_micros", "actual_cost_micros", "cost_source",
    "cost_confidence", "recorded_at"] value
  let usageRecordId ← required nonEmptyStr fields "usage_record_id"
  let workUnitId ← required nonEmptyStr fields "work_unit_id"
  let attemptId ← required nonEmptyStr fields "attempt_id"
  let backendId ← required nonEmptyStr fields "backend_id"
  let inputUnits ← defaulted 0 nonNegativeInt fields "input_units"
  let outputUnits ← defaulted 0 nonNegativeInt fields "output_units"
  let estimatedCostMicros ← defaulted 0 nonNegativeInt fields "estimated_cost_micros"
  let actualCostMicros ← defaulted 0 nonNegativeInt fields "actual_cost_micros"
  let costSource ← defaulted .notApplicable (literal CostSource.literals CostSource.text) fields
    "cost_source"
  let costConfidence ← defaulted .notApplicable
    (literal CostConfidence.literals CostConfidence.text) fields "cost_confidence"
  let recordedAt ← defaulted library.now (datetime library) fields "recorded_at"
  return { usageRecordId, workUnitId, attemptId, backendId, inputUnits, outputUnits,
           estimatedCostMicros, actualCostMicros, costSource, costConfidence, recordedAt }

/-- Validate the document of a backend error. -/
def BackendError.modelValidate (library : ModelLibrary) (value : Json) : Option BackendError := do
  let fields ← document ["error_code", "error_message", "retryable", "fallbackable",
    "redacted_details", "occurred_at"] value
  let errorCode ← required nonEmptyStr fields "error_code"
  let errorMessage ← required nonEmptyStr fields "error_message"
  let retryable ← defaulted false boolean fields "retryable"
  let fallbackable ← defaulted false boolean fields "fallbackable"
  let redactedDetails ← defaulted [] (mapping library) fields "redacted_details"
  let occurredAt ← defaulted library.now (datetime library) fields "occurred_at"
  return { errorCode, errorMessage, retryable, fallbackable, redactedDetails, occurredAt }

/-- The fields of a result envelope. -/
def WorkUnitResultEnvelope.fieldNames : List String :=
  ["result_envelope_id", "work_unit_id", "run_id", "attempt_id", "assignment_id", "status",
    "backend_id", "backend_class", "provider_id", "model_id", "worker_id", "capacity_node_id",
    "output", "output_hash", "result_hash", "artifact_refs", "usage_records",
    "cost_estimate_micros", "actual_cost_micros", "cost_source", "cost_confidence",
    "redacted_logs", "errors", "backend_error", "started_at", "completed_at", "duration_ms"]

/-- Validate the document of a result envelope. -/
def WorkUnitResultEnvelope.modelValidate (library : ModelLibrary) (value : Json) :
    Option WorkUnitResultEnvelope := do
  let fields ← document WorkUnitResultEnvelope.fieldNames value
  let resultEnvelopeId ← required nonEmptyStr fields "result_envelope_id"
  let workUnitId ← required nonEmptyStr fields "work_unit_id"
  let runId ← required nonEmptyStr fields "run_id"
  let attemptId ← required nonEmptyStr fields "attempt_id"
  let assignmentId ← required nonEmptyStr fields "assignment_id"
  let status ← required (literal ResultEnvelopeStatus.literals ResultEnvelopeStatus.text) fields
    "status"
  let backendId ← defaulted none (optional nonEmptyStr) fields "backend_id"
  let backendClass ← defaulted none (optional (literal BackendClass.literals BackendClass.text))
    fields "backend_class"
  let providerId ← defaulted none (optional str) fields "provider_id"
  let modelId ← defaulted none (optional str) fields "model_id"
  let workerId ← defaulted none (optional str) fields "worker_id"
  let capacityNodeId ← defaulted none (optional str) fields "capacity_node_id"
  let output ← defaulted [] (mapping library) fields "output"
  let outputHash ← required nonEmptyStr fields "output_hash"
  let resultHash ← required nonEmptyStr fields "result_hash"
  let artifactRefs ← defaulted [] (listOf (ArtifactRef.modelValidate library)) fields
    "artifact_refs"
  let usageRecords ← defaulted [] (listOf (UsageRecord.modelValidate library)) fields
    "usage_records"
  let costEstimateMicros ← defaulted 0 nonNegativeInt fields "cost_estimate_micros"
  let actualCostMicros ← defaulted 0 nonNegativeInt fields "actual_cost_micros"
  let costSource ← defaulted .notApplicable (literal CostSource.literals CostSource.text) fields
    "cost_source"
  let costConfidence ← defaulted .notApplicable
    (literal CostConfidence.literals CostConfidence.text) fields "cost_confidence"
  let redactedLogs ← defaulted [] (listOf str) fields "redacted_logs"
  let errors ← defaulted [] (listOf (BackendError.modelValidate library)) fields "errors"
  let backendError ← defaulted none (optional (BackendError.modelValidate library)) fields
    "backend_error"
  let startedAt ← defaulted none (optional (datetime library)) fields "started_at"
  let completedAt ← defaulted library.now (datetime library) fields "completed_at"
  let durationMs ← defaulted none (optional nonNegativeInt) fields "duration_ms"
  return { resultEnvelopeId, workUnitId, runId, attemptId, assignmentId, status, backendId,
           backendClass, providerId, modelId, workerId, capacityNodeId, output, outputHash,
           resultHash, artifactRefs, usageRecords, costEstimateMicros, actualCostMicros,
           costSource, costConfidence, redactedLogs, errors, backendError, startedAt,
           completedAt, durationMs }

end TokenBank
