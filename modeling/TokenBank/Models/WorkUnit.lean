import TokenBank.Db.Schema
import TokenBank.Models.ResultEnvelope

/-!
# Work units

The validated work unit of a host, and the JSON document it dumps to. Datetimes are kept
as the text they dump to.
-/

namespace TokenBank

/-- The level of a task. -/
inductive TaskLevel : Type
  | l0
  | l1
  | l2
  | l3
deriving DecidableEq

/-- The text of a task level. -/
def TaskLevel.text : TaskLevel → String
  | .l0 => "L0"
  | .l1 => "L1"
  | .l2 => "L2"
  | .l3 => "L3"

/-- How private the data of a work unit is. -/
inductive PrivacyLevel : Type
  | privateData
  | internal
  | sensitive
deriving DecidableEq

/-- The text of a privacy level. -/
def PrivacyLevel.text : PrivacyLevel → String
  | .privateData => "private"
  | .internal => "internal"
  | .sensitive => "sensitive"

/-- A work unit. -/
structure WorkUnit where
  workUnitId : String
  runId : String
  taskType : String
  taskLevel : TaskLevel
  status : WorkUnitStatus := .submitted
  privacyLevel : PrivacyLevel := .privateData
  dataLabels : List String := []
  inputRefs : List ArtifactRef := []
  inlineInput : JsonObject := []
  outputSchemaRef : Option String := none
  maxCostMicros : Option Nat := none
  deadlineMs : Option Nat := none
  createdAt : String
  updatedAt : String

/-- The document of a work unit. -/
def WorkUnit.modelDump (workUnit : WorkUnit) : JsonObject :=
  [schemaVersion, ("work_unit_id", .str workUnit.workUnitId), ("run_id", .str workUnit.runId),
    ("task_type", .str workUnit.taskType), ("task_level", .str workUnit.taskLevel.text),
    ("status", .str workUnit.status.text), ("privacy_level", .str workUnit.privacyLevel.text),
    ("data_labels", .arr (workUnit.dataLabels.map .str)),
    ("input_refs", .arr (workUnit.inputRefs.map ArtifactRef.modelDump)),
    ("inline_input", .obj workUnit.inlineInput),
    ("output_schema_ref", .optional workUnit.outputSchemaRef),
    ("max_cost_micros", (workUnit.maxCostMicros.map Json.nat).getD .null),
    ("deadline_ms", (workUnit.deadlineMs.map Json.nat).getD .null),
    ("created_at", .str workUnit.createdAt), ("updated_at", .str workUnit.updatedAt)]

end TokenBank
