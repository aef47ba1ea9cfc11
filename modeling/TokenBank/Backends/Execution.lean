import TokenBank.Backends.Adapter
import TokenBank.Core.Collections
import TokenBank.Models.Revalidation

/-!
# Executing backend work

An adapter is given the context of an execution. It makes a record of what it uses, whose id
is a digest of the record, and builds an envelope. A failure becomes an error with a code;
the details of an error keep their keys, but a value under a key that names a secret, and a
text with the mark of one, is replaced.
-/

namespace TokenBank

/-- The context of an execution. -/
structure ExecutionContext extends BackendExecutionContext where
  taskType : String
  inputPayload : JsonObject := []
  effectiveConstraints : JsonObject := []
  providerToken : Option String := none

/-- What an execution reads off the clock: when it starts, when its envelope is built, and
when its usage and its error are recorded. -/
structure ExecutionClock where
  startedAt : Datetime
  completedAt : Datetime
  recordedAt : String
  occurredAt : String

/-- What every adapter is given: the modelling library and the hash function, whose digests
are not blank. -/
structure BackendPlatform where
  library : ModelLibrary
  sha256 : String → String
  named : ∀ text, Named (sha256 text)

namespace Backends

/-! ## Usage -/

/-- What the id of a usage record is the digest of. -/
def usageIdentity (workUnitId attemptId backendId : String) (inputUnits outputUnits
    estimatedCostMicros actualCostMicros : Nat) (costSource : CostSource)
    (costConfidence : CostConfidence) : Json :=
  .obj [("work_unit_id", .str workUnitId), ("attempt_id", .str attemptId),
    ("backend_id", .str backendId), ("input_units", .nat inputUnits),
    ("output_units", .nat outputUnits), ("estimated_cost_micros", .nat estimatedCostMicros),
    ("actual_cost_micros", .nat actualCostMicros), ("cost_source", .str costSource.text),
    ("cost_confidence", .str costConfidence.text)]

/-- Make a usage record. -/
def makeUsageRecord (sha256 : String → String) (recordedAt workUnitId attemptId backendId : String)
    (costSource : CostSource := .notApplicable) (costConfidence : CostConfidence := .notApplicable)
    (estimatedCostMicros actualCostMicros : Nat := 0) (inputUnits outputUnits : Nat := 0) :
    Except Raised UsageRecord := do
  let identity := usageIdentity workUnitId attemptId backendId inputUnits outputUnits
    estimatedCostMicros actualCostMicros costSource costConfidence
  let usageRecordId ← BaseModel.nonEmptyStr
    ("usage_" ++ String.ofList ((Canonical.canonicalJsonHash sha256 identity).toList.take 24))
  let workUnitId ← BaseModel.nonEmptyStr workUnitId
  let attemptId ← BaseModel.nonEmptyStr attemptId
  let backendId ← BaseModel.nonEmptyStr backendId
  return { usageRecordId, workUnitId, attemptId, backendId, inputUnits, outputUnits,
           estimatedCostMicros, actualCostMicros, costSource, costConfidence, recordedAt }

/-! ## Errors -/

/-- Marks of a secret inside a text. -/
def secretValueMarkers : List String := ["Bearer ", "sk-", "tbk_", "TOKENBANK_"]

/-- Substrings of a key that names a secret. -/
def secretKeyFragments : List String := ["credential", "secret", "token"]

/-- The key names a secret. -/
def namesSecret (key : String) : Bool :=
  secretKeyFragments.any (fun fragment =>
    Redaction.occursIn fragment.toList (key.toList.flatMap Redaction.lowerCharacter))

/-- The text has the mark of a secret. -/
def marksSecret (text : String) : Bool :=
  secretValueMarkers.any (fun marker => Redaction.occursIn marker.toList text.toList)

mutual
/-- Replace what looks like a secret in a value. -/
def redactBackendValue : Json → Json
  | .obj fields => .obj (redactBackendFields fields)
  | .arr items => .arr (redactBackendItems items)
  | .str text => .str (if marksSecret text then "[REDACTED_SECRET]" else text)
  | value => value

/-- Replace what looks like a secret in the items of an array. -/
def redactBackendItems : List Json → List Json
  | [] => []
  | item :: rest => redactBackendValue item :: redactBackendItems rest

/-- Replace the values under the keys that name a secret, and what looks like one in others. -/
def redactBackendFields : List (String × Json) → JsonObject
  | [] => []
  | (key, value) :: rest =>
    (key, if namesSecret key then .str "[REDACTED_SECRET]" else redactBackendValue value) ::
      redactBackendFields rest
end

/-- Make an error of a backend. -/
def normalizeBackendError (library : ModelLibrary) (occurredAt errorCode errorMessage : String)
    (retryable fallbackable : Bool) (details : JsonObject := []) :
    Except Raised BackendError := do
  let redactedDetails := redactBackendFields details
  BaseModel.rejectForbiddenKeys (.obj redactedDetails)
  return { errorCode := ← BaseModel.nonEmptyStr errorCode
           errorMessage := ← BaseModel.nonEmptyStr errorMessage
           retryable
           fallbackable
           redactedDetails := library.mapping redactedDetails
           occurredAt }

end Backends

namespace ExecutionContext

/-- The ids that every envelope and every usage record must have. -/
def Identified (context : ExecutionContext) : Prop :=
  ∀ id ∈ [context.workUnitId, context.runId, context.attemptId, context.assignmentId,
    context.backendId], BaseModel.stripped id ≠ ""
  deriving Decidable

end ExecutionContext

end TokenBank
