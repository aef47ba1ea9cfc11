import TokenBank.Backends.Execution
import TokenBank.Order.Duplicates

/-!
# The local script backend

The hash of a script must be among those allowed, if one is given. The items of the input are
deduplicated: those whose canonical JSON has been hashed to a digest seen before are counted
and left out.
-/

namespace TokenBank

namespace LocalScriptAdapter

/-- The constraints give a script hash that is not among those they allow. -/
def hashDenied (constraints : JsonObject) : Except Raised Bool := do
  let allowedHashes ← (Json.getOr constraints "allowed_script_hashes" (.arr [])).asSet
  let scriptHash := Json.get constraints "script_hash"
  if scriptHash.truthy then return !Json.among allowedHashes (← scriptHash.hashed)
  else return false

/-- The items seen, kept and repeated, by the hash of their canonical JSON. -/
def dedup (sha256 : String → String) (items : List Json) : Duplicates.Scan Json String :=
  Duplicates.scan (Canonical.canonicalJsonHash sha256) items

/-- The output for a list of items. -/
def dedupOutput (sha256 : String → String) (items : List Json) : JsonObject :=
  [("ok", .bool true), ("tool", .str "dedup"), ("unique_items", .arr (dedup sha256 items).kept),
    ("duplicate_count", .nat (dedup sha256 items).repeated),
    ("local_script_scaffold", .bool true)]

/-- Execute a dedup. -/
def execute (platform : BackendPlatform) (clock : ExecutionClock) (context : ExecutionContext) :
    Except Raised WorkUnitResultEnvelope := do
  let usage ← Backends.makeUsageRecord platform.sha256 clock.recordedAt context.workUnitId
    context.attemptId context.backendId .zeroInternalPhase0 .high
  if ← hashDenied context.effectiveConstraints then
    let error ← Backends.normalizeBackendError platform.library clock.occurredAt
      "local_script.hash_not_allowed" "local_script scaffold denied unlisted script hash"
      false false [("script_hash", Json.get context.effectiveConstraints "script_hash")]
    Adapter.buildResultEnvelope platform.library platform.sha256 context.toBackendExecutionContext
      [("ok", .bool false), ("reason", .str "script_hash_not_allowed")] [usage] clock.startedAt
      clock.completedAt "failed" [error]
      ["dedup local_script hash allowlist denied execution"]
  else
    match Json.getOr context.inputPayload "items" (.arr []) with
    | .arr items =>
      Adapter.buildResultEnvelope platform.library platform.sha256
        context.toBackendExecutionContext (dedupOutput platform.sha256 items) [usage]
        clock.startedAt clock.completedAt "succeeded" []
        ["dedup local_script scaffold completed"]
    | _ =>
      let error ← Backends.normalizeBackendError platform.library clock.occurredAt
        "local_script.bad_input" "dedup expects an items list" false false
      Adapter.buildResultEnvelope platform.library platform.sha256
        context.toBackendExecutionContext
        [("ok", .bool false), ("reason", .str "items_must_be_list")] [usage] clock.startedAt
        clock.completedAt "failed" [error]

end LocalScriptAdapter

end TokenBank
