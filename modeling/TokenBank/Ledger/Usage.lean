import TokenBank.Ledger.Accounts
import TokenBank.Observability.Metrics

/-!
# The ledger of usage

An entry accounts for the newest succeeded result of a work unit: what its usage records add
up to, and what of it is billed. Its id is drawn from the work unit, the result, the report
and the account, so that accounting for these again rewrites the entry; the columns that say
what it is about, and the time it was first recorded at, are left as they are.
-/

namespace TokenBank

/-- A routebook, as far as the ledger names it. -/
structure Routebook where
  routebookId : String
  version : String

/-- Where the figures of an entry come from. -/
inductive UsageLedgerSource : Type
  | estimate
  | providerResponse
  | manual
deriving DecidableEq

/-- The text of a source of figures. -/
def UsageLedgerSource.text : UsageLedgerSource → String
  | .estimate => "estimate"
  | .providerResponse => "provider_response"
  | .manual => "manual"

/-- Where the costs of an entry come from. -/
inductive UsageCostSource : Type
  | estimated
  | providerReported
  | manual
  | notApplicable
deriving DecidableEq

/-- The text of a source of costs. -/
def UsageCostSource.text : UsageCostSource → String
  | .estimated => "estimated"
  | .providerReported => "provider_reported"
  | .manual => "manual"
  | .notApplicable => "not_applicable"

/-- The texts a recommendation may have in an entry. Recipes use the first six of them. -/
def recommendationTexts : List String :=
  ["accept", "accept_with_warning", "retry", "fallback", "reject", "quarantine", "escalate",
    "review"]

/-- An entry of the ledger. -/
structure UsageLedgerEntry where
  usageLedgerEntryId : String
  workUnitId : String
  runId : String
  routePlanId : String
  resultEnvelopeId : String
  verifierReportId : Option String
  accountSnapshotId : Option String
  routebookId : String
  routebookVersion : String
  capacityNodeId : Option String
  capacityProfileId : Option String
  backendId : Option String
  providerId : Option String
  modelId : Option String
  estimatedInputTokens : Nat
  estimatedOutputTokens : Nat
  estimatedTotalTokens : Nat
  reportedInputTokens : Option Nat
  reportedOutputTokens : Option Nat
  reportedTotalTokens : Option Nat
  estimatedCostMicros : Nat
  reportedCostMicros : Option Nat
  billableCostMicros : Nat
  usageSource : UsageLedgerSource
  costSource : UsageCostSource
  verifierRecommendation : Option String
  entryHash : String
  createdAt : String

/-- A number, or null when it is absent. -/
def Json.optionalNat (value : Option Nat) : Json := (value.map Json.nat).getD .null

namespace UsageLedgerEntry

open Validation

/-- The fields of an entry. -/
def fieldNames : List String :=
  ["usage_ledger_entry_id", "work_unit_id", "run_id", "route_plan_id", "result_envelope_id",
    "verifier_report_id", "account_snapshot_id", "routebook_id", "routebook_version",
    "capacity_node_id", "capacity_profile_id", "backend_id", "provider_id", "model_id",
    "estimated_input_tokens", "estimated_output_tokens", "estimated_total_tokens",
    "reported_input_tokens", "reported_output_tokens", "reported_total_tokens",
    "estimated_cost_micros", "reported_cost_micros", "billable_cost_micros", "usage_source",
    "cost_source", "verifier_recommendation", "entry_hash", "created_at"]

/-- Validate the document of an entry. -/
def modelValidate (library : ModelLibrary) (value : Json) : Option UsageLedgerEntry := do
  let fields ← document fieldNames value
  let usageLedgerEntryId ← required nonEmptyStr fields "usage_ledger_entry_id"
  let workUnitId ← required nonEmptyStr fields "work_unit_id"
  let runId ← required nonEmptyStr fields "run_id"
  let routePlanId ← required nonEmptyStr fields "route_plan_id"
  let resultEnvelopeId ← required nonEmptyStr fields "result_envelope_id"
  let verifierReportId ← defaulted none (optional nonEmptyStr) fields "verifier_report_id"
  let accountSnapshotId ← defaulted none (optional nonEmptyStr) fields "account_snapshot_id"
  let routebookId ← defaulted "tokenbank.base" nonEmptyStr fields "routebook_id"
  let routebookVersion ← defaulted "unknown" nonEmptyStr fields "routebook_version"
  let capacityNodeId ← defaulted none (optional nonEmptyStr) fields "capacity_node_id"
  let capacityProfileId ← defaulted none (optional nonEmptyStr) fields "capacity_profile_id"
  let backendId ← defaulted none (optional nonEmptyStr) fields "backend_id"
  let providerId ← defaulted none (optional str) fields "provider_id"
  let modelId ← defaulted none (optional str) fields "model_id"
  let estimatedInputTokens ← defaulted 0 nonNegativeInt fields "estimated_input_tokens"
  let estimatedOutputTokens ← defaulted 0 nonNegativeInt fields "estimated_output_tokens"
  let estimatedTotalTokens ← defaulted 0 nonNegativeInt fields "estimated_total_tokens"
  let reportedInputTokens ← defaulted none (optional nonNegativeInt) fields
    "reported_input_tokens"
  let reportedOutputTokens ← defaulted none (optional nonNegativeInt) fields
    "reported_output_tokens"
  let reportedTotalTokens ← defaulted none (optional nonNegativeInt) fields
    "reported_total_tokens"
  let estimatedCostMicros ← defaulted 0 nonNegativeInt fields "estimated_cost_micros"
  let reportedCostMicros ← defaulted none (optional nonNegativeInt) fields "reported_cost_micros"
  let billableCostMicros ← defaulted 0 nonNegativeInt fields "billable_cost_micros"
  let usageSource ← defaulted .estimate
    (literal [.estimate, .providerResponse, .manual] UsageLedgerSource.text) fields "usage_source"
  let costSource ← defaulted .estimated
    (literal [.estimated, .providerReported, .manual, .notApplicable] UsageCostSource.text) fields
    "cost_source"
  let verifierRecommendation ← defaulted none (optional (literal recommendationTexts id)) fields
    "verifier_recommendation"
  let entryHash ← required nonEmptyStr fields "entry_hash"
  let createdAt ← defaulted library.now (datetime library) fields "created_at"
  return { usageLedgerEntryId, workUnitId, runId, routePlanId, resultEnvelopeId,
           verifierReportId, accountSnapshotId, routebookId, routebookVersion, capacityNodeId,
           capacityProfileId, backendId, providerId, modelId, estimatedInputTokens,
           estimatedOutputTokens, estimatedTotalTokens, reportedInputTokens,
           reportedOutputTokens, reportedTotalTokens, estimatedCostMicros, reportedCostMicros,
           billableCostMicros, usageSource, costSource, verifierRecommendation, entryHash,
           createdAt }

/-- The document of an entry. -/
def modelDump (entry : UsageLedgerEntry) : JsonObject :=
  [schemaVersion, ("usage_ledger_entry_id", .str entry.usageLedgerEntryId),
    ("work_unit_id", .str entry.workUnitId), ("run_id", .str entry.runId),
    ("route_plan_id", .str entry.routePlanId),
    ("result_envelope_id", .str entry.resultEnvelopeId),
    ("verifier_report_id", .optional entry.verifierReportId),
    ("account_snapshot_id", .optional entry.accountSnapshotId),
    ("routebook_id", .str entry.routebookId), ("routebook_version", .str entry.routebookVersion),
    ("capacity_node_id", .optional entry.capacityNodeId),
    ("capacity_profile_id", .optional entry.capacityProfileId),
    ("backend_id", .optional entry.backendId), ("provider_id", .optional entry.providerId),
    ("model_id", .optional entry.modelId),
    ("estimated_input_tokens", .nat entry.estimatedInputTokens),
    ("estimated_output_tokens", .nat entry.estimatedOutputTokens),
    ("estimated_total_tokens", .nat entry.estimatedTotalTokens),
    ("reported_input_tokens", .optionalNat entry.reportedInputTokens),
    ("reported_output_tokens", .optionalNat entry.reportedOutputTokens),
    ("reported_total_tokens", .optionalNat entry.reportedTotalTokens),
    ("estimated_cost_micros", .nat entry.estimatedCostMicros),
    ("reported_cost_micros", .optionalNat entry.reportedCostMicros),
    ("billable_cost_micros", .nat entry.billableCostMicros),
    ("usage_source", .str entry.usageSource.text), ("cost_source", .str entry.costSource.text),
    ("verifier_recommendation", .optional entry.verifierRecommendation),
    ("entry_hash", .str entry.entryHash), ("created_at", .str entry.createdAt)]

end UsageLedgerEntry

namespace Ledger

/-! ## What a result used -/

/-- What the usage records of a result add up to, and whether a provider reported them. -/
structure UsageAmounts where
  inputUnits : Nat
  outputUnits : Nat
  estimatedCost : Nat
  actualCost : Nat
  providerReported : Bool

/-- The usage records of a result that are objects. -/
def usageRecords (resultBody : JsonObject) : Except Raised (List JsonObject) := do
  let items ← Json.iterated (Json.getOr resultBody "usage_records" (.arr []))
  return items.filterMap (fun item => match item with
    | .obj fields => some fields
    | _ => none)

/-- What some records have under a key, summed up. -/
def summed (records : List JsonObject) (key : String) : Nat :=
  (records.map (fun record => Metrics.nonNegativeInt (Json.get record key))).sum

/-- What a result used: of each cost, the greater one of what it says itself and what its
records sum up to. -/
def usageAmounts (resultBody : JsonObject) (records : List JsonObject) : UsageAmounts :=
  let actualCost := max (Metrics.nonNegativeInt (Json.get resultBody "actual_cost_micros"))
    (summed records "actual_cost_micros")
  { inputUnits := summed records "input_units"
    outputUnits := summed records "output_units"
    estimatedCost := max (Metrics.nonNegativeInt (Json.get resultBody "cost_estimate_micros"))
      (summed records "estimated_cost_micros")
    actualCost := actualCost
    providerReported := 0 < actualCost ||
      records.any (fun record => Json.same (Json.get record "cost_source") (.str "measured")) }

namespace UsageAmounts

variable (amounts : UsageAmounts)

/-- A number that only a provider can report. -/
def reported (value : Nat) : Option Nat := if amounts.providerReported then some value else none

/-- What is billed. -/
def billable : Nat :=
  if amounts.providerReported then amounts.actualCost else amounts.estimatedCost

/-- Where the figures come from. -/
def usageSource : UsageLedgerSource :=
  if amounts.providerReported then .providerResponse else .estimate

/-- Where the costs come from. -/
def costSource : UsageCostSource :=
  if amounts.providerReported then .providerReported
  else if 0 < amounts.estimatedCost then .estimated
  else .notApplicable

end UsageAmounts

/-! ## The context of an entry -/

/-- What an entry is made of: the documents of a work unit and of its newest succeeded result,
newest plan and newest report, if there is one. -/
structure CompletedContext where
  workUnitBody : Json
  routePlanId : String
  routeBody : Json
  resultEnvelopeId : String
  resultBody : Json
  verifierReportId : Option String
  verifierBody : Json

/-- The succeeded result of a work unit stored last. -/
def latestSucceeded (plane : LedgerPlane) (workUnitId : String) :
    Option (String × ResultEnvelopeRow) :=
  Store.newest (fun entry => entry.2.createdAt) (plane.db.resultEnvelopes.select (fun _ row =>
    decide (row.workUnitId = workUnitId) && decide (row.status = .succeeded)))

/-- The plan of a work unit stored last. -/
def latestRoutePlan (plane : LedgerPlane) (workUnitId : String) : Option (String × RoutePlanRow) :=
  Store.newest (fun entry => entry.2.createdAt) (plane.results.host.plane.routePlans.select
    (fun _ row => decide (row.workUnitId = workUnitId)))

/-- The report on a result stored last. -/
def latestReport (plane : LedgerPlane) (resultEnvelopeId : String) :
    Option (String × VerifierReportRow) :=
  Store.newest (fun entry => entry.2.createdAt) (plane.results.verifierReports.select
    (fun _ row => decide (row.resultEnvelopeId = resultEnvelopeId)))

/-- The row of a work unit, which has to be there. -/
def requiredWorkUnit (workUnitId : String) (plane : LedgerPlane) :
    Except Raised WorkUnitDetails :=
  requiredRow (plane.results.host.workUnitDetails.find? workUnitId)
    ("work_unit not found: " ++ workUnitId)

/-- The newest succeeded result of a work unit, which has to be there. -/
def requiredResult (workUnitId : String) (plane : LedgerPlane) :
    Except Raised (String × ResultEnvelopeRow) :=
  requiredRow (latestSucceeded plane workUnitId)
    ("succeeded result not found for work_unit: " ++ workUnitId)

/-- The newest plan of a work unit, which has to be there. -/
def requiredRoutePlan (workUnitId : String) (plane : LedgerPlane) :
    Except Raised (String × RoutePlanRow) :=
  requiredRow (latestRoutePlan plane workUnitId) ("route_plan not found for work_unit: " ++ workUnitId)

/-- The document of a report, and null when there is none. -/
def reportBody : Option (String × VerifierReportRow) → Except Raised Json
  | some (_, row) => loads row.body
  | none => .ok .null

/-- The context of the entry of a work unit. -/
def completedContext (workUnitId : String) : Store.Client LedgerPlane Raised CompletedContext := do
  let workUnit ← .fetch (requiredWorkUnit workUnitId)
  let result ← .fetch (requiredResult workUnitId)
  let route ← .fetch (requiredRoutePlan workUnitId)
  let report ← .fetch (fun plane => .ok (latestReport plane result.1))
  let workUnitBody ← .ofExcept (loads workUnit.body)
  let routeBody ← .ofExcept (loads route.2.body)
  let resultBody ← .ofExcept (loads result.2.body)
  let verifierBody ← .ofExcept (reportBody report)
  return { workUnitBody, routePlanId := route.1, routeBody, resultEnvelopeId := result.1,
           resultBody, verifierReportId := report.map Prod.fst, verifierBody }

/-! ## Building an entry -/

/-- The capacity node a result ran on: the one it names, or that of the selected candidate. -/
def resultCapacityNode (resultBody : JsonObject) (routeBody : Json) : Except Raised Json :=
  match Json.nonEmptyText (Json.get resultBody "capacity_node_id") with
  | some capacityNodeId => .ok (.str capacityNodeId)
  | none => do
    let route ← Json.asked routeBody
    let candidates ← Json.iterated (Json.getOr route "candidates" (.arr []))
    let selectedId := Json.get route "selected_candidate_id"
    let selected := candidates.findSome? (fun candidate => match candidate with
      | .obj fields => if Json.same (Json.get fields "route_candidate_id") selectedId then
          some (Json.get fields "capacity_node_id") else none
      | _ => none)
    return selected.getD (Json.get resultBody "capacity_node_id")

/-- The capacity profile of a result, which is drawn from its capacity node and its backend. -/
def capacityProfileId (platform : ResultsPlatform) (resultBody : JsonObject) (routeBody : Json) :
    Except Raised Json := do
  let capacityNodeId ← resultCapacityNode resultBody routeBody
  match Json.nonEmptyText (Json.get resultBody "backend_id") with
  | none => return .null
  | some backendId =>
    return .str ("cp_" ++ platform.shortHash
      (.obj [("capacity_node_id", capacityNodeId), ("backend_id", .str backendId)]))

/-- What the id of an entry is drawn from. -/
def entrySeed (workUnitId : Json) (resultEnvelopeId : String)
    (verifierReportId accountSnapshotId : Option String) : Json :=
  .obj [("work_unit_id", workUnitId), ("result_envelope_id", .str resultEnvelopeId),
    ("verifier_report_id", .optional verifierReportId),
    ("account_snapshot_id", .optional accountSnapshotId)]

/-- What an entry takes from the documents it is made of. -/
structure UsageParts where
  resultBody : JsonObject
  amounts : UsageAmounts
  workUnitId : Json
  runId : Json
  capacityProfileId : Json

/-- What an entry takes from its documents, which must have it. -/
def usageParts (platform : ResultsPlatform) (context : CompletedContext) :
    Except Raised UsageParts := do
  let resultBody ← Json.asked context.resultBody
  let records ← usageRecords resultBody
  let workUnitId ← Json.subscripted context.workUnitBody "work_unit_id"
  let runId ← Json.subscripted context.workUnitBody "run_id"
  let capacityProfileId ← capacityProfileId platform resultBody context.routeBody
  return { resultBody, amounts := usageAmounts resultBody records, workUnitId, runId,
           capacityProfileId }

/-- The members of an entry, without its hash. -/
def usagePayload (platform : ResultsPlatform) (context : CompletedContext) (parts : UsageParts)
    (accountSnapshotId : Option String) (routebook : Routebook) : JsonObject :=
  let amounts := parts.amounts
  [("usage_ledger_entry_id", .str ("ule_" ++ platform.shortHash (entrySeed parts.workUnitId
      context.resultEnvelopeId context.verifierReportId accountSnapshotId))),
    ("work_unit_id", parts.workUnitId), ("run_id", parts.runId),
    ("route_plan_id", .str context.routePlanId),
    ("result_envelope_id", .str context.resultEnvelopeId),
    ("verifier_report_id", .optional context.verifierReportId),
    ("account_snapshot_id", .optional accountSnapshotId),
    ("routebook_id", .str routebook.routebookId), ("routebook_version", .str routebook.version),
    ("capacity_node_id", Json.get parts.resultBody "capacity_node_id"),
    ("capacity_profile_id", parts.capacityProfileId),
    ("backend_id", Json.get parts.resultBody "backend_id"),
    ("provider_id", Json.get parts.resultBody "provider_id"),
    ("model_id", Json.get parts.resultBody "model_id"),
    ("estimated_input_tokens", .nat amounts.inputUnits),
    ("estimated_output_tokens", .nat amounts.outputUnits),
    ("estimated_total_tokens", .nat (amounts.inputUnits + amounts.outputUnits)),
    ("reported_input_tokens", .optionalNat (amounts.reported amounts.inputUnits)),
    ("reported_output_tokens", .optionalNat (amounts.reported amounts.outputUnits)),
    ("reported_total_tokens",
      .optionalNat (amounts.reported (amounts.inputUnits + amounts.outputUnits))),
    ("estimated_cost_micros", .nat amounts.estimatedCost),
    ("reported_cost_micros", .optionalNat (amounts.reported amounts.actualCost)),
    ("billable_cost_micros", .nat amounts.billable),
    ("usage_source", .str amounts.usageSource.text), ("cost_source", .str amounts.costSource.text),
    ("verifier_recommendation", Json.get (Host.jsonObject context.verifierBody) "recommendation")]

/-- The entry of a context. Its hash is that of its members before they are validated. -/
def buildUsageEntry (platform : ResultsPlatform) (now : String) (context : CompletedContext)
    (accountSnapshotId : Option String) (routebook : Routebook) :
    Except Raised UsageLedgerEntry := do
  let parts ← usageParts platform context
  let payload := usagePayload platform context parts accountSnapshotId routebook
  let entryHash := Canonical.canonicalJsonHash platform.scheduler.sha256 (.obj payload)
  match UsageLedgerEntry.modelValidate { platform.library with now := now }
      (.obj (payload ++ [("entry_hash", .str entryHash)])) with
  | some entry => return entry
  | none => .error .validationError

/-! ## Storing and reading entries -/

/-- The row of an entry. -/
def usageRow (entry : UsageLedgerEntry) : UsageLedgerRow :=
  ⟨entry.workUnitId, entry.runId, entry.routePlanId, entry.resultEnvelopeId,
    entry.verifierReportId, entry.accountSnapshotId, entry.usageSource.text,
    entry.costSource.text, entry.billableCostMicros, entry.entryHash, .obj entry.modelDump,
    entry.createdAt⟩

/-- A stored entry, after another one was recorded under its id. -/
def rewriteUsage (entry : UsageLedgerEntry) (row : UsageLedgerRow) : UsageLedgerRow :=
  { row with
    verifierReportId := entry.verifierReportId
    accountSnapshotId := entry.accountSnapshotId
    usageSource := entry.usageSource.text
    costSource := entry.costSource.text
    billableCostMicros := entry.billableCostMicros
    entryHash := entry.entryHash
    body := .obj entry.modelDump }

/-- Write an entry. What it refers to has to be there, of a stored one only what is rewritten. -/
def putUsageEntry (entry : UsageLedgerEntry) (plane : LedgerPlane) : Except Raised LedgerPlane :=
  let rewritten := references plane.results.verifierReports entry.verifierReportId &&
    references plane.accountSnapshots entry.accountSnapshotId
  if Db.bindable entry.billableCostMicros = false then .error .overflowError
  else if (plane.usageLedgerEntries.find? entry.usageLedgerEntryId).isSome then
    if rewritten then
      .ok { plane with
        usageLedgerEntries := plane.usageLedgerEntries.modify entry.usageLedgerEntryId
          (rewriteUsage entry) }
    else .error Db.foreignKeyViolation
  else
    (Db.inserting "usage_ledger_entries.usage_ledger_entry_id"
      ((plane.db.workUnits.find? entry.workUnitId).isSome &&
        decide (entry.routePlanId ∈ plane.db.routePlans) &&
        (plane.db.resultEnvelopes.find? entry.resultEnvelopeId).isSome && rewritten)
      plane.usageLedgerEntries entry.usageLedgerEntryId (usageRow entry)).map
        (fun entries => { plane with usageLedgerEntries := entries })

/-- The event of an entry. -/
def usageEvent (draws : Draws) (entry : UsageLedgerEntry) : OutboxEventInput :=
  { draws.event 0 "tokenbank.ledger" "usage_ledger_entry.recorded"
      ("usage_ledger_entries/" ++ entry.usageLedgerEntryId) (some entry.workUnitId) none none
      [("usage_ledger_entry_id", .str entry.usageLedgerEntryId),
        ("work_unit_id", .str entry.workUnitId), ("run_id", .str entry.runId),
        ("route_plan_id", .str entry.routePlanId),
        ("result_envelope_id", .str entry.resultEnvelopeId),
        ("usage_source", .str entry.usageSource.text),
        ("cost_source", .str entry.costSource.text),
        ("billable_cost_micros", .nat entry.billableCostMicros),
        ("entry_hash", .str entry.entryHash)] with
    runId := some entry.runId }

/-- The transaction of `upsertEntry`. -/
def upsertEntryWrites (draws : Draws) (entry : UsageLedgerEntry) :
    Store.Block LedgerPlane Raised Unit := do
  .put (putUsageEntry entry)
  Host.enqueueIn LedgerPlane.dbPart (usageEvent draws entry) (draws.utcText 1)

/-- An entry as it is answered: its document and its hash, and the time it was recorded at if
it was read from its table. -/
structure UsageAnswer where
  body : Json
  entryHash : String
  createdAt : Option String

/-- Store an entry. -/
def upsertEntry (draws : Draws) (entry : UsageLedgerEntry) :
    Store.Client LedgerPlane Raised UsageAnswer := do
  .transaction Db.nestedTransaction (upsertEntryWrites draws entry)
  return ⟨.obj entry.modelDump, entry.entryHash, none⟩

/-- Account for the newest succeeded result of a work unit. -/
def recordForWorkUnit (platform : ResultsPlatform) (draws : Draws) (workUnitId : String)
    (accountSnapshotId : Option String) (routebook : Except Raised Routebook) :
    Store.Client LedgerPlane Raised UsageAnswer := do
  let context ← completedContext workUnitId
  let routebook ← .ofExcept routebook
  let entry ← .ofExcept
    (buildUsageEntry platform (draws.utcText 0) context accountSnapshotId routebook)
  upsertEntry draws entry

/-- A stored entry as it is answered. -/
def usageAnswer (row : UsageLedgerRow) : Except Raised UsageAnswer := do
  let body ← loads row.body
  return ⟨body, row.entryHash, some row.createdAt⟩

/-- One of two stored entries is listed before the other: the later one, and of two recorded at
one time that with the lesser id. -/
def listedBefore (left right : String × UsageLedgerRow) : Bool :=
  decide (right.2.createdAt < left.2.createdAt) ||
    (decide (left.2.createdAt = right.2.createdAt) && decide (left.1 ≤ right.1))

/-- A filter of a listing selects a value. An empty text is no filter. -/
def filters (filter : Option String) (value : String) : Bool :=
  filter.all (fun wanted => decide (wanted = "") || decide (value = wanted))

/-- The rows a listing reads, in its order. -/
def listedRows (plane : LedgerPlane) (workUnitId runId : Option String) :
    List (String × UsageLedgerRow) :=
  (plane.usageLedgerEntries.select (fun _ row =>
    filters workUnitId row.workUnitId && filters runId row.runId)).mergeSort listedBefore

/-- The entries of a work unit, a run, or both. -/
def listEntries (plane : LedgerPlane) (workUnitId runId : Option String) :
    Except Raised (List UsageAnswer) :=
  (listedRows plane workUnitId runId).mapM (fun entry => usageAnswer entry.2)

/-- The entry under an id. -/
def getEntry (plane : LedgerPlane) (usageLedgerEntryId : String) :
    Except Raised (Option UsageAnswer) :=
  match plane.usageLedgerEntries.find? usageLedgerEntryId with
  | none => .ok none
  | some row => (usageAnswer row).map some

end Ledger

end TokenBank
