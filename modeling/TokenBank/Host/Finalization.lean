import TokenBank.Host.Submission
import TokenBank.Host.Summary
import TokenBank.Models.Validation
import TokenBank.Store.Newest

/-!
# Finalizing a result

A stored result is read back as an envelope, put to the verifier with the work unit, the plan
and the decision stored last for it, and summarised for the host. The report and the summary
are stored in a transaction each. Asked for the summary of a work unit, the host gets the one
stored last; without any, the result stored last is finalized first.
-/

namespace TokenBank

/-! ## Documents -/

/-- The text of a summary's status. -/
def HostResultStatus.text : HostResultStatus → String
  | .succeeded => "succeeded"
  | .failed => "failed"
  | .running => "running"
  | .quarantined => "quarantined"
  | .cancelled => "cancelled"

/-- The text of an audit status. -/
def AuditStatus.text : AuditStatus → String
  | .clean => "clean"
  | .warning => "warning"
  | .quarantined => "quarantined"
  | .unknown => "unknown"

/-- The text of a quarantine status. -/
def QuarantineStatus.text : QuarantineStatus → String
  | .none => "none"
  | .quarantined => "quarantined"
  | .released => "released"

/-- The document of a check's result. -/
def VerifierCheckResult.modelDump (check : VerifierCheckResult) : Json :=
  .obj [schemaVersion, ("name", .str check.name), ("status", .str check.status.text),
    ("message", .str check.message), ("observed_hash", .optional check.observedHash),
    ("metadata", .obj check.metadata)]

/-- The document of a report. -/
def VerifierReport.modelDump (report : VerifierReport) : JsonObject :=
  [schemaVersion, ("verifier_report_id", .str report.verifierReportId),
    ("work_unit_id", .str report.workUnitId),
    ("result_envelope_id", .str report.resultEnvelopeId),
    ("verifier_recipe_id", .str report.verifierRecipeId), ("status", .str report.status.text),
    ("recommendation", .str report.recommendation.text),
    ("checks", .arr (report.checks.map VerifierCheckResult.modelDump)),
    ("output_hash", .str report.outputHash), ("result_hash", .str report.resultHash),
    ("metadata", .obj report.metadata), ("created_at", .str report.createdAt)]

/-- The document of a summary of costs and quality. No baseline and no primary model is ever
set by the host. -/
def HostCostQualitySummary.modelDump (summary : HostCostQualitySummary) : Json :=
  .obj [schemaVersion, ("estimated_cost_micros", .nat summary.estimatedCostMicros),
    ("actual_cost_micros", .nat summary.actualCostMicros),
    ("cost_source", .str summary.costSource.text),
    ("cost_confidence", .str summary.costConfidence.text), ("baseline_mode", .str "none"),
    ("baseline_cost_micros", .null), ("saving_ratio_bps", .null),
    ("primary_model_fallback_used", .bool false), ("primary_model_fallback_cost_micros", .nat 0),
    ("local_zero_cost_caveat", .optional summary.localZeroCostCaveat),
    ("verifier_passed", .bool summary.verifierPassed),
    ("quality_status", .str summary.qualityStatus.text),
    ("audit_status", .str summary.auditStatus.text),
    ("caveats", .arr (summary.caveats.map .str))]

/-- The document of a summary. -/
def HostResultSummary.modelDump (summary : HostResultSummary) : JsonObject :=
  [schemaVersion, ("work_unit_id", .str summary.workUnitId), ("run_id", .str summary.runId),
    ("status", .str summary.status.text), ("task_type", .str summary.taskType),
    ("task_level", .str summary.taskLevel.text),
    ("verifier_status", .str summary.verifierStatus.text),
    ("verifier_recommendation", .str summary.verifierRecommendation.text),
    ("result_summary", .str summary.resultSummary), ("artifact_refs", .arr []),
    ("duration_ms", (summary.durationMs.map Json.nat).getD .null),
    ("backend_class", .str summary.backendClass.text), ("backend_id", .str summary.backendId),
    ("worker_id", .str summary.workerId), ("capacity_node_id", .str summary.capacityNodeId),
    ("cost_summary", summary.costSummary.modelDump),
    ("warnings", .arr (summary.warnings.map .str)), ("caveats", .arr (summary.caveats.map .str)),
    ("fallback_used", .bool false), ("quarantine_status", .str summary.quarantineStatus.text),
    ("retry_count", .nat 0), ("trace_ref", .str summary.traceRef),
    ("generated_at", .str summary.generatedAt)]

/-! ## Tables and libraries -/

/-- A row of `verifier_reports`. -/
structure VerifierReportRow where
  workUnitId : String
  resultEnvelopeId : String
  status : String
  recommendation : String
  body : Json
  createdAt : String

/-- A row of `verifier_check_results`. -/
structure CheckResultRow where
  verifierReportId : String
  status : String
  body : Json
  createdAt : String

/-- A row of `host_result_summaries`. -/
structure HostSummaryRow where
  workUnitId : String
  runId : String
  body : Json
  createdAt : String

/-- The control plane with the tables that a finalization writes. -/
structure ResultsPlane where
  host : HostPlane
  verifierReports : Store.Table String VerifierReportRow
  verifierCheckResults : Store.Table String CheckResultRow
  hostResultSummaries : Store.Table String HostSummaryRow

namespace ResultsPlane

/-- The tables that a submission writes are a part. -/
def hostPart : Store.Part ResultsPlane HostPlane where
  read := host
  replace plane host := { plane with host := host }
  read_replace _ _ := rfl
  replace_read _ := rfl
  replace_replace _ _ _ := rfl

/-- The scheduler's tables. -/
def db (plane : ResultsPlane) : Db := plane.host.db

/-- The scheduler's tables are a part. -/
def dbPart : Store.Part ResultsPlane Db where
  read := db
  replace plane db := { plane with host := plane.host.withDb db }
  read_replace _ _ := rfl
  replace_read _ := rfl
  replace_replace _ _ _ := rfl

end ResultsPlane

/-- The libraries a finalization calls: the digest, the schema validator, and the modelling
library, with its validation of stored documents other than envelopes. Of a validated plan
nothing is used but that it is one. -/
structure ResultsPlatform where
  scheduler : Platform
  validate : JsonObject → Json → Except Raised (Option (List Json))
  library : ModelLibrary
  workUnit : Json → Except Raised WorkUnit
  routePlan : Json → Except Raised Unit
  policyDecision : Json → Except Raised PolicyDecision

namespace ResultsPlatform

/-- The digest and the schema validator. -/
def verifier (platform : ResultsPlatform) : VerifierPlatform :=
  ⟨platform.scheduler.sha256, platform.validate⟩

/-- The first 24 digits of the hash of a value. -/
def shortHash (platform : ResultsPlatform) (value : Json) : String :=
  String.ofList ((Canonical.canonicalJsonHash platform.scheduler.sha256 value).toList.take 24)

/-- The envelope that a stored body is read as. -/
def readEnvelope (platform : ResultsPlatform) (body : Json) : Option WorkUnitResultEnvelope :=
  (Canonical.jsonLoads (Canonical.canonicalJsonDumps body)).bind
    (WorkUnitResultEnvelope.modelValidate platform.library)

end ResultsPlatform

namespace Host

/-- Enqueue an event in a store of which the scheduler's tables are a part. -/
def enqueueIn {τ : Type} (part : Store.Part τ Db) (event : OutboxEventInput) (createdAt : String) :
    Store.Block τ Raised Unit := do
  let sequence ← .fetch (fun store => .ok (Outbox.nextSequence (part.read store).eventOutbox))
  .put (fun store => (Outbox.insertPending event sequence createdAt (part.read store)).map
    (part.replace store))

/-! ## Storing a report -/

/-- Write a report. A new one needs its work unit and its result. -/
def putVerifierReport (report : VerifierReport) (plane : ResultsPlane) :
    Except Raised ResultsPlane :=
  if (plane.verifierReports.find? report.verifierReportId).isSome then
    .ok { plane with
      verifierReports := plane.verifierReports.modify report.verifierReportId (fun row =>
        { row with
          status := report.status.text
          recommendation := report.recommendation.text
          body := .obj report.modelDump }) }
  else
    (Db.inserting "verifier_reports.verifier_report_id"
      ((plane.db.workUnits.find? report.workUnitId).isSome &&
        (plane.db.resultEnvelopes.find? report.resultEnvelopeId).isSome) plane.verifierReports
      report.verifierReportId ⟨report.workUnitId, report.resultEnvelopeId, report.status.text,
        report.recommendation.text, .obj report.modelDump, report.createdAt⟩).map
          (fun verifierReports => { plane with verifierReports := verifierReports })

/-- The id of the result of a check of a report. -/
def checkResultId (platform : ResultsPlatform) (report : VerifierReport) (index : Nat)
    (check : VerifierCheckResult) : String :=
  "vcr_" ++ platform.shortHash (.obj [("verifier_report_id", .str report.verifierReportId),
    ("index", .nat index), ("name", .str check.name)])

/-- Write the result of a check. A new one needs its report. -/
def putCheckResult (platform : ResultsPlatform) (report : VerifierReport) (index : Nat)
    (check : VerifierCheckResult) (plane : ResultsPlane) : Except Raised ResultsPlane :=
  let checkResultId := checkResultId platform report index check
  if (plane.verifierCheckResults.find? checkResultId).isSome then
    .ok { plane with
      verifierCheckResults := plane.verifierCheckResults.modify checkResultId (fun row =>
        { row with status := check.status.text, body := check.modelDump }) }
  else
    (Db.inserting "verifier_check_results.check_result_id"
      (plane.verifierReports.find? report.verifierReportId).isSome plane.verifierCheckResults
      checkResultId ⟨report.verifierReportId, check.status.text, check.modelDump,
        report.createdAt⟩).map
          (fun checkResults => { plane with verifierCheckResults := checkResults })

/-- Write the results of the checks of a report, from an index on. -/
def putCheckResults (platform : ResultsPlatform) (report : VerifierReport) :
    Nat → List VerifierCheckResult → Store.Block ResultsPlane Raised Unit
  | _, [] => return ()
  | index, check :: rest => do
    .put (putCheckResult platform report index check)
    putCheckResults platform report (index + 1) rest

/-- The event of a new report. -/
def verifierReportEvent (draws : Draws) (report : VerifierReport) : OutboxEventInput :=
  draws.event 0 "tokenbank.verifier" "verifier_report.created"
    ("verifier_reports/" ++ report.verifierReportId) (some report.workUnitId) none none
    report.modelDump

/-- The transaction of `persistVerifierReport`. -/
def persistVerifierReportWrites (platform : ResultsPlatform) (draws : Draws)
    (report : VerifierReport) : Store.Block ResultsPlane Raised Unit := do
  .put (putVerifierReport report)
  putCheckResults platform report 0 report.checks
  enqueueIn ResultsPlane.dbPart (verifierReportEvent draws report) (draws.utcText 1)

/-- Store a report and the results of its checks. -/
def persistVerifierReport (platform : ResultsPlatform) (draws : Draws) (report : VerifierReport) :
    Store.Client ResultsPlane Raised Unit :=
  .transaction Db.nestedTransaction (persistVerifierReportWrites platform draws report)

/-! ## Storing a summary -/

/-- The id of a summary. -/
def summaryId (platform : ResultsPlatform) (summary : HostResultSummary) : String :=
  "hrs_" ++ platform.shortHash (.obj [("work_unit_id", .str summary.workUnitId),
    ("trace_ref", .str summary.traceRef),
    ("recommendation", .str summary.verifierRecommendation.text)])

/-- Write a summary. A new one needs its work unit, and an old one keeps the time it was
created at. -/
def putHostResultSummary (platform : ResultsPlatform) (summary : HostResultSummary)
    (plane : ResultsPlane) : Except Raised ResultsPlane :=
  let summaryId := summaryId platform summary
  if (plane.hostResultSummaries.find? summaryId).isSome then
    .ok { plane with
      hostResultSummaries := plane.hostResultSummaries.modify summaryId (fun row =>
        { row with body := .obj summary.modelDump }) }
  else
    (Db.inserting "host_result_summaries.host_result_summary_id"
      (plane.db.workUnits.find? summary.workUnitId).isSome plane.hostResultSummaries summaryId
      ⟨summary.workUnitId, summary.runId, .obj summary.modelDump, summary.generatedAt⟩).map
        (fun summaries => { plane with hostResultSummaries := summaries })

/-- The event of a new summary. -/
def hostResultSummaryEvent (platform : ResultsPlatform) (draws : Draws)
    (summary : HostResultSummary) : OutboxEventInput :=
  { draws.event 2 "tokenbank.host" "host_result_summary.created"
      ("host_result_summaries/" ++ summaryId platform summary) (some summary.workUnitId) none none
      summary.modelDump with runId := some summary.runId }

/-- The transaction of `persistHostResultSummary`. -/
def persistHostResultSummaryWrites (platform : ResultsPlatform) (draws : Draws)
    (summary : HostResultSummary) : Store.Block ResultsPlane Raised Unit := do
  .put (putHostResultSummary platform summary)
  enqueueIn ResultsPlane.dbPart (hostResultSummaryEvent platform draws summary) (draws.utcText 3)

/-- Store a summary. -/
def persistHostResultSummary (platform : ResultsPlatform) (draws : Draws)
    (summary : HostResultSummary) : Store.Client ResultsPlane Raised Unit :=
  .transaction Db.nestedTransaction (persistHostResultSummaryWrites platform draws summary)

/-! ## The context of a result -/

/-- The task types that can be finalized. -/
def supportedDemoTasks : List DemoTask :=
  [.urlCheck, .dedup, .webpageExtraction, .topicClassification, .claimExtraction]

/-- The recipe of a task type. -/
def DemoTask.recipe : DemoTask → VerifierRecipe
  | .urlCheck => .urlCheck
  | .dedup => .dedup
  | .webpageExtraction => .webpageExtraction
  | .topicClassification => .topicClassification
  | .claimExtraction => .claimExtraction

/-- The members of a stored object. -/
def jsonObject : Json → JsonObject
  | .obj fields => fields
  | _ => []

/-- The task type that a stored work unit names, if it can be finalized. -/
def supportedTask (body : Json) : Option DemoTask :=
  match Json.get (jsonObject body) "task_type" with
  | .str taskType => supportedDemoTasks.find? (fun task => task.taskType = taskType)
  | _ => none

/-- What a result is verified against: its work unit, the recipe its plan names and the
decision of the policy. -/
structure SupportedContext where
  workUnit : WorkUnit
  recipe : VerifierRecipe
  policyDecision : PolicyDecision

/-- The context that three stored documents make, if their task can be finalized and the plan
names the task's recipe. -/
def supportedContext (platform : ResultsPlatform) (workUnit routePlan policyDecision : Json) :
    Except Raised (Option SupportedContext) :=
  match supportedTask workUnit with
  | none => .ok none
  | some task =>
    if (Json.str task.recipe.verifierRecipeId).same
        (Json.get (jsonObject routePlan) "verifier_recipe_id") then do
      let workUnit ← platform.workUnit workUnit
      platform.routePlan routePlan
      let policyDecision ← platform.policyDecision policyDecision
      return some ⟨workUnit, task.recipe, policyDecision⟩
    else .ok none

/-- Read the context of a work unit: its own row, and the plan and the decision stored last
for it. -/
def loadSupportedContext (platform : ResultsPlatform) (workUnitId : String) :
    Store.Client ResultsPlane Raised (Option SupportedContext) := do
  let workUnit ← .fetch (fun plane => .ok (plane.host.workUnitDetails.find? workUnitId))
  let routePlan ← .fetch (fun plane => .ok (Store.newest (fun entry => entry.2.createdAt)
    (plane.host.plane.routePlans.select (fun _ row => decide (row.workUnitId = workUnitId)))))
  let policyDecision ← .fetch (fun plane => .ok (Store.newest (fun entry => entry.2.createdAt)
    (plane.host.policyDecisions.select (fun _ row => decide (row.workUnitId = workUnitId)))))
  match workUnit, routePlan, policyDecision with
  | some workUnit, some (_, routePlan), some (_, policyDecision) =>
    .ofExcept (supportedContext platform workUnit.body routePlan.body policyDecision.body)
  | _, _, _ => return none

/-! ## Finalizing -/

/-- Put an envelope to the verifier and the report to the host. -/
def finalizeEnvelope (platform : ResultsPlatform) (draws : Draws)
    (envelope : WorkUnitResultEnvelope) (context : SupportedContext) :
    Store.Client ResultsPlane Raised (VerifierReport × HostResultSummary) := do
  let report ← .ofExcept (VerifierRunner.run platform.verifier context.recipe envelope
    (some context.workUnit.modelDump) (some context.policyDecision.modelDump) (draws.utcText 0))
  persistVerifierReport platform draws report
  let summary ← .ofExcept (buildHostSummary context.workUnit envelope report (draws.utcText 2))
  persistHostResultSummary platform draws summary
  return (report, summary)

/-- Finalize a stored result, unless it is none, no envelope, or of a task that is not
supported. -/
def finalizeUrlCheckResult (platform : ResultsPlatform) (draws : Draws)
    (resultEnvelopeId : String) :
    Store.Client ResultsPlane Raised (Option (VerifierReport × HostResultSummary)) := do
  let row ← .fetch (fun plane => .ok (plane.db.resultEnvelopes.find? resultEnvelopeId))
  match row.bind (fun row => platform.readEnvelope row.body) with
  | none => return none
  | some envelope =>
    let context ← loadSupportedContext platform envelope.workUnitId
    match context with
    | none => return none
    | some context =>
      let finalized ← finalizeEnvelope platform draws envelope context
      return some finalized

/-- The summary of a work unit stored last. -/
def latestSummary (plane : ResultsPlane) (workUnitId : String) : Option (String × HostSummaryRow) :=
  Store.newest (fun entry => entry.2.createdAt)
    (plane.hostResultSummaries.select (fun _ row => decide (row.workUnitId = workUnitId)))

/-- The result of a work unit stored last. -/
def latestResult (db : Db) (workUnitId : String) : Option (String × ResultEnvelopeRow) :=
  Store.newest (fun entry => entry.2.createdAt)
    (db.resultEnvelopes.select (fun _ row => decide (row.workUnitId = workUnitId)))

/-- The document a host gets for a work unit: the summary stored last, or that of the result
stored last once it is finalized. -/
def getHostResultSummary (platform : ResultsPlatform) (draws : Draws) (workUnitId : String) :
    Store.Client ResultsPlane Raised (Option Json) := do
  let stored ← .fetch (fun plane => .ok (latestSummary plane workUnitId))
  match stored with
  | some (_, row) => return some row.body
  | none =>
    let result ← .fetch (fun plane => .ok (latestResult plane.db workUnitId))
    match result with
    | none => return none
    | some (resultEnvelopeId, _) =>
      let finalized ← finalizeUrlCheckResult platform draws resultEnvelopeId
      return finalized.map (fun finalized => .obj finalized.2.modelDump)

end Host

end TokenBank
