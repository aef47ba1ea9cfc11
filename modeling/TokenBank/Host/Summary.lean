import TokenBank.Models.WorkUnit
import TokenBank.Verifier.Runner

/-!
# The summary a host sees

A result is summarised from its envelope and the verifier's report. The status of the
summary follows the recommendation: whatever was accepted has succeeded, and the status
the envelope reports counts only when it is quarantined.
-/

namespace TokenBank

/-- The status of a summary. -/
inductive HostResultStatus : Type
  | succeeded
  | failed
  | running
  | quarantined
  | cancelled
deriving DecidableEq

/-- The outcome of an audit. -/
inductive AuditStatus : Type
  | clean
  | warning
  | quarantined
  | unknown
deriving DecidableEq

/-- Whether a result is in quarantine. -/
inductive QuarantineStatus : Type
  | none
  | quarantined
  | released
deriving DecidableEq

/-- Costs and quality, as a host sees them. -/
structure HostCostQualitySummary where
  estimatedCostMicros : Nat
  actualCostMicros : Nat
  costSource : CostSource
  costConfidence : CostConfidence
  localZeroCostCaveat : Option String
  verifierPassed : Bool
  qualityStatus : VerifierStatus
  auditStatus : AuditStatus
  caveats : List String

/-- A summary of a result. -/
structure HostResultSummary where
  workUnitId : String
  runId : String
  status : HostResultStatus
  taskType : String
  taskLevel : TaskLevel
  verifierStatus : VerifierStatus
  verifierRecommendation : VerifierRecommendation
  resultSummary : String
  durationMs : Option Nat
  backendClass : BackendClass
  backendId : String
  workerId : String
  capacityNodeId : String
  costSummary : HostCostQualitySummary
  warnings : List String
  caveats : List String
  quarantineStatus : QuarantineStatus
  traceRef : String
  generatedAt : String

namespace Host

/-- The status of the summary of a result. -/
def summaryStatus (envelope : WorkUnitResultEnvelope) (report : VerifierReport) :
    HostResultStatus :=
  if report.recommendation = .quarantine ∨ envelope.status = .quarantined then .quarantined
  else if report.recommendation = .accept ∨ report.recommendation = .acceptWithWarning then
    .succeeded
  else .failed

/-- The decimal digits of a number of hundredths. -/
def hundredths (value : Nat) : String :=
  let fraction := toString (value % 100)
  toString (value / 100) ++ "." ++ (if value % 100 < 10 then "0" ++ fraction else fraction)

/-- The text of a number with two decimals. A sign in the text of a float is kept, and an
integer that no double is near raises an exception. -/
def twoDecimals (confidence : Json) : Except Raised String :=
  match confidence.number with
  | none => .error .typeError
  | some value =>
    let rounded := (Number.roundHalfEven (|Number.nearestDouble value| * 100)).natAbs
    let negative := match confidence with
      | .float text => "-".toList.isPrefixOf text.toList
      | _ => value < 0
    let largest : ℚ := (2 - 2 ^ (-52 : Int)) * 2 ^ (1023 : Int)
    if largest < |Number.nearestDouble value| then .error .overflowError
    else .ok ((if negative then "-" else "") ++ hundredths rounded)

/-- The length of a value that has one. -/
def size : Json → Except Raised Nat
  | .str text => .ok text.length
  | .arr items => .ok items.length
  | .obj fields => .ok fields.length
  | _ => .error .typeError

/-- The first of two values, unless it counts as false. -/
def orElse (first second : Json) : Json := if first.truthy then first else second

/-- The summary of an extracted webpage. -/
def webpageSummary (output extracted : JsonObject) : String :=
  match (Json.get extracted "title").nonEmptyText with
  | some title => "webpage_extraction accepted " ++ title
  | none =>
    match (orElse (Json.get extracted "url") (Json.get output "url")).nonEmptyText with
    | some url => "webpage_extraction accepted " ++ url
    | none => "webpage_extraction accepted extracted content"

/-- The summary of a result that is neither a list of claims, nor a label, nor a webpage. -/
def plainSummary (output : JsonObject) : Except Raised String :=
  match Json.has output "unique_items", (Json.get output "duplicate_count").integer with
  | true, some _ => do
    let unique ← size (Json.get output "unique_items")
    let duplicates := match Json.get output "duplicate_count" with
      | .bool true => "True"
      | .bool false => "False"
      | value => toString (value.integer.getD 0)
    return "dedup accepted " ++ toString unique ++ " unique items with " ++ duplicates ++
      " duplicates"
  | _, _ =>
    match Json.get output "ok", orElse (Json.get output "url") (Json.get output "final_url") with
    | .bool true, .str url => .ok ("url_check accepted " ++ url)
    | _, .str url => .ok ("url_check completed with warnings for " ++ url)
    | _, _ => .ok "url_check completed"

/-- The summary of an output that is no list of claims. -/
def labelOrOtherSummary (output : JsonObject) : Except Raised String :=
  match Json.get output "label", (Json.get output "confidence").number with
  | .str label, some _ => do
    let confidence ← twoDecimals (Json.get output "confidence")
    return "topic_classification accepted " ++ label ++ " at " ++ confidence
  | _, _ =>
    match Json.get output "extracted" with
    | .obj extracted => .ok (webpageSummary output extracted)
    | _ => plainSummary output

/-- A sentence about an output. -/
def resultSummary (output : JsonObject) : Except Raised String :=
  match Json.get output "claims" with
  | .arr (_ :: rest) =>
    .ok ("claim_extraction accepted " ++ toString (rest.length + 1) ++ " claim(s)")
  | _ => labelOrOtherSummary output

/-- White space, as the modelling library strips it from the ends of a text. -/
def whiteSpace (character : Char) : Bool :=
  Redaction.blank character && !(0x1C ≤ character.toNat && character.toNat ≤ 0x1F)

/-- A text without white space at its ends. -/
def stripped (text : String) : String :=
  String.ofList ((text.toList.dropWhile whiteSpace).reverse.dropWhile whiteSpace).reverse

/-- The backend class of a task when the envelope has none. -/
def defaultBackendClass (taskType : String) : BackendClass :=
  if taskType = "topic_classification" ∨ taskType = "claim_extraction" then .apiModelGateway
  else if taskType = "webpage_extraction" then .browserFetch
  else if taskType = "dedup" then .localScript
  else .localTool

/-- The backend id of a task when the envelope has none. -/
def defaultBackendId (taskType : String) : String :=
  if taskType = "claim_extraction" then "backend:claim_extraction:api_gateway:v0"
  else if taskType = "topic_classification" then "backend:topic_classification:api_gateway:v0"
  else if taskType = "webpage_extraction" then "backend:webpage_extraction:browser_fetch:v0"
  else if taskType = "dedup" then "backend:dedup:local_script:v0"
  else "backend:url_check:v0"

/-- A text, or a default when it is absent or empty. -/
def textOr (text : Option String) (default : String) : String :=
  match text with
  | some "" => default
  | some text => text
  | none => default

/-- What a host is told about costs that were not accounted for. -/
def caveats (workUnit : WorkUnit) (envelope : WorkUnitResultEnvelope) : List String :=
  if envelope.costSource = .zeroInternalPhase0 then
    ["Phase 0 local " ++ workUnit.taskType ++ " uses zero_internal_phase0 cost accounting."]
  else []

/-- The messages of the checks that need review. -/
def warnings (report : VerifierReport) : List String :=
  (report.checks.filter (fun check => check.status = .needsReview)).map VerifierCheckResult.message

/-- The audit status of a result. -/
def auditStatus (report : VerifierReport) : AuditStatus :=
  if report.recommendation = .quarantine then .quarantined
  else if (warnings report).isEmpty then .clean
  else .warning

/-- The quality status of a result. -/
def qualityStatus (report : VerifierReport) : VerifierStatus :=
  if report.status = .passed then .passed
  else if report.status = .needsReview then .needsReview
  else .failed

/-- Build the summary of a result. -/
def buildHostSummary (workUnit : WorkUnit) (envelope : WorkUnitResultEnvelope)
    (report : VerifierReport) (generatedAt : String) : Except Raised HostResultSummary := do
  let summary ← resultSummary envelope.output
  return {
    workUnitId := workUnit.workUnitId
    runId := workUnit.runId
    status := summaryStatus envelope report
    taskType := workUnit.taskType
    taskLevel := workUnit.taskLevel
    verifierStatus := report.status
    verifierRecommendation := report.recommendation
    resultSummary := stripped summary
    durationMs := envelope.durationMs
    backendClass := envelope.backendClass.getD (defaultBackendClass workUnit.taskType)
    backendId := textOr envelope.backendId (defaultBackendId workUnit.taskType)
    workerId := textOr envelope.workerId "unknown_worker"
    capacityNodeId := textOr envelope.capacityNodeId "unknown_capacity_node"
    costSummary := {
      estimatedCostMicros := envelope.costEstimateMicros
      actualCostMicros := envelope.actualCostMicros
      costSource := envelope.costSource
      costConfidence := envelope.costConfidence
      localZeroCostCaveat := (caveats workUnit envelope).head?
      verifierPassed := decide (report.status = .passed ∨ report.status = .needsReview)
      qualityStatus := qualityStatus report
      auditStatus := auditStatus report
      caveats := caveats workUnit envelope }
    warnings := warnings report
    caveats := caveats workUnit envelope
    quarantineStatus := if report.recommendation = .quarantine then .quarantined else .none
    traceRef := envelope.resultEnvelopeId
    generatedAt := generatedAt }

/-- A confidence is written with two decimals. -/
example : twoDecimals (.float "0.875") = .ok "0.88" ∧ twoDecimals (.int 1) = .ok "1.00" := by
  decide +kernel

/-- A summary has the status computed from the envelope and the report. -/
theorem summary_status (workUnit : WorkUnit) (envelope : WorkUnitResultEnvelope)
    (report : VerifierReport) (generatedAt : String) (summary : HostResultSummary)
    (built : buildHostSummary workUnit envelope report generatedAt = .ok summary) :
    summary.status = summaryStatus envelope report := by
  cases written : resultSummary envelope.output with
  | error error =>
    simp only [buildHostSummary, written] at built
    cases built
  | ok text =>
    simp only [buildHostSummary, written] at built
    have same_summary := Except.ok.inj built
    subst same_summary
    rfl

/-- The summary of a result has succeeded only if the result was accepted. -/
theorem summaryStatus_succeeded (envelope : WorkUnitResultEnvelope) (report : VerifierReport) :
    summaryStatus envelope report = .succeeded ↔ envelope.status ≠ .quarantined ∧
      (report.recommendation = .accept ∨ report.recommendation = .acceptWithWarning) := by
  unfold summaryStatus
  split_ifs with quarantined accepted
  · simp only [false_iff, not_and, not_or]
    rcases quarantined with recommended | reported
    · simp [recommended]
    · simp [reported]
  · simp only [not_or] at quarantined
    simp [quarantined.2, accepted]
  · simp [accepted]

end Host

end TokenBank
