import TokenBank.Verifier.TaskChecks

/-!
# Running a recipe

The runner makes the common checks and the task's own, and decides by a cascade over the
names of the checks that failed or need review: the first finding that applies names what
the recipe recommends. Nothing in the cascade looks at the status an envelope reports.
-/

namespace TokenBank

/-- A verifier's report on a result. -/
structure VerifierReport where
  verifierReportId : String
  workUnitId : String
  resultEnvelopeId : String
  verifierRecipeId : String
  status : VerifierStatus
  recommendation : VerifierRecommendation
  checks : List VerifierCheckResult
  outputHash : String
  resultHash : String
  metadata : JsonObject
  createdAt : String

namespace VerifierRunner

/-- The names of the checks with a status. -/
def namesWith (status : VerifierStatus) (checks : List VerifierCheckResult) : List String :=
  (checks.filter (fun check => check.status = status)).map VerifierCheckResult.name

/-- The part of the cascade that concerns a task. -/
def taskRecommendation (recipe : VerifierRecipe) (failedNames warningNames : List String) :
    Option VerifierRecommendation :=
  if "url_policy_safety" ∈ failedNames then
    some (recipe.recommendation "private_ip_or_redirect" .quarantine)
  else if "url_timeout" ∈ failedNames then some (recipe.recommendation "timeout" .retry)
  else if "url_status" ∈ warningNames then
    some (recipe.recommendation "http_4xx" .acceptWithWarning)
  else if "url_status" ∈ failedNames then some (recipe.recommendation "default_failure" .reject)
  else if "dedup_overmerge" ∈ warningNames then
    some (recipe.recommendation "overmerge" .acceptWithWarning)
  else if "dedup_exact" ∈ failedNames then some (recipe.recommendation "default_failure" .reject)
  else if "topic_label_enum" ∈ failedNames then some (recipe.recommendation "label_not_enum" .retry)
  else if "topic_confidence_range" ∈ failedNames then
    some (recipe.recommendation "schema_invalid" .retry)
  else if "topic_confidence" ∈ warningNames then
    some (recipe.recommendation "low_confidence" .acceptWithWarning)
  else if "claim_source_ref" ∈ failedNames then
    some (recipe.recommendation "missing_source_ref" .fallback)
  else if "claim_entity" ∈ failedNames then some (recipe.recommendation "missing_entity" .retry)
  else if "claim_text" ∈ failedNames ∨ "claim_type_enum" ∈ failedNames ∨
      "claim_confidence_range" ∈ failedNames ∨ "claim_evidence_hint" ∈ failedNames then
    some (recipe.recommendation "schema_invalid" .retry)
  else if "webpage_empty" ∈ failedNames then some (recipe.recommendation "empty" .fallback)
  else if "webpage_prompt_injection" ∈ warningNames then
    some (recipe.recommendation "prompt_injection" .acceptWithWarning)
  else none

/-- The whole cascade. -/
def cascade (recipe : VerifierRecipe) (failedNames warningNames : List String) :
    VerifierRecommendation :=
  if "secret_redaction" ∈ failedNames then recipe.recommendation "secret_detected" .quarantine
  else if "output_hash_present" ∈ failedNames then
    recipe.recommendation "output_hash_missing" .reject
  else if "output_hash_valid" ∈ failedNames ∨ "result_hash_valid" ∈ failedNames then
    recipe.recommendation "hash_mismatch" .quarantine
  else if "output_schema" ∈ failedNames then recipe.recommendation "schema_invalid" .retry
  else if "policy_linkage" ∈ failedNames then .quarantine
  else (taskRecommendation recipe failedNames warningNames).getD .accept

/-- What a recipe recommends given the checks. -/
def recommendation (recipe : VerifierRecipe) (checks : List VerifierCheckResult) :
    VerifierRecommendation :=
  cascade recipe (namesWith .failed checks) (namesWith .needsReview checks)

/-- The status of several checks together. -/
def aggregateStatus (checks : List VerifierCheckResult) : VerifierStatus :=
  if checks.isEmpty then .skipped
  else if checks.any (fun check => check.status = .failed) then .failed
  else if checks.any (fun check => check.status = .needsReview) then .needsReview
  else if checks.all (fun check => check.status = .skipped) then .skipped
  else .passed

/-- The status of the checks with one of some names. -/
def statusForGroup (checks : List VerifierCheckResult) (names : List String) : VerifierStatus :=
  aggregateStatus (checks.filter (fun check => names.contains check.name))

/-- What a report says about itself. -/
def metadata (recipe : VerifierRecipe) (checks deterministicChecks : List VerifierCheckResult)
    (recommendation : VerifierRecommendation) : JsonObject :=
  [("safety_status", .str (statusForGroup checks ["secret_redaction"]).text),
    ("schema_status", .str (statusForGroup checks ["output_schema"]).text),
    ("policy_status", .str (statusForGroup checks ["policy_linkage"]).text),
    ("deterministic_status", .str (aggregateStatus deterministicChecks).text),
    ("blocking_failures", .arr ((namesWith .failed checks).map .str)),
    ("warning_failures", .arr ((namesWith .needsReview checks).map .str)),
    ("sampled_audit_required", .bool false),
    ("sampled_audit_rate_bps", .nat recipe.sampledAuditRateBps),
    ("llm_judge_used", .bool false), ("quarantine_auto_fallback", .bool false),
    ("recommendation", .str recommendation.text)]

/-- The status of a report with a recommendation. -/
def statusForRecommendation : VerifierRecommendation → VerifierStatus
  | .accept => .passed
  | .acceptWithWarning => .needsReview
  | _ => .failed

/-- The id of a report. -/
def reportId (platform : VerifierPlatform) (recipeId : String) (envelope : WorkUnitResultEnvelope)
    (checks : List VerifierCheckResult) (recommendation : VerifierRecommendation) : String :=
  "vr_" ++ String.ofList ((Canonical.canonicalJsonHash platform.sha256
    (.obj [("recipe_id", .str recipeId), ("result_envelope_id", .str envelope.resultEnvelopeId),
      ("recommendation", .str recommendation.text),
      ("check_names", .arr (checks.map (fun check => .str check.name)))])).toList.take 24)

/-- Build a report. -/
def buildVerifierReport (platform : VerifierPlatform) (recipeId : String)
    (envelope : WorkUnitResultEnvelope) (checks : List VerifierCheckResult)
    (recommendation : VerifierRecommendation) (metadata : JsonObject) (createdAt : String) :
    VerifierReport where
  verifierReportId := reportId platform recipeId envelope checks recommendation
  workUnitId := envelope.workUnitId
  resultEnvelopeId := envelope.resultEnvelopeId
  verifierRecipeId := recipeId
  status := statusForRecommendation recommendation
  recommendation := recommendation
  checks := checks
  outputHash := if envelope.outputHash = "" then "missing_output_hash" else envelope.outputHash
  resultHash := if envelope.resultHash = "" then "missing_result_hash" else envelope.resultHash
  metadata := metadata
  createdAt := createdAt

/-- The common checks, given the outcome of the schema check. -/
def commonChecks (platform : VerifierPlatform) (envelope : WorkUnitResultEnvelope)
    (policyDecision : Option JsonObject) (schemaChecks : List VerifierCheckResult) :
    List VerifierCheckResult :=
  Checks.checkEnvelopeIntegrity envelope ++ Checks.checkHashes platform envelope ++
    Checks.checkPolicyLinkage envelope policyDecision ++ Checks.checkSecretRedaction envelope ++
    schemaChecks

/-- Run a recipe on a result, for a work unit and a policy decision. -/
def run (platform : VerifierPlatform) (recipe : VerifierRecipe)
    (envelope : WorkUnitResultEnvelope) (workUnit policyDecision : Option JsonObject)
    (createdAt : String) : Except Raised VerifierReport := do
  let schemaChecks ← Checks.checkOutputSchema platform envelope recipe workUnit
  let common := commonChecks platform envelope policyDecision schemaChecks
  let deterministicChecks := Checks.runTaskSpecificChecks recipe.verifierRecipeId envelope
  let checks := common ++ deterministicChecks
  let recommended := recommendation recipe checks
  return buildVerifierReport platform recipe.verifierRecipeId envelope checks recommended
    (metadata recipe checks deterministicChecks recommended) createdAt

end VerifierRunner

end TokenBank
