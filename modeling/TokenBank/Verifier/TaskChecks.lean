import TokenBank.Verifier.Checks

/-!
# Task-specific checks

What each task's checker looks at in the output of a result. The output is whatever the
worker submitted: a member may be missing or of any kind, and the lists an output is
checked against are members of the output itself.

A checker reports one passed check, one warning, or failures only.
-/

namespace TokenBank

namespace Checks

/-! ## Checking a URL -/

/-- The output reports a denied address or redirect. -/
def urlDenied (output : JsonObject) : Bool :=
  (Json.get output "private_ip_denied").truthy || (Json.get output "redirect_denied").truthy

/-- The output reports a timeout. -/
def urlTimedOut (output : JsonObject) : Bool := (Json.get output "timed_out").truthy

/-- The output has no status code and is marked as fine. -/
def urlMarkedOk (output : JsonObject) : Bool :=
  match Json.get output "status_code", Json.get output "ok" with
  | .null, .bool true => true
  | _, _ => false

/-- The status code of an output, if it is an integer in the hundred that starts at a bound. -/
def statusWithin (low high : Int) (output : JsonObject) : Option Int :=
  match (Json.get output "status_code").integer with
  | some code => if low ≤ code ∧ code < high then some code else none
  | none => none

/-- Check the output of a URL check. -/
def urlCheck (output : JsonObject) : List VerifierCheckResult :=
  if urlDenied output then
    [failedCheck "url_policy_safety" "private IP or redirect denial must quarantine"]
  else if urlTimedOut output then [failedCheck "url_timeout" "url_check timed out"]
  else if urlMarkedOk output then [passedCheck "url_status" "url_check output marked ok"]
  else match statusWithin 200 300 output with
    | some code => [passedCheck "url_status" ("HTTP " ++ toString code)]
    | none => match statusWithin 400 500 output with
      | some code => [warningCheck "url_status" ("HTTP " ++ toString code)]
      | none => [failedCheck "url_status" "url_check status is not acceptable"]

/-! ## Removing duplicates -/

/-- The output reports that items were merged that should not have been. -/
def overmerged (output : JsonObject) : Bool := (Json.get output "overmerge_detected").truthy

/-- The output has its items and a count of duplicates. -/
def dedupComplete (output : JsonObject) : Bool :=
  Json.has output "unique_items" && (Json.get output "duplicate_count").integer.isSome

/-- Check the output of a removal of duplicates. -/
def dedup (output : JsonObject) : List VerifierCheckResult :=
  if overmerged output then [warningCheck "dedup_overmerge" "dedup overmerge was detected"]
  else if dedupComplete output then [passedCheck "dedup_exact"]
  else [failedCheck "dedup_exact" "dedup output is missing required fields"]

/-! ## Classifying a topic -/

/-- The output lists labels, and its own is not among them. -/
def labelRefused (output : JsonObject) : Bool :=
  match Json.get output "allowed_labels" with
  | .arr labels => !labels.any (fun label => (Json.get output "label").same label)
  | _ => false

/-- The value is a number from zero to one. -/
def inUnitInterval (confidence : Json) : Bool :=
  confidence.isNumber &&
    match confidence.number with
    | some value => decide (0 ≤ value) && decide (value ≤ 1)
    | none => false

/-- The confidence is below the threshold for review. -/
def lowConfidence (confidence : Json) : Bool :=
  match confidence.number with
  | some value => decide (value < Number.nearestDouble (65 / 100))
  | none => false

/-- Check the output of a classification. -/
def topicClassification (output : JsonObject) : List VerifierCheckResult :=
  if labelRefused output then
    [failedCheck "topic_label_enum" "topic label is not in allowed label enum"]
  else if !inUnitInterval (Json.get output "confidence") then
    [failedCheck "topic_confidence_range" "topic confidence must be numeric and between 0 and 1"]
  else if lowConfidence (Json.get output "confidence") then
    [warningCheck "topic_confidence" "topic confidence is low"]
  else [passedCheck "topic_classification"]

/-! ## Extracting claims -/

/-- The claims of an output, if it has a list of some. -/
def listedClaims (output : JsonObject) : Option (List Json) :=
  match Json.get output "claims" with
  | .arr (claim :: rest) => some (claim :: rest)
  | _ => none

/-- The claim types there are. -/
def allClaimTypes : List String := ["factual", "metric", "policy", "product", "other"]

/-- The claim types an output is checked against: those it lists, if it lists any. -/
def allowedClaimTypes (output : JsonObject) : List String :=
  match Json.get output "allowed_claim_types" with
  | .arr types =>
    let allowed := (types.filterMap Json.nonEmptyText).filter (fun type => allClaimTypes.contains type)
    if allowed.isEmpty then allClaimTypes else allowed
  | _ => allClaimTypes

/-- The source ids an output lists. -/
def claimSourceIds (output : JsonObject) : List String :=
  match Json.get output "source_ids" with
  | .arr ids => ids.filterMap Json.nonEmptyText
  | _ => []

/-- The sources a claim refers to. -/
def claimSourceRefs (claim : JsonObject) : List String :=
  let listed := match Json.get claim "source_post_refs" with
    | .arr refs => refs.filterMap Json.nonEmptyText
    | _ => []
  if listed.isEmpty then (Json.get claim "source_ref").nonEmptyText.toList else listed

/-- A source id that is accepted when no list of ids is given. -/
def conventionalSource (ref : String) : Bool :=
  "src_".toList.isPrefixOf ref.toList || "fixture_".toList.isPrefixOf ref.toList

/-- A claim may refer to a source, given the ids that are listed. -/
def sourceAllowed (sourceIds : List String) (ref : String) : Bool :=
  if sourceIds.isEmpty then conventionalSource ref else sourceIds.contains ref

/-- Every source a claim refers to is allowed. -/
def sourceRefsAllowed (sourceRefs sourceIds : List String) : Bool :=
  sourceRefs.all (sourceAllowed sourceIds)

/-- The claim has no text. -/
def claimTextMissing (claim : JsonObject) : Bool :=
  let text := if (Json.get claim "claim_text").truthy then Json.get claim "claim_text"
    else Json.get claim "text"
  text.nonEmptyText.isNone

/-- The claim has a type other than the allowed ones, or none. -/
def claimTypeRefused (output claim : JsonObject) : Bool :=
  match Json.get claim "claim_type" with
  | .str type => !(allowedClaimTypes output).contains type
  | _ => true

/-- Report a check under a condition. -/
def reportIf (condition : Bool) (check : VerifierCheckResult) : List VerifierCheckResult :=
  if condition then [check] else []

/-- The failures of a claim that is an object. -/
def claimFailures (output claim : JsonObject) : List VerifierCheckResult :=
  let sourceRefs := claimSourceRefs claim
  reportIf (claimTextMissing claim) (failedCheck "claim_text" "claim is missing claim_text") ++
    reportIf (!(Json.get claim "entity").truthy)
      (failedCheck "claim_entity" "claim is missing entity") ++
    reportIf (claimTypeRefused output claim)
      (failedCheck "claim_type_enum" "claim_type is not allowed") ++
    reportIf (!inUnitInterval (Json.get claim "confidence"))
      (failedCheck "claim_confidence_range"
        "claim confidence must be numeric and between 0 and 1") ++
    (if sourceRefs.isEmpty then
        [failedCheck "claim_source_ref" "claim is missing source_post_refs"]
      else reportIf (!sourceRefsAllowed sourceRefs (claimSourceIds output))
        (failedCheck "claim_source_ref" "claim source_post_refs are not in input source ids")) ++
    reportIf (Json.get claim "evidence_hint").nonEmptyText.isNone
      (failedCheck "claim_evidence_hint" "claim is missing evidence_hint")

/-- The failures of one entry of the claims. -/
def entryFailures (output : JsonObject) : Json → List VerifierCheckResult
  | .obj claim => claimFailures output claim
  | _ => [failedCheck "claim_entity" "claim entry is not an object"]

/-- Check the output of an extraction of claims. -/
def claimExtraction (output : JsonObject) : List VerifierCheckResult :=
  match listedClaims output with
  | none => [failedCheck "claim_entity" "claim extraction produced no claims"]
  | some claims =>
    let failures := claims.flatMap (entryFailures output)
    if failures.isEmpty then [passedCheck "claim_extraction"] else failures

/-! ## Extracting a webpage -/

/-- The output has an extract that is not empty. -/
def extractedSomething (output : JsonObject) : Bool :=
  match Json.get output "extracted" with
  | .obj (_ :: _) => true
  | _ => false

/-- The output reports a prompt injection. -/
def promptInjected (output : JsonObject) : Bool :=
  (Json.get output "prompt_injection_detected").truthy

/-- Check the output of an extraction of a webpage. -/
def webpageExtraction (output : JsonObject) : List VerifierCheckResult :=
  if !extractedSomething output then
    [failedCheck "webpage_empty" "webpage extraction output is empty"]
  else if promptInjected output then
    [warningCheck "webpage_prompt_injection"
      "prompt injection marker detected in untrusted content"]
  else [passedCheck "webpage_extraction"]

/-- The checks of the task that a recipe is for. -/
def runTaskSpecificChecks (recipeId : String) (envelope : WorkUnitResultEnvelope) :
    List VerifierCheckResult :=
  if recipeId = "url_check_v0" then urlCheck envelope.output
  else if recipeId = "dedup_v0" then dedup envelope.output
  else if recipeId = "topic_classification_v0" then topicClassification envelope.output
  else if recipeId = "claim_extraction_v0" then claimExtraction envelope.output
  else if recipeId = "webpage_extraction_v0" then webpageExtraction envelope.output
  else [failedCheck "recipe_known" ("unknown verifier recipe: " ++ recipeId)]

end Checks

end TokenBank
