import TokenBank.Core.Json

/-!
# Verifier recipes

A recipe names the schema its task's outputs must satisfy and maps findings to
recommendations. The five recipes that are shipped are transcribed here.
-/

namespace TokenBank

/-- The outcome of a check, and of a whole report. -/
inductive VerifierStatus : Type
  | passed
  | failed
  | needsReview
  | skipped
deriving DecidableEq

/-- The text of a status. -/
def VerifierStatus.text : VerifierStatus → String
  | .passed => "passed"
  | .failed => "failed"
  | .needsReview => "needs_review"
  | .skipped => "skipped"

/-- What a verifier recommends to do with a result. -/
inductive VerifierRecommendation : Type
  | accept
  | acceptWithWarning
  | retry
  | fallback
  | reject
  | quarantine
deriving DecidableEq

/-- The text of a recommendation. -/
def VerifierRecommendation.text : VerifierRecommendation → String
  | .accept => "accept"
  | .acceptWithWarning => "accept_with_warning"
  | .retry => "retry"
  | .fallback => "fallback"
  | .reject => "reject"
  | .quarantine => "quarantine"

/-- A verifier recipe. -/
structure VerifierRecipe where
  verifierRecipeId : String
  taskType : String
  outputSchema : JsonObject
  recommendations : List (String × VerifierRecommendation)
  sampledAuditRateBps : Nat := 0

namespace VerifierRecipe

/-- What the recipe recommends for a finding. -/
def recommendation (recipe : VerifierRecipe) (key : String) (default : VerifierRecommendation) :
    VerifierRecommendation :=
  ((recipe.recommendations.find? (fun entry => entry.1 = key)).map Prod.snd).getD default

/-- The schema of a value of one type. -/
def typed (type : String) : Json := .obj [("type", .str type)]

/-- The schema of an array whose items satisfy a schema. -/
def arrayOf (items : Json) : Json := .obj [("type", .str "array"), ("items", items)]

/-- The schema of an object with required and described members. -/
def objectWith (required : List String) (properties : JsonObject) : JsonObject :=
  [("type", .str "object"), ("required", .arr (required.map .str)), ("properties", .obj properties)]

/-- The recipe `claim_extraction_v0`. -/
def claimExtraction : VerifierRecipe where
  verifierRecipeId := "claim_extraction_v0"
  taskType := "claim_extraction"
  outputSchema := objectWith ["claims"]
    [("claims", arrayOf (.obj [("type", .str "object"), ("properties", .obj
        [("claim_text", typed "string"), ("entity", typed "string"),
          ("claim_type", .obj [("type", .str "string"), ("enum", .arr [.str "factual",
            .str "metric", .str "policy", .str "product", .str "other"])]),
          ("confidence", .obj [("type", .str "number"), ("minimum", .int 0), ("maximum", .int 1)]),
          ("source_post_refs", arrayOf (typed "string")),
          ("evidence_hint", typed "string")])])),
      ("source_ids", arrayOf (typed "string")),
      ("allowed_claim_types", arrayOf (typed "string"))]
  recommendations := [("hash_mismatch", .quarantine), ("output_hash_missing", .reject),
    ("schema_invalid", .retry), ("secret_detected", .quarantine), ("missing_entity", .retry),
    ("missing_source_ref", .fallback), ("valid_claims", .accept), ("default_failure", .reject)]

/-- The recipe `dedup_v0`. -/
def dedup : VerifierRecipe where
  verifierRecipeId := "dedup_v0"
  taskType := "dedup"
  outputSchema := objectWith ["unique_items", "duplicate_count"]
    [("unique_items", typed "array"), ("duplicate_count", typed "integer"),
      ("overmerge_detected", typed "boolean")]
  recommendations := [("hash_mismatch", .quarantine), ("output_hash_missing", .reject),
    ("schema_invalid", .reject), ("secret_detected", .quarantine), ("exact", .accept),
    ("overmerge", .acceptWithWarning), ("default_failure", .reject)]

/-- The recipe `topic_classification_v0`. -/
def topicClassification : VerifierRecipe where
  verifierRecipeId := "topic_classification_v0"
  taskType := "topic_classification"
  outputSchema := objectWith ["label", "confidence"]
    [("label", typed "string"), ("confidence", typed "number"),
      ("allowed_labels", arrayOf (typed "string"))]
  recommendations := [("hash_mismatch", .quarantine), ("output_hash_missing", .reject),
    ("schema_invalid", .retry), ("secret_detected", .quarantine), ("label_not_enum", .retry),
    ("low_confidence", .acceptWithWarning), ("valid_label", .accept), ("default_failure", .reject)]

/-- The recipe `url_check_v0`. -/
def urlCheck : VerifierRecipe where
  verifierRecipeId := "url_check_v0"
  taskType := "url_check"
  outputSchema := objectWith ["ok"]
    [("ok", typed "boolean"), ("status_code", typed "integer"), ("final_url", typed "string"),
      ("timed_out", typed "boolean"), ("private_ip_denied", typed "boolean"),
      ("redirect_denied", typed "boolean")]
  recommendations := [("hash_mismatch", .quarantine), ("output_hash_missing", .reject),
    ("schema_invalid", .retry), ("secret_detected", .quarantine), ("timeout", .retry),
    ("private_ip_or_redirect", .quarantine), ("http_2xx", .accept),
    ("http_4xx", .acceptWithWarning), ("default_failure", .reject)]

/-- The recipe `webpage_extraction_v0`. -/
def webpageExtraction : VerifierRecipe where
  verifierRecipeId := "webpage_extraction_v0"
  taskType := "webpage_extraction"
  outputSchema := objectWith ["extracted"]
    [("extracted", typed "object"), ("prompt_injection_detected", typed "boolean"),
      ("untrusted_content", typed "boolean")]
  recommendations := [("hash_mismatch", .quarantine), ("output_hash_missing", .reject),
    ("schema_invalid", .retry), ("secret_detected", .quarantine), ("empty", .fallback),
    ("prompt_injection", .acceptWithWarning), ("extracted", .accept), ("default_failure", .reject)]

/-- The recipes that are shipped, by file name. -/
def shipped : List VerifierRecipe :=
  [claimExtraction, dedup, topicClassification, urlCheck, webpageExtraction]

/-- The shipped recipe with an id. -/
def loadVerifierRecipe (verifierRecipeId : String) : Option VerifierRecipe :=
  shipped.find? (fun recipe => recipe.verifierRecipeId = verifierRecipeId)

end VerifierRecipe

end TokenBank
