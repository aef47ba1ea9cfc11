import TokenBank.Store.Transactions
import TokenBank.Verifier.Runner

/-!
# What decides a verdict

Each check fails exactly under a condition on what was submitted: the envelope, the
schema, the policy decision, the output. Every failure of a shipped recipe has its place
in the cascade, and a task reports a pass, a warning, or failures, never a mixture. So a
result is accepted exactly when none of the conditions applies to it.
-/

namespace TokenBank

namespace Verdict

open Checks VerifierRunner

/-! ## Conditions on what was submitted -/

/-- The document of the envelope holds a secret. -/
def Leaking (envelope : WorkUnitResultEnvelope) : Prop :=
  secretPaths "$" envelope.modelDump ≠ []

/-- One of the envelope's hashes is not that of its content. -/
def Tampered (platform : VerifierPlatform) (envelope : WorkUnitResultEnvelope) : Prop :=
  expectedOutputHash platform envelope ≠ envelope.outputHash ∨
    expectedEnvelopeResultHash platform envelope ≠ envelope.resultHash

/-- The output violates the configured schema. -/
def Nonconforming (platform : VerifierPlatform) (recipe : VerifierRecipe)
    (envelope : WorkUnitResultEnvelope) (workUnit : Option JsonObject) : Prop :=
  configuredSchema recipe workUnit ≠ [] ∧ ∃ path,
    platform.validate (configuredSchema recipe workUnit) (.obj envelope.output) = .ok (some path)

/-- A policy decision was given that is about another work unit or does not approve. -/
def Unlinked (envelope : WorkUnitResultEnvelope) (policyDecision : Option JsonObject) : Prop :=
  ∃ decision, policyDecision = some decision ∧
    (Json.get decision "work_unit_id" ≠ .str envelope.workUnitId ∨
      Json.get decision "decision" ≠ .str "approved")

/-- A URL check that reports a denied address or redirect. -/
def Denied (recipe : VerifierRecipe) (envelope : WorkUnitResultEnvelope) : Prop :=
  recipe.verifierRecipeId = "url_check_v0" ∧ urlDenied envelope.output = true

/-- An entry of the claims that has one of the faults that are looked for. -/
def claimFaulty (output : JsonObject) : Json → Bool
  | .obj claim =>
    claimTextMissing claim || !(Json.get claim "entity").truthy || claimTypeRefused output claim ||
      !inUnitInterval (Json.get claim "confidence") || (claimSourceRefs claim).isEmpty ||
      !sourceRefsAllowed (claimSourceRefs claim) (claimSourceIds output) ||
      (Json.get claim "evidence_hint").nonEmptyText.isNone
  | _ => true

/-- The output is one that the task's checker refuses. -/
def outputRefused (recipeId : String) (output : JsonObject) : Bool :=
  if recipeId = "url_check_v0" then
    urlDenied output || urlTimedOut output ||
      !(urlMarkedOk output || (statusWithin 200 300 output).isSome ||
        (statusWithin 400 500 output).isSome)
  else if recipeId = "dedup_v0" then !(overmerged output || dedupComplete output)
  else if recipeId = "topic_classification_v0" then
    labelRefused output || !inUnitInterval (Json.get output "confidence")
  else if recipeId = "claim_extraction_v0" then
    ((listedClaims output).all (fun claims => claims.any (claimFaulty output)))
  else if recipeId = "webpage_extraction_v0" then !extractedSomething output
  else true

/-- Something about the submitted result, other than the status it reports, is refused. -/
def Refused (platform : VerifierPlatform) (recipe : VerifierRecipe)
    (envelope : WorkUnitResultEnvelope) (workUnit policyDecision : Option JsonObject) : Prop :=
  Leaking envelope ∨ envelope.outputHash = "" ∨ Tampered platform envelope ∨
    Nonconforming platform recipe envelope workUnit ∨ Unlinked envelope policyDecision ∨
    outputRefused recipe.verifierRecipeId envelope.output = true

/-! ## Names of checks -/

/-- A name is among those with a status when some check has both. -/
theorem mem_namesWith (status : VerifierStatus) (checks : List VerifierCheckResult)
    (name : String) : name ∈ namesWith status checks ↔
      ∃ check ∈ checks, check.status = status ∧ check.name = name := by
  simp [namesWith, and_assoc]

/-- The names of two lists of checks are those of either. -/
theorem namesWith_append (status : VerifierStatus) (first second : List VerifierCheckResult) :
    namesWith status (first ++ second) = namesWith status first ++ namesWith status second := by
  simp [namesWith]

/-- No check has a status when no name does. -/
theorem namesWith_nil_iff (status : VerifierStatus) (checks : List VerifierCheckResult) :
    namesWith status checks = [] ↔ ∀ check ∈ checks, check.status ≠ status := by
  simp [namesWith, List.filter_eq_nil_iff]

/-- The name of a passed check is not among the failed ones. -/
theorem failed_passedCheck (name message : String) (metadata : JsonObject) :
    namesWith .failed [passedCheck name message metadata] = [] := rfl

/-- The name of a check that was not made is not among the failed ones. -/
theorem failed_skippedCheck (name message : String) :
    namesWith .failed [skippedCheck name message] = [] := rfl

/-- The name of a failed check is among the failed ones. -/
theorem failed_failedCheck (name message : String) (hash : Option String)
    (metadata : JsonObject) :
    namesWith .failed [failedCheck name message hash metadata] = [name] := rfl

/-! ## The common checks -/

/-- The integrity check fails under its own name. -/
theorem mem_failed_integrity (envelope : WorkUnitResultEnvelope) (name : String) :
    name ∈ namesWith .failed (checkEnvelopeIntegrity envelope) ↔
      (∃ entry ∈ requiredIdentifiers envelope, entry.2 = "") ∧
        name = "result_envelope_integrity" := by
  simp only [checkEnvelopeIntegrity]
  split
  · next complete =>
    have none_missing := List.filter_eq_nil_iff.mp (List.isEmpty_iff.mp complete)
    simp only [failed_passedCheck, List.not_mem_nil, false_iff, not_and]
    rintro ⟨entry, member, missing⟩
    exact absurd (decide_eq_true missing) (none_missing entry member)
  · next incomplete =>
    have some_missing : ∃ entry ∈ requiredIdentifiers envelope, entry.2 = "" := by
      by_contra complete
      push Not at complete
      apply incomplete
      rw [List.isEmpty_iff, List.filter_eq_nil_iff]
      intro entry member missing
      exact complete entry member (of_decide_eq_true missing)
    simp only [failed_failedCheck, List.mem_singleton, some_missing, true_and]

/-- One hash fails under the name it is checked under. -/
theorem mem_failed_hash (checked message expected observed name : String) :
    name ∈ namesWith .failed [checkHash checked message expected observed] ↔
      expected ≠ observed ∧ name = checked := by
  unfold checkHash
  split
  · next same => simp [failed_passedCheck, same]
  · next other => simp [failed_failedCheck, other]

/-- The hashes fail as missing, or each under its own name. -/
theorem mem_failed_hashes (platform : VerifierPlatform) (envelope : WorkUnitResultEnvelope)
    (name : String) : name ∈ namesWith .failed (checkHashes platform envelope) ↔
      (envelope.outputHash = "" ∧ name = "output_hash_present") ∨
        (envelope.outputHash ≠ "" ∧
          ((expectedOutputHash platform envelope ≠ envelope.outputHash ∧
              name = "output_hash_valid") ∨
            (expectedEnvelopeResultHash platform envelope ≠ envelope.resultHash ∧
              name = "result_hash_valid"))) := by
  unfold checkHashes
  split
  · next missing => simp [failed_failedCheck, missing]
  · next present =>
    rw [← List.singleton_append, namesWith_append, List.mem_append, mem_failed_hash,
      mem_failed_hash]
    simp only [present, false_and, false_or, ne_eq, not_false_eq_true, true_and]

/-- The policy linkage fails under its own name. -/
theorem mem_failed_linkage (envelope : WorkUnitResultEnvelope)
    (policyDecision : Option JsonObject) (name : String) :
    name ∈ namesWith .failed (checkPolicyLinkage envelope policyDecision) ↔
      Unlinked envelope policyDecision ∧ name = "policy_linkage" := by
  cases policyDecision with
  | none => simp [checkPolicyLinkage, failed_skippedCheck, Unlinked]
  | some decision =>
    simp only [checkPolicyLinkage, Unlinked, Option.some.injEq, exists_eq_left']
    split
    · next other =>
      rw [Bool.not_eq_true', ← Bool.not_eq_true, Json.same_str] at other
      simp [failed_failedCheck, other]
    · next same =>
      rw [Bool.not_eq_true', Bool.not_eq_false, Json.same_str] at same
      split
      · next denied =>
        rw [Bool.not_eq_true', ← Bool.not_eq_true, Json.same_str] at denied
        simp [failed_failedCheck, denied]
      · next approved =>
        rw [Bool.not_eq_true', Bool.not_eq_false, Json.same_str] at approved
        simp [failed_passedCheck, same, approved]

/-- The search for secrets fails under its own name. -/
theorem mem_failed_secrets (envelope : WorkUnitResultEnvelope) (name : String) :
    name ∈ namesWith .failed (checkSecretRedaction envelope) ↔
      Leaking envelope ∧ name = "secret_redaction" := by
  simp only [checkSecretRedaction, Leaking]
  split
  · next clean => simp [failed_passedCheck, List.isEmpty_iff.mp clean]
  · next leaking =>
    rw [List.isEmpty_iff] at leaking
    simp [failed_failedCheck, leaking]

/-- The schema check fails under its own name. -/
theorem mem_failed_schema (platform : VerifierPlatform) (envelope : WorkUnitResultEnvelope)
    (recipe : VerifierRecipe) (workUnit : Option JsonObject)
    (schemaChecks : List VerifierCheckResult)
    (checked : checkOutputSchema platform envelope recipe workUnit = .ok schemaChecks)
    (name : String) : name ∈ namesWith .failed schemaChecks ↔
      Nonconforming platform recipe envelope workUnit ∧ name = "output_schema" := by
  simp only [checkOutputSchema] at checked
  split at checked
  · next unconfigured =>
    have same_checks := Except.ok.inj checked
    subst same_checks
    simp [failed_skippedCheck, Nonconforming, List.isEmpty_iff.mp unconfigured]
  · next configured =>
    rw [List.isEmpty_iff] at configured
    obtain ⟨violation, answered, reported⟩ := (Store.map_ok_iff _ _ _).mp checked
    subst reported
    cases violation with
    | none => simp [failed_passedCheck, Nonconforming, answered]
    | some path => simp [failed_failedCheck, Nonconforming, answered, configured]

/-- The failed names of the common checks. -/
theorem mem_failed_common (platform : VerifierPlatform) (envelope : WorkUnitResultEnvelope)
    (recipe : VerifierRecipe) (workUnit policyDecision : Option JsonObject)
    (schemaChecks : List VerifierCheckResult)
    (checked : checkOutputSchema platform envelope recipe workUnit = .ok schemaChecks)
    (name : String) :
    name ∈ namesWith .failed (commonChecks platform envelope policyDecision schemaChecks) ↔
      ((∃ entry ∈ requiredIdentifiers envelope, entry.2 = "") ∧
          name = "result_envelope_integrity") ∨
        ((envelope.outputHash = "" ∧ name = "output_hash_present") ∨
          (envelope.outputHash ≠ "" ∧
            ((expectedOutputHash platform envelope ≠ envelope.outputHash ∧
                name = "output_hash_valid") ∨
              (expectedEnvelopeResultHash platform envelope ≠ envelope.resultHash ∧
                name = "result_hash_valid")))) ∨
        (Unlinked envelope policyDecision ∧ name = "policy_linkage") ∨
        (Leaking envelope ∧ name = "secret_redaction") ∨
        (Nonconforming platform recipe envelope workUnit ∧ name = "output_schema") := by
  simp only [commonChecks, namesWith_append, List.mem_append, mem_failed_integrity,
    mem_failed_hashes, mem_failed_linkage, mem_failed_secrets,
    mem_failed_schema platform envelope recipe workUnit schemaChecks checked, or_assoc]

/-- The common checks never need review. -/
theorem warned_common (platform : VerifierPlatform) (envelope : WorkUnitResultEnvelope)
    (recipe : VerifierRecipe) (workUnit policyDecision : Option JsonObject)
    (schemaChecks : List VerifierCheckResult)
    (checked : checkOutputSchema platform envelope recipe workUnit = .ok schemaChecks) :
    namesWith .needsReview (commonChecks platform envelope policyDecision schemaChecks) = [] := by
  have integrity : namesWith .needsReview (checkEnvelopeIntegrity envelope) = [] := by
    simp only [checkEnvelopeIntegrity]
    split <;> rfl
  have hashes : namesWith .needsReview (checkHashes platform envelope) = [] := by
    simp only [checkHashes, checkHash]
    split_ifs <;> rfl
  have linkage : namesWith .needsReview (checkPolicyLinkage envelope policyDecision) = [] := by
    cases policyDecision with
    | none => rfl
    | some decision =>
      simp only [checkPolicyLinkage]
      split_ifs <;> rfl
  have secrets : namesWith .needsReview (checkSecretRedaction envelope) = [] := by
    simp only [checkSecretRedaction]
    split <;> rfl
  have schema : namesWith .needsReview schemaChecks = [] := by
    simp only [checkOutputSchema] at checked
    split at checked
    · have same_checks := Except.ok.inj checked
      subst same_checks
      rfl
    · obtain ⟨violation, answered, reported⟩ := (Store.map_ok_iff _ _ _).mp checked
      subst reported
      cases violation <;> rfl
  simp only [commonChecks, namesWith_append, integrity, hashes, linkage, secrets, schema,
    List.append_nil]

/-! ## The checks of a task -/

/-- The names of the checks a task can fail. -/
def taskFailures : List String :=
  ["url_policy_safety", "url_timeout", "url_status", "dedup_exact", "topic_label_enum",
    "topic_confidence_range", "claim_source_ref", "claim_entity", "claim_text", "claim_type_enum",
    "claim_confidence_range", "claim_evidence_hint", "webpage_empty"]

/-- The names of the checks of a task that can need review. -/
def taskWarnings : List String :=
  ["url_status", "dedup_overmerge", "topic_confidence", "webpage_prompt_injection"]

/-- What a task's checker reports: one passed check, one warning, or failures. -/
inductive TaskOutcome : List VerifierCheckResult → Prop
  | passed (name message : String) : TaskOutcome [passedCheck name message]
  | warned (name message : String) (known : name ∈ taskWarnings) :
      TaskOutcome [warningCheck name message]
  | failed (checks : List VerifierCheckResult) (some : checks ≠ [])
      (known : ∀ check ∈ checks, check.status = .failed ∧ check.name ∈ taskFailures) :
      TaskOutcome checks

/-- One failure of a task. -/
theorem TaskOutcome.failure (name message : String) (known : name ∈ taskFailures) :
    TaskOutcome [failedCheck name message] := by
  apply TaskOutcome.failed _ (List.cons_ne_nil _ _)
  intro check member
  have same_check := List.mem_singleton.mp member
  subst same_check
  exact ⟨rfl, known⟩

/-- The outcome of a URL check. -/
theorem outcome_urlCheck (output : JsonObject) : TaskOutcome (urlCheck output) := by
  unfold urlCheck
  split
  · exact .failure _ _ (by decide)
  · split
    · exact .failure _ _ (by decide)
    · split
      · exact .passed _ _
      · split
        · exact .passed _ _
        · split
          · exact .warned _ _ (by decide)
          · exact .failure _ _ (by decide)

/-- The outcome of a removal of duplicates. -/
theorem outcome_dedup (output : JsonObject) : TaskOutcome (dedup output) := by
  unfold dedup
  split
  · exact .warned _ _ (by decide)
  · split
    · exact .passed _ _
    · exact .failure _ _ (by decide)

/-- The outcome of a classification. -/
theorem outcome_topicClassification (output : JsonObject) :
    TaskOutcome (topicClassification output) := by
  unfold topicClassification
  split
  · exact .failure _ _ (by decide)
  · split
    · exact .failure _ _ (by decide)
    · split
      · exact .warned _ _ (by decide)
      · exact .passed _ _

/-- The outcome of an extraction of a webpage. -/
theorem outcome_webpageExtraction (output : JsonObject) :
    TaskOutcome (webpageExtraction output) := by
  unfold webpageExtraction
  split
  · exact .failure _ _ (by decide)
  · split
    · exact .warned _ _ (by decide)
    · exact .passed _ _

/-- What is reported under a condition is reported under that condition. -/
theorem mem_reportIf (condition : Bool) (reported check : VerifierCheckResult) :
    check ∈ reportIf condition reported ↔ condition = true ∧ check = reported := by
  unfold reportIf
  split
  · next holds => simp [holds]
  · next fails => simp [fails]

/-- Nothing is reported exactly when the condition does not hold. -/
theorem reportIf_nil_iff (condition : Bool) (reported : VerifierCheckResult) :
    reportIf condition reported = [] ↔ condition = false := by
  cases condition <;> simp [reportIf]

/-- The names of the checks an extraction of claims can fail. -/
def claimFailureNames : List String :=
  ["claim_source_ref", "claim_entity", "claim_text", "claim_type_enum", "claim_confidence_range",
    "claim_evidence_hint"]

/-- They are names of task failures. -/
theorem claimFailureNames_known : ∀ name ∈ claimFailureNames, name ∈ taskFailures := by decide

/-- Every failure of an entry of the claims is one of those. -/
theorem failures_known (output : JsonObject) (entry : Json) : ∀ check ∈ entryFailures output entry,
    check.status = .failed ∧ check.name ∈ claimFailureNames := by
  have named : ∀ (condition : Bool) (name message : String), name ∈ claimFailureNames →
      ∀ check ∈ reportIf condition (failedCheck name message),
        check.status = .failed ∧ check.name ∈ claimFailureNames := by
    intro condition name message known check member
    obtain ⟨_, same_check⟩ := (mem_reportIf condition _ check).mp member
    subst same_check
    exact ⟨rfl, known⟩
  intro check member
  cases entry with
  | obj claim =>
    simp only [entryFailures, claimFailures, List.mem_append] at member
    rcases member with ((((text | entity) | type) | confidence) | source) | hint
    · exact named _ _ _ (by decide) check text
    · exact named _ _ _ (by decide) check entity
    · exact named _ _ _ (by decide) check type
    · exact named _ _ _ (by decide) check confidence
    · split at source
      · have same_check := List.mem_singleton.mp source
        subst same_check
        exact ⟨rfl, by decide⟩
      · exact named _ _ _ (by decide) check source
    · exact named _ _ _ (by decide) check hint
  | _ =>
    have same_check := List.mem_singleton.mp member
    subst same_check
    exact ⟨rfl, by decide⟩

/-- An entry of the claims has no failures exactly when it is not faulty. -/
theorem entryFailures_nil_iff (output : JsonObject) (entry : Json) :
    entryFailures output entry = [] ↔ claimFaulty output entry = false := by
  cases entry with
  | obj claim =>
    simp only [entryFailures, claimFailures, claimFaulty, List.append_eq_nil_iff,
      reportIf_nil_iff, Bool.or_eq_false_iff]
    cases listed : (claimSourceRefs claim).isEmpty with
    | true => simp
    | false => simp [reportIf_nil_iff, and_assoc]
  | _ => simp [entryFailures, claimFaulty]

/-- The outcome of an extraction of claims. -/
theorem outcome_claimExtraction (output : JsonObject) : TaskOutcome (claimExtraction output) := by
  unfold claimExtraction
  split
  · exact .failure _ _ (by decide)
  · next claims listed =>
    simp only
    split
    · exact .passed _ _
    · next faulty =>
      apply TaskOutcome.failed _ (fun none => faulty (List.isEmpty_iff.mpr none))
      intro check member
      obtain ⟨entry, inClaims, reported⟩ := List.mem_flatMap.mp member
      obtain ⟨failed, known⟩ := failures_known output entry check reported
      exact ⟨failed, claimFailureNames_known check.name known⟩

/-- The outcome of the checks of a shipped recipe. -/
theorem outcome_task (recipe : VerifierRecipe) (shipped : recipe ∈ VerifierRecipe.shipped)
    (envelope : WorkUnitResultEnvelope) :
    TaskOutcome (runTaskSpecificChecks recipe.verifierRecipeId envelope) := by
  simp only [VerifierRecipe.shipped, List.mem_cons, List.not_mem_nil, or_false] at shipped
  rcases shipped with same | same | same | same | same
  · subst same
    exact outcome_claimExtraction envelope.output
  · subst same
    exact outcome_dedup envelope.output
  · subst same
    exact outcome_topicClassification envelope.output
  · subst same
    exact outcome_urlCheck envelope.output
  · subst same
    exact outcome_webpageExtraction envelope.output

/-- A task fails some check exactly when its checker refuses the output. -/
theorem outputRefused_iff (recipe : VerifierRecipe) (shipped : recipe ∈ VerifierRecipe.shipped)
    (envelope : WorkUnitResultEnvelope) :
    outputRefused recipe.verifierRecipeId envelope.output = true ↔
      namesWith .failed (runTaskSpecificChecks recipe.verifierRecipeId envelope) ≠ [] := by
  simp only [VerifierRecipe.shipped, List.mem_cons, List.not_mem_nil, or_false] at shipped
  rcases shipped with same | same | same | same | same
  · subst same
    change (listedClaims envelope.output).all
      (fun claims => claims.any (claimFaulty envelope.output)) = true ↔
        namesWith .failed (claimExtraction envelope.output) ≠ []
    unfold claimExtraction
    cases listed : listedClaims envelope.output with
    | none => simp [failed_failedCheck]
    | some claims =>
      have faulty : (claims.flatMap (entryFailures envelope.output)).isEmpty = true ↔
          claims.any (claimFaulty envelope.output) = false := by
        simp only [List.isEmpty_iff, List.flatMap_eq_nil_iff, entryFailures_nil_iff,
          List.any_eq_false, Bool.not_eq_true]
      simp only [Option.all_some]
      split
      · next clean => simp [failed_passedCheck, faulty.mp clean]
      · next failing =>
        have some_faulty : claims.any (claimFaulty envelope.output) = true := by
          rw [← Bool.not_eq_false]
          exact fun none => failing (faulty.mpr none)
        simp only [some_faulty, true_iff]
        intro none
        rw [namesWith_nil_iff] at none
        obtain ⟨check, reported⟩ := List.exists_mem_of_ne_nil _ (mt List.isEmpty_iff.mpr failing)
        obtain ⟨entry, inClaims, inEntry⟩ := List.mem_flatMap.mp reported
        exact none check reported (failures_known _ entry check inEntry).1
  · subst same
    change (!(overmerged envelope.output || dedupComplete envelope.output)) = true ↔
      namesWith .failed (dedup envelope.output) ≠ []
    unfold dedup
    split_ifs with merged complete
    · simp [merged, namesWith, warningCheck]
    · simp [complete, failed_passedCheck]
    · simp [merged, complete, failed_failedCheck]
  · subst same
    change (labelRefused envelope.output ||
      !inUnitInterval (Json.get envelope.output "confidence")) = true ↔
        namesWith .failed (topicClassification envelope.output) ≠ []
    unfold topicClassification
    split_ifs with refused outside low
    · simp [refused, failed_failedCheck]
    · simp [outside, failed_failedCheck]
    · simp [refused, outside, namesWith, warningCheck]
    · simp [refused, outside, failed_passedCheck]
  · subst same
    change (urlDenied envelope.output || urlTimedOut envelope.output ||
      !(urlMarkedOk envelope.output || (statusWithin 200 300 envelope.output).isSome ||
        (statusWithin 400 500 envelope.output).isSome)) = true ↔
        namesWith .failed (urlCheck envelope.output) ≠ []
    unfold urlCheck
    split_ifs with denied late marked
    · simp [denied, failed_failedCheck]
    · simp [late, failed_failedCheck]
    · simp [denied, late, marked, failed_passedCheck]
    · cases success : statusWithin 200 300 envelope.output with
      | some code => simp [denied, late, failed_passedCheck]
      | none =>
        cases refusal : statusWithin 400 500 envelope.output with
        | some code => simp [denied, late, namesWith, warningCheck]
        | none => simp [marked, failed_failedCheck]
  · subst same
    change (!extractedSomething envelope.output) = true ↔
      namesWith .failed (webpageExtraction envelope.output) ≠ []
    unfold webpageExtraction
    split_ifs with empty injected
    · simp [empty, failed_failedCheck]
    · simp [empty, namesWith, warningCheck]
    · simp [empty, failed_passedCheck]

/-! ## The cascade -/

/-- Names that are no task's change nothing in the task's part of the cascade. -/
theorem taskRecommendation_append (recipe : VerifierRecipe) (others names warnings : List String)
    (apart : ∀ name ∈ taskFailures, name ∉ others) :
    taskRecommendation recipe (others ++ names) warnings =
      taskRecommendation recipe names warnings := by
  have skip : ∀ name ∈ taskFailures, (name ∈ others ++ names ↔ name ∈ names) := by
    intro name known
    simp [apart name known]
  simp only [taskRecommendation, skip "url_policy_safety" (by decide),
    skip "url_timeout" (by decide), skip "url_status" (by decide),
    skip "dedup_exact" (by decide), skip "topic_label_enum" (by decide),
    skip "topic_confidence_range" (by decide), skip "claim_source_ref" (by decide),
    skip "claim_entity" (by decide), skip "claim_text" (by decide),
    skip "claim_type_enum" (by decide), skip "claim_confidence_range" (by decide),
    skip "claim_evidence_hint" (by decide), skip "webpage_empty" (by decide)]

/-- The recommendation asks neither to accept nor to accept with a warning. -/
def Blocks (recommendation : VerifierRecommendation) : Prop :=
  recommendation ≠ .accept ∧ recommendation ≠ .acceptWithWarning
  deriving Decidable

/-- The findings that must block, with the recommendations they have by default. -/
def blockingFindings : List (String × VerifierRecommendation) :=
  [("secret_detected", .quarantine), ("output_hash_missing", .reject),
    ("hash_mismatch", .quarantine), ("schema_invalid", .retry),
    ("private_ip_or_redirect", .quarantine), ("timeout", .retry), ("default_failure", .reject),
    ("label_not_enum", .retry), ("missing_source_ref", .fallback), ("missing_entity", .retry),
    ("empty", .fallback)]

/-- No table of a shipped recipe lets a blocking finding pass. -/
theorem shipped_blocks : ∀ recipe ∈ VerifierRecipe.shipped, ∀ finding ∈ blockingFindings,
    Blocks (recipe.recommendation finding.1 finding.2) := by
  decide

/-- Every failure of a task has its place in the cascade. -/
theorem taskRecommendation_failed (recipe : VerifierRecipe)
    (shipped : recipe ∈ VerifierRecipe.shipped) (names : List String) (name : String)
    (failed : name ∈ names) (known : name ∈ taskFailures) :
    ∃ recommended, taskRecommendation recipe names [] = some recommended ∧ Blocks recommended := by
  have blocks := fun key default => shipped_blocks recipe shipped (key, default)
  simp only [taskRecommendation, List.not_mem_nil, if_false]
  simp only [taskFailures, List.mem_cons, List.not_mem_nil, or_false] at known
  repeat' split
  any_goals exact ⟨_, rfl, blocks _ _ (by decide)⟩
  exfalso
  rcases known with same | same | same | same | same | same | same | same | same | same | same |
    same | same
  all_goals
    subst same
    simp_all only [not_or, not_true_eq_false, false_and, and_false]

/-- Without failures, a warning of a task is a recommendation to accept with a warning. -/
theorem taskRecommendation_warned (recipe : VerifierRecipe)
    (shipped : recipe ∈ VerifierRecipe.shipped) (name : String) (known : name ∈ taskWarnings) :
    taskRecommendation recipe [] [name] = some .acceptWithWarning := by
  have tables : ∀ recipe ∈ VerifierRecipe.shipped, ∀ name ∈ taskWarnings,
      taskRecommendation recipe [] [name] = some .acceptWithWarning := by
    decide
  exact tables recipe shipped name known

/-- Without failures and warnings a task recommends nothing. -/
theorem taskRecommendation_passed (recipe : VerifierRecipe) :
    taskRecommendation recipe [] [] = none := by
  simp [taskRecommendation]

/-- A run that returns has made every check and built its report from them. -/
theorem run_ok (platform : VerifierPlatform) (recipe : VerifierRecipe)
    (envelope : WorkUnitResultEnvelope) (workUnit policyDecision : Option JsonObject)
    (createdAt : String) (report : VerifierReport)
    (ran : run platform recipe envelope workUnit policyDecision createdAt = .ok report) :
    ∃ schemaChecks, checkOutputSchema platform envelope recipe workUnit = .ok schemaChecks ∧
      report.checks = commonChecks platform envelope policyDecision schemaChecks ++
        runTaskSpecificChecks recipe.verifierRecipeId envelope ∧
      report.recommendation = recommendation recipe report.checks ∧
      report.status = statusForRecommendation report.recommendation := by
  cases checked : checkOutputSchema platform envelope recipe workUnit with
  | error error => simp [run, checked, bind, Except.bind] at ran
  | ok schemaChecks =>
    simp only [run, checked] at ran
    have same_report := Except.ok.inj ran
    subst same_report
    exact ⟨schemaChecks, rfl, rfl, rfl, rfl⟩

section Cascade

variable (platform : VerifierPlatform) (recipe : VerifierRecipe)
  (shipped : recipe ∈ VerifierRecipe.shipped) (envelope : WorkUnitResultEnvelope)
  (workUnit policyDecision : Option JsonObject) (createdAt : String) (report : VerifierReport)
  (ran : run platform recipe envelope workUnit policyDecision createdAt = .ok report)

include shipped in
/-- The failed names of a task are known ones. -/
theorem failed_task (name : String)
    (failed : name ∈ namesWith .failed (runTaskSpecificChecks recipe.verifierRecipeId envelope)) :
    name ∈ taskFailures := by
  obtain ⟨check, member, status, same_name⟩ := (mem_namesWith _ _ _).mp failed
  subst same_name
  have outcome := outcome_task recipe shipped envelope
  generalize runTaskSpecificChecks recipe.verifierRecipeId envelope = checks at member outcome
  cases outcome with
  | passed passedName message =>
    have same_check := List.mem_singleton.mp member
    subst same_check
    cases status
  | warned warnedName message known =>
    have same_check := List.mem_singleton.mp member
    subst same_check
    cases status
  | failed checks some known => exact (known check member).2

include ran in
/-- The failed names of a whole report. -/
theorem mem_failed (name : String) : name ∈ namesWith .failed report.checks ↔
    ((∃ entry ∈ requiredIdentifiers envelope, entry.2 = "") ∧
        name = "result_envelope_integrity") ∨
      ((envelope.outputHash = "" ∧ name = "output_hash_present") ∨
        (envelope.outputHash ≠ "" ∧
          ((expectedOutputHash platform envelope ≠ envelope.outputHash ∧
              name = "output_hash_valid") ∨
            (expectedEnvelopeResultHash platform envelope ≠ envelope.resultHash ∧
              name = "result_hash_valid")))) ∨
      (Unlinked envelope policyDecision ∧ name = "policy_linkage") ∨
      (Leaking envelope ∧ name = "secret_redaction") ∨
      (Nonconforming platform recipe envelope workUnit ∧ name = "output_schema") ∨
      name ∈ namesWith .failed (runTaskSpecificChecks recipe.verifierRecipeId envelope) := by
  obtain ⟨schemaChecks, checked, checks, _⟩ := run_ok _ _ _ _ _ _ _ ran
  rw [checks, namesWith_append, List.mem_append,
    mem_failed_common platform envelope recipe workUnit policyDecision schemaChecks checked]
  simp only [or_assoc]

include shipped ran in
/-- A name that no task fails is failed by a report exactly when the common checks
fail it. -/
theorem failed_names : ("secret_redaction" ∈ namesWith .failed report.checks ↔ Leaking envelope) ∧
    ("output_hash_present" ∈ namesWith .failed report.checks ↔ envelope.outputHash = "") ∧
    ("output_hash_valid" ∈ namesWith .failed report.checks ∨
        "result_hash_valid" ∈ namesWith .failed report.checks ↔
      envelope.outputHash ≠ "" ∧ Tampered platform envelope) ∧
    ("output_schema" ∈ namesWith .failed report.checks ↔
      Nonconforming platform recipe envelope workUnit) ∧
    ("policy_linkage" ∈ namesWith .failed report.checks ↔ Unlinked envelope policyDecision) := by
  have apart : ∀ name, name ∉ taskFailures →
      name ∉ namesWith .failed (runTaskSpecificChecks recipe.verifierRecipeId envelope) :=
    fun name unknown failed => unknown (failed_task recipe shipped envelope name failed)
  have names := mem_failed platform recipe envelope workUnit policyDecision createdAt report ran
  refine ⟨?_, ?_, ?_, ?_, ?_⟩
  · simp [names, apart "secret_redaction" (by decide)]
  · simp [names, apart "output_hash_present" (by decide)]
  · simp only [names, apart "output_hash_valid" (by decide),
      apart "result_hash_valid" (by decide), Tampered]
    simp [and_or_left]
  · simp [names, apart "output_schema" (by decide)]
  · simp [names, apart "policy_linkage" (by decide)]

include shipped ran in
open Classical in
/-- The recommendation of a report, in the order in which the conditions are looked at. -/
theorem recommendation_eq : report.recommendation =
    if Leaking envelope then recipe.recommendation "secret_detected" .quarantine
    else if envelope.outputHash = "" then recipe.recommendation "output_hash_missing" .reject
    else if Tampered platform envelope then recipe.recommendation "hash_mismatch" .quarantine
    else if Nonconforming platform recipe envelope workUnit then
      recipe.recommendation "schema_invalid" .retry
    else if Unlinked envelope policyDecision then .quarantine
    else (taskRecommendation recipe
      (namesWith .failed (runTaskSpecificChecks recipe.verifierRecipeId envelope))
      (namesWith .needsReview
        (runTaskSpecificChecks recipe.verifierRecipeId envelope))).getD .accept := by
  obtain ⟨leaking, missing, tampered, nonconforming, unlinked⟩ := failed_names platform recipe
    shipped envelope workUnit policyDecision createdAt report ran
  obtain ⟨schemaChecks, checked, checks, recommended, _⟩ := run_ok _ _ _ _ _ _ _ ran
  have common := mem_failed_common platform envelope recipe workUnit policyDecision schemaChecks
    checked
  have apart : ∀ name ∈ taskFailures, name ∉ namesWith .failed
      (commonChecks platform envelope policyDecision schemaChecks) := by
    intro name known failed
    rcases (common name).mp failed with ⟨_, same⟩ | (⟨_, same⟩ | ⟨_, ⟨_, same⟩ | ⟨_, same⟩⟩) |
      ⟨_, same⟩ | ⟨_, same⟩ | ⟨_, same⟩
    all_goals
      subst same
      exact absurd known (by decide)
  rw [recommended, recommendation, cascade]
  simp only [leaking, missing, tampered, nonconforming, unlinked]
  rw [checks, namesWith_append, namesWith_append, taskRecommendation_append recipe _ _ _ apart,
    warned_common platform envelope recipe workUnit policyDecision schemaChecks checked,
    List.nil_append]
  by_cases present : envelope.outputHash = ""
  · simp only [present, if_true]
  · simp only [present, ne_eq, not_false_eq_true, true_and]

include shipped ran in
/-- A result is accepted, with or without a warning, exactly when nothing about it is
refused. -/
theorem blocks_iff : Blocks report.recommendation ↔
    Refused platform recipe envelope workUnit policyDecision := by
  have blocks := fun key default => shipped_blocks recipe shipped (key, default)
  rw [recommendation_eq platform recipe shipped envelope workUnit policyDecision createdAt report
    ran]
  unfold Refused
  split_ifs with leaking missing tampered nonconforming unlinked
  · simp only [leaking, true_or, iff_true]
    exact blocks _ _ (by decide)
  · simp only [missing, true_or, or_true, iff_true]
    exact blocks _ _ (by decide)
  · simp only [tampered, true_or, or_true, iff_true]
    exact blocks _ _ (by decide)
  · simp only [nonconforming, true_or, or_true, iff_true]
    exact blocks _ _ (by decide)
  · simp only [unlinked, true_or, or_true, iff_true]
    decide
  · rw [outputRefused_iff recipe shipped envelope]
    simp only [leaking, missing, tampered, nonconforming, unlinked, false_or]
    have known := failed_task recipe shipped envelope
    have outcome := outcome_task recipe shipped envelope
    generalize runTaskSpecificChecks recipe.verifierRecipeId envelope = checks at known outcome
    cases outcome with
    | passed name message =>
      change Blocks ((taskRecommendation recipe [] []).getD .accept) ↔ ([] : List String) ≠ []
      rw [taskRecommendation_passed]
      decide
    | warned name message warning =>
      change Blocks ((taskRecommendation recipe [] [name]).getD .accept) ↔ ([] : List String) ≠ []
      rw [taskRecommendation_warned recipe shipped name warning]
      simp [Blocks]
    | failed checks some failures =>
      have warned : namesWith .needsReview checks = [] := by
        rw [namesWith_nil_iff]
        intro check member
        rw [(failures check member).1]
        decide
      obtain ⟨check, member⟩ := List.exists_mem_of_ne_nil checks some
      have named : check.name ∈ namesWith .failed checks :=
        (mem_namesWith _ _ _).mpr ⟨check, member, (failures check member).1, rfl⟩
      obtain ⟨recommended, decided, blocking⟩ := taskRecommendation_failed recipe shipped
        (namesWith .failed checks) check.name named (failures check member).2
      rw [warned, decided]
      simp only [Option.getD_some, blocking, ne_eq, true_iff]
      exact List.ne_nil_of_mem named

include shipped in
/-- The safety check of a URL fails exactly when the output reports a denial. -/
theorem denied_iff : "url_policy_safety" ∈
    namesWith .failed (runTaskSpecificChecks recipe.verifierRecipeId envelope) ↔
      Denied recipe envelope := by
  simp only [VerifierRecipe.shipped, List.mem_cons, List.not_mem_nil, or_false] at shipped
  rcases shipped with same | same | same | same | same
  · subst same
    change "url_policy_safety" ∈ namesWith .failed (claimExtraction envelope.output) ↔ _
    simp only [Denied, VerifierRecipe.claimExtraction, String.reduceEq, false_and, iff_false]
    intro failed
    obtain ⟨check, member, _, same_name⟩ := (mem_namesWith _ _ _).mp failed
    unfold claimExtraction at member
    split at member
    · have same_check := List.mem_singleton.mp member
      subst same_check
      exact absurd same_name (by decide)
    · simp only at member
      split at member
      · have same_check := List.mem_singleton.mp member
        subst same_check
        exact absurd same_name (by decide)
      · obtain ⟨entry, inClaims, reported⟩ := List.mem_flatMap.mp member
        have known := (failures_known envelope.output entry check reported).2
        rw [same_name] at known
        exact absurd known (by decide)
  · subst same
    change "url_policy_safety" ∈ namesWith .failed (dedup envelope.output) ↔ _
    simp only [Denied, VerifierRecipe.dedup, String.reduceEq, false_and, iff_false]
    unfold dedup
    split_ifs <;> decide
  · subst same
    change "url_policy_safety" ∈ namesWith .failed (topicClassification envelope.output) ↔ _
    simp only [Denied, VerifierRecipe.topicClassification, String.reduceEq, false_and, iff_false]
    unfold topicClassification
    split_ifs <;> decide
  · subst same
    change "url_policy_safety" ∈ namesWith .failed (urlCheck envelope.output) ↔ _
    simp only [Denied, VerifierRecipe.urlCheck, true_and]
    unfold urlCheck
    split_ifs with denied late marked
    · simp [denied, failed_failedCheck]
    · simp [denied, failed_failedCheck]
    · simp [denied, failed_passedCheck]
    · simp only [denied, Bool.false_eq_true, iff_false]
      cases statusWithin 200 300 envelope.output with
      | some code => simp [failed_passedCheck]
      | none =>
        cases statusWithin 400 500 envelope.output with
        | some code => simp [namesWith, warningCheck]
        | none => simp [failed_failedCheck]
  · subst same
    change "url_policy_safety" ∈ namesWith .failed (webpageExtraction envelope.output) ↔ _
    simp only [Denied, VerifierRecipe.webpageExtraction, String.reduceEq, false_and, iff_false]
    unfold webpageExtraction
    split_ifs <;> decide

end Cascade

end Verdict

end TokenBank
