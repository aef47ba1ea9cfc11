import TokenBank.Verifier.Verdicts

/-!
# What a verifier recommends

Acceptance is exact: a validated result is accepted exactly when every check passed or was
skipped, and accepted with a warning exactly when some check needs review and none failed.

Quarantine does not dominate. The cascade looks at the schema before it looks at the policy
linkage and at the safety of a URL, so an output that violates its schema as well is sent
back for a retry, or rejected, instead of being quarantined.
-/

namespace TokenBank

/-- The identifiers and hashes of a validated envelope are not empty. -/
structure WorkUnitResultEnvelope.Validated (envelope : WorkUnitResultEnvelope) : Prop where
  resultEnvelopeId : envelope.resultEnvelopeId ≠ ""
  workUnitId : envelope.workUnitId ≠ ""
  runId : envelope.runId ≠ ""
  attemptId : envelope.attemptId ≠ ""
  assignmentId : envelope.assignmentId ≠ ""
  outputHash : envelope.outputHash ≠ ""
  resultHash : envelope.resultHash ≠ ""

namespace Scenario

/-- A schema check of the two kinds the results below need: required members, and the
types of members. -/
def violation (schema : JsonObject) (output : JsonObject) : Option (List Json) :=
  let missing := match Json.get schema "required" with
    | .arr required => required.any (fun key => match key with
      | .str key => !Json.has output key
      | _ => false)
    | _ => false
  if missing then some [] else none

/-- A number for a text, below a large prime. -/
def residue (text : String) : Nat :=
  text.toList.foldl (fun value character => (value * 31 + character.toNat) % 1000000007) 7

/-- A short digest of a text: the last nine digits of its number. -/
def digest (text : String) : String :=
  String.ofList ((List.range 9).map (fun place =>
    Char.ofNat (48 + residue text / 10 ^ place % 10)))

/-- A digest is not empty. -/
theorem digest_ne (text : String) : digest text ≠ "" := by
  intro empty
  have lengths := congrArg (fun written => written.toList.length) empty
  simp [digest] at lengths

/-- No digest looks like a secret. -/
theorem digest_plain (text : String) : Checks.secretLike (digest text) = false := by
  apply Checks.secretLike_false
  intro character member
  have digits : ∀ digit < 10, Char.ofNat (48 + digit) ∉ Checks.secretOpenings := by decide
  simp only [digest, String.toList_ofList, List.mem_map] at member
  obtain ⟨place, _, same⟩ := member
  exact same ▸ digits _ (Nat.mod_lt _ (by decide))

/-- The short digest, and the schema check. -/
def verifier : VerifierPlatform where
  sha256 := digest
  validate schema output := match output with
    | .obj fields => .ok (violation schema fields)
    | _ => .ok (some [])

/-- An envelope before its hashes are computed. -/
def unsealed (status : ResultEnvelopeStatus) (output : JsonObject) : WorkUnitResultEnvelope where
  resultEnvelopeId := "res_1"
  workUnitId := "wu_1"
  runId := "run_1"
  attemptId := "att_1"
  assignmentId := "asg_1"
  status := status
  output := output
  outputHash := ""
  resultHash := ""
  completedAt := "2026-01-01T00:00:00Z"

/-- An envelope whose output hash is that of its output. -/
def outputSealed (status : ResultEnvelopeStatus) (output : JsonObject) : WorkUnitResultEnvelope :=
  { unsealed status output with
    outputHash := Checks.expectedOutputHash verifier (unsealed status output) }

/-- An envelope with the hashes of its content. -/
def sealed (status : ResultEnvelopeStatus) (output : JsonObject) : WorkUnitResultEnvelope :=
  { outputSealed status output with
    resultHash := Checks.expectedEnvelopeResultHash verifier (outputSealed status output) }

/-- A sealed envelope has the hashes of its content. -/
theorem sealed_untampered (status : ResultEnvelopeStatus) (output : JsonObject) :
    ¬ Verdict.Tampered verifier (sealed status output) := by
  rintro (other | other)
  · exact other rfl
  · exact other rfl

/-- Sealing an envelope brings no secret into its document: only its hashes change. -/
theorem sealed_plain (status : ResultEnvelopeStatus) (output : JsonObject)
    (plain : Checks.secretPaths "$" (unsealed status output).modelDump = []) :
    ¬ Verdict.Leaking (sealed status output) := by
  rw [Verdict.Leaking, not_not]
  let fields := (unsealed status output).dumpWithStatus status
  let hashes := [("output_hash", Json.str (sealed status output).outputHash),
    ("result_hash", Json.str (sealed status output).resultHash)]
  have before : Checks.secretFields "$" (fields.take 14 ++ (fields.drop 14).take 2 ++
    fields.drop 16) = [] := plain
  have hashed : Checks.secretFields "$" hashes = [] := by
    have outputHash : Checks.secretLike (sealed status output).outputHash = false := digest_plain _
    have resultHash : Checks.secretLike (sealed status output).resultHash = false := digest_plain _
    simp [hashes, Checks.secretFields, Checks.secretPaths, outputHash, resultHash]
  rw [Checks.secretFields_append, Checks.secretFields_append] at before
  simp only [List.append_eq_nil_iff] at before
  change Checks.secretFields "$" (fields.take 14 ++ hashes ++ fields.drop 16) = []
  rw [Checks.secretFields_append, Checks.secretFields_append, before.1.1, hashed, before.2]
  rfl

/-- The output of a successful URL check. -/
def fineOutput : JsonObject := [("ok", .bool true), ("status_code", .int 200)]

/-- The output of a URL check that was denied, without the member the schema requires. -/
def deniedOutput : JsonObject := [("private_ip_denied", .bool true)]

/-- A sealed envelope is validated. -/
theorem sealed_validated (status : ResultEnvelopeStatus) (output : JsonObject) :
    (sealed status output).Validated where
  resultEnvelopeId := by simp [sealed, outputSealed, unsealed]
  workUnitId := by simp [sealed, outputSealed, unsealed]
  runId := by simp [sealed, outputSealed, unsealed]
  attemptId := by simp [sealed, outputSealed, unsealed]
  assignmentId := by simp [sealed, outputSealed, unsealed]
  outputHash := digest_ne _
  resultHash := digest_ne _

/-- Running a recipe on a sealed envelope returns a report. -/
theorem sealed_returns (recipe : VerifierRecipe) (status : ResultEnvelopeStatus)
    (output : JsonObject) (workUnit : Option JsonObject) :
    ∃ report, VerifierRunner.run verifier recipe (sealed status output) workUnit none
      "2026-01-01T00:00:00Z" = .ok report := by
  have checked : ∃ schemaChecks, Checks.checkOutputSchema verifier (sealed status output) recipe
      workUnit = .ok schemaChecks := by
    simp only [Checks.checkOutputSchema]
    split
    · exact ⟨_, rfl⟩
    · exact ⟨_, rfl⟩
  obtain ⟨schemaChecks, checked⟩ := checked
  exact ⟨_, by rw [VerifierRunner.run, checked]; rfl⟩

/-- Nothing about a sealed envelope is refused when its output is fine. -/
theorem sealed_unrefused (recipe : VerifierRecipe) (status : ResultEnvelopeStatus)
    (output : JsonObject) (workUnit : Option JsonObject)
    (plain : Checks.secretPaths "$" (unsealed status output).modelDump = [])
    (conforming : violation (Checks.configuredSchema recipe workUnit) output = none)
    (looksFine : Verdict.outputRefused recipe.verifierRecipeId output = false) :
    ¬ Verdict.Refused verifier recipe (sealed status output) workUnit none := by
  rintro (leaking | missing | tampered | ⟨_, path, violated⟩ | ⟨decision, given, _⟩ | refused)
  · exact sealed_plain status output plain leaking
  · exact (sealed_validated status output).outputHash missing
  · exact sealed_untampered status output tampered
  · have answered := Except.ok.inj violated
    change violation (Checks.configuredSchema recipe workUnit) output = some path at answered
    rw [conforming] at answered
    cases answered
  · cases given
  · change Verdict.outputRefused recipe.verifierRecipeId output = true at refused
    rw [looksFine] at refused
    cases refused

/-- The recipe of the scenarios is shipped. -/
theorem urlCheck_shipped : VerifierRecipe.urlCheck ∈ VerifierRecipe.shipped := by
  simp [VerifierRecipe.shipped]

end Scenario

namespace Recommendations

open Verdict VerifierRunner

/-! ## Acceptance -/

/-- A report accepts exactly what its checks allow, and its status says so. -/
structure Exact (report : VerifierReport) : Prop where
  accepts : report.recommendation = .accept ↔
    ∀ check ∈ report.checks, check.status = .passed ∨ check.status = .skipped
  warns : report.recommendation = .acceptWithWarning ↔
    (∀ check ∈ report.checks, check.status ≠ .failed) ∧
      ∃ check ∈ report.checks, check.status = .needsReview
  passed : report.status = .passed ↔ report.recommendation = .accept
  needsReview : report.status = .needsReview ↔ report.recommendation = .acceptWithWarning
  failed : report.status = .failed ↔ Blocks report.recommendation

section Report

variable (platform : VerifierPlatform) (recipe : VerifierRecipe)
  (shipped : recipe ∈ VerifierRecipe.shipped) (envelope : WorkUnitResultEnvelope)
  (workUnit policyDecision : Option JsonObject) (createdAt : String) (report : VerifierReport)
  (ran : run platform recipe envelope workUnit policyDecision createdAt = .ok report)

include ran in
/-- A check of a validated envelope fails exactly when something is refused. -/
theorem failed_iff (shipped : recipe ∈ VerifierRecipe.shipped) (validated : envelope.Validated) :
    namesWith .failed report.checks ≠ [] ↔
      Refused platform recipe envelope workUnit policyDecision := by
  have names := mem_failed platform recipe envelope workUnit policyDecision createdAt report ran
  have identified : ¬ ∃ entry ∈ Checks.requiredIdentifiers envelope, entry.2 = "" := by
    simp [Checks.requiredIdentifiers, validated.resultEnvelopeId, validated.workUnitId,
      validated.attemptId, validated.assignmentId]
  rw [Refused, outputRefused_iff recipe shipped envelope]
  constructor
  · intro some
    obtain ⟨name, failed⟩ := List.exists_mem_of_ne_nil _ some
    rcases (names name).mp failed with ⟨missing, _⟩ | (⟨absent, _⟩ |
      ⟨_, ⟨output, _⟩ | ⟨result, _⟩⟩) | ⟨unlinked, _⟩ | ⟨leaking, _⟩ | ⟨nonconforming, _⟩ | task
    · exact absurd missing identified
    · exact absurd absent validated.outputHash
    · exact .inr (.inr (.inl (.inl output)))
    · exact .inr (.inr (.inl (.inr result)))
    · exact .inr (.inr (.inr (.inr (.inl unlinked))))
    · exact .inl leaking
    · exact .inr (.inr (.inr (.inl nonconforming)))
    · exact .inr (.inr (.inr (.inr (.inr (List.ne_nil_of_mem task)))))
  · obtain ⟨leaks, _, tampers, violates, unlinks⟩ := failed_names platform recipe shipped envelope
      workUnit policyDecision createdAt report ran
    rintro (leaking | absent | tampered | nonconforming | unlinked | task)
    · exact List.ne_nil_of_mem (leaks.mpr leaking)
    · exact absurd absent validated.outputHash
    · rcases tampers.mpr ⟨validated.outputHash, tampered⟩ with output | result
      · exact List.ne_nil_of_mem output
      · exact List.ne_nil_of_mem result
    · exact List.ne_nil_of_mem (violates.mpr nonconforming)
    · exact List.ne_nil_of_mem (unlinks.mpr unlinked)
    · obtain ⟨name, failed⟩ := List.exists_mem_of_ne_nil _ task
      have inReport := (names name).mpr (.inr (.inr (.inr (.inr (.inr failed)))))
      exact List.ne_nil_of_mem inReport

include ran in
/-- A result of which nothing is refused is accepted, with a warning if a check needs
review. -/
theorem accepted_of_nothing_refused (shipped : recipe ∈ VerifierRecipe.shipped)
    (fine : ¬ Refused platform recipe envelope workUnit policyDecision) :
    report.recommendation =
      if namesWith .needsReview report.checks = [] then .accept else .acceptWithWarning := by
  obtain ⟨schemaChecks, checked, checks, _⟩ := run_ok _ _ _ _ _ _ _ ran
  have warned : namesWith .needsReview report.checks = namesWith .needsReview
      (Checks.runTaskSpecificChecks recipe.verifierRecipeId envelope) := by
    rw [checks, namesWith_append,
      warned_common platform envelope recipe workUnit policyDecision schemaChecks checked,
      List.nil_append]
  have refused := outputRefused_iff recipe shipped envelope
  have outcome := outcome_task recipe shipped envelope
  rw [recommendation_eq platform recipe shipped envelope workUnit policyDecision createdAt report
    ran, warned]
  simp only [Refused, refused, not_or, not_not] at fine
  obtain ⟨notLeaking, present, sealed, conforming, linked, noFailure⟩ := fine
  simp only [notLeaking, present, sealed, conforming, linked, noFailure, if_false]
  generalize Checks.runTaskSpecificChecks recipe.verifierRecipeId envelope = task at *
  cases outcome with
  | passed name message =>
    change (taskRecommendation recipe [] []).getD .accept = _
    rw [taskRecommendation_passed]
    rfl
  | warned name message warning =>
    change (taskRecommendation recipe [] [name]).getD .accept = _
    rw [taskRecommendation_warned recipe shipped name warning]
    rfl
  | failed task some failures =>
    obtain ⟨check, member⟩ := List.exists_mem_of_ne_nil task some
    exact absurd (failures check member).1 ((namesWith_nil_iff _ _).mp noFailure check member)

include ran in
/-- Acceptance of a validated envelope is exact. -/
theorem exact_of_run (shipped : recipe ∈ VerifierRecipe.shipped)
    (validated : envelope.Validated) : Exact report := by
  obtain ⟨_, _, _, _, status⟩ := run_ok _ _ _ _ _ _ _ ran
  have failing := failed_iff platform recipe envelope workUnit policyDecision createdAt report ran
    shipped validated
  have blocking := blocks_iff platform recipe shipped envelope workUnit policyDecision createdAt
    report ran
  have accepting := accepted_of_nothing_refused platform recipe envelope workUnit policyDecision
    createdAt report ran shipped
  have statuses : (∀ check ∈ report.checks, check.status = .passed ∨ check.status = .skipped) ↔
      namesWith .failed report.checks = [] ∧ namesWith .needsReview report.checks = [] := by
    rw [namesWith_nil_iff, namesWith_nil_iff, ← forall₂_and]
    refine forall₂_congr (fun check member => ?_)
    cases check.status <;> simp
  have reviewed : (∃ check ∈ report.checks, check.status = .needsReview) ↔
      namesWith .needsReview report.checks ≠ [] := by
    rw [Ne, namesWith_nil_iff]
    push Not
    rfl
  constructor
  · rw [statuses]
    by_cases refused : Refused platform recipe envelope workUnit policyDecision
    · simp only [failing.mpr refused, false_and, iff_false]
      exact (blocking.mpr refused).1
    · have none_failed : namesWith .failed report.checks = [] := by
        by_contra some
        exact refused (failing.mp some)
      rw [accepting refused]
      simp [none_failed]
  · rw [← namesWith_nil_iff, reviewed]
    by_cases refused : Refused platform recipe envelope workUnit policyDecision
    · simp only [failing.mpr refused, false_and, iff_false]
      exact (blocking.mpr refused).2
    · have none_failed : namesWith .failed report.checks = [] := by
        by_contra some
        exact refused (failing.mp some)
      rw [accepting refused]
      simp [none_failed]
  · rw [status]
    cases report.recommendation <;> simp [statusForRecommendation]
  · rw [status]
    cases report.recommendation <;> simp [statusForRecommendation]
  · rw [status]
    cases report.recommendation <;> simp [statusForRecommendation, Blocks]

end Report

/-- Running a shipped recipe on a validated envelope raises nothing but what the schema
validator raises, and otherwise accepts exactly what the checks allow. -/
theorem acceptance_exact (platform : VerifierPlatform) (recipe : VerifierRecipe)
    (shipped : recipe ∈ VerifierRecipe.shipped) (envelope : WorkUnitResultEnvelope)
    (validated : envelope.Validated) (workUnit policyDecision : Option JsonObject)
    (createdAt : String) :
    (∀ error, run platform recipe envelope workUnit policyDecision createdAt = .error error →
      platform.validate (Checks.configuredSchema recipe workUnit) (.obj envelope.output) =
        .error error) ∧
      ∀ report, run platform recipe envelope workUnit policyDecision createdAt = .ok report →
        Exact report := by
  constructor
  · intro error raised
    cases checked : Checks.checkOutputSchema platform envelope recipe workUnit with
    | ok schemaChecks =>
      simp only [run, checked] at raised
      cases raised
    | error first =>
      simp only [run, checked] at raised
      have same_error := Except.error.inj raised
      subst same_error
      simp only [Checks.checkOutputSchema] at checked
      split at checked
      · cases checked
      · cases answered : platform.validate (Checks.configuredSchema recipe workUnit)
          (.obj envelope.output) with
        | ok violation =>
          rw [answered] at checked
          cases checked
        | error second =>
          rw [answered] at checked
          exact congrArg Except.error (Except.error.inj checked)
  · intro report ran
    exact exact_of_run platform recipe envelope workUnit policyDecision createdAt report ran
      shipped validated

/-- A plain result of a URL check is accepted. -/
theorem acceptance_exact_plain :
    ∃ report, run Scenario.verifier .urlCheck (Scenario.sealed .succeeded Scenario.fineOutput)
      none none "2026-01-01T00:00:00Z" = .ok report ∧ Exact report := by
  obtain ⟨report, ran⟩ := Scenario.sealed_returns .urlCheck .succeeded Scenario.fineOutput none
  exact ⟨report, ran, (acceptance_exact Scenario.verifier .urlCheck Scenario.urlCheck_shipped
    (Scenario.sealed .succeeded Scenario.fineOutput)
    (Scenario.sealed_validated .succeeded Scenario.fineOutput) none none
    "2026-01-01T00:00:00Z").2 report ran⟩

/-! ## Quarantine -/

/-- The checks whose failure must quarantine a result. -/
def quarantineChecks : List String :=
  ["secret_redaction", "output_hash_valid", "result_hash_valid", "policy_linkage",
    "url_policy_safety"]

/-- The tables of the shipped recipes quarantine what concerns safety, and nothing that
violates a schema. -/
theorem shipped_quarantines : ∀ recipe ∈ VerifierRecipe.shipped,
    recipe.recommendation "secret_detected" .quarantine = .quarantine ∧
      recipe.recommendation "hash_mismatch" .quarantine = .quarantine ∧
      recipe.recommendation "private_ip_or_redirect" .quarantine = .quarantine ∧
      recipe.recommendation "schema_invalid" .retry ≠ .quarantine := by
  decide

/-- A failed safety check quarantines a result that has an output hash exactly when the
output does not violate its schema, unless the envelope leaks a secret or its hashes are
wrong, and unless neither the linkage nor the safety of a URL is at stake. -/
theorem quarantine_dominates_iff (platform : VerifierPlatform) (recipe : VerifierRecipe)
    (shipped : recipe ∈ VerifierRecipe.shipped) (envelope : WorkUnitResultEnvelope)
    (hashed : envelope.outputHash ≠ "") (workUnit policyDecision : Option JsonObject)
    (createdAt : String) (report : VerifierReport)
    (ran : run platform recipe envelope workUnit policyDecision createdAt = .ok report) :
    ((∃ check ∈ report.checks, check.status = .failed ∧ check.name ∈ quarantineChecks) →
        report.recommendation = .quarantine) ↔
      (Nonconforming platform recipe envelope workUnit →
        Leaking envelope ∨ Tampered platform envelope ∨
          ¬(Unlinked envelope policyDecision ∨ Denied recipe envelope)) := by
  obtain ⟨leaks, _, tampers, _, unlinks⟩ := failed_names platform recipe shipped envelope workUnit
    policyDecision createdAt report ran
  obtain ⟨secret, hash, address, schema⟩ := shipped_quarantines recipe shipped
  have denies : "url_policy_safety" ∈ namesWith .failed report.checks ↔ Denied recipe envelope := by
    rw [mem_failed platform recipe envelope workUnit policyDecision createdAt report ran,
      denied_iff recipe shipped envelope]
    simp
  have unsafely : (∃ check ∈ report.checks, check.status = .failed ∧
      check.name ∈ quarantineChecks) ↔ Leaking envelope ∨ Tampered platform envelope ∨
        Unlinked envelope policyDecision ∨ Denied recipe envelope := by
    rw [← leaks, ← unlinks, ← denies,
      show Tampered platform envelope ↔ _ from ⟨fun tampered => tampers.mpr ⟨hashed, tampered⟩,
        fun failed => (tampers.mp failed).2⟩]
    simp only [mem_namesWith, quarantineChecks, List.mem_cons, List.not_mem_nil, or_false]
    grind
  rw [unsafely, recommendation_eq platform recipe shipped envelope workUnit policyDecision
    createdAt report ran]
  by_cases leaking : Leaking envelope
  · simp [leaking, secret]
  · by_cases tampered : Tampered platform envelope
    · simp [leaking, hashed, tampered, hash]
    · by_cases nonconforming : Nonconforming platform recipe envelope workUnit
      · simp only [leaking, hashed, tampered, nonconforming, schema, if_true, if_false, false_or,
          imp_false, true_implies]
      · by_cases unlinked : Unlinked envelope policyDecision
        · simp [leaking, hashed, tampered, nonconforming, unlinked]
        · simp only [leaking, hashed, tampered, nonconforming, unlinked, if_false, false_or,
            false_implies, iff_true]
          intro denied
          have failed := (denied_iff recipe shipped envelope).mpr denied
          simp [taskRecommendation, failed, address]

/-- A URL check that was denied fails the check of its safety. -/
theorem denied_fails (status : ResultEnvelopeStatus) (output : JsonObject)
    (denied : Checks.urlDenied output = true) (report : VerifierReport)
    (ran : run Scenario.verifier .urlCheck (Scenario.sealed status output) none none
      "2026-01-01T00:00:00Z" = .ok report) :
    ∃ check ∈ report.checks, check.status = .failed ∧ check.name ∈ quarantineChecks := by
  have failed := (denied_iff .urlCheck Scenario.urlCheck_shipped
    (Scenario.sealed status output)).mpr ⟨rfl, denied⟩
  have named := (mem_failed Scenario.verifier .urlCheck (Scenario.sealed status output) none none
    "2026-01-01T00:00:00Z" report ran "url_policy_safety").mpr
      (.inr (.inr (.inr (.inr (.inr failed)))))
  obtain ⟨check, member, status, name⟩ := (mem_namesWith _ _ _).mp named
  exact ⟨check, member, status, by simp [name, quarantineChecks]⟩

/-- A denied result that has the members its schema requires is quarantined. -/
theorem quarantine_dominates_denied :
    ∃ report, run Scenario.verifier .urlCheck
      (Scenario.sealed .failed (("ok", .bool false) :: Scenario.deniedOutput)) none none
      "2026-01-01T00:00:00Z" = .ok report ∧ report.recommendation = .quarantine := by
  obtain ⟨report, ran⟩ := Scenario.sealed_returns .urlCheck .failed
    (("ok", .bool false) :: Scenario.deniedOutput) none
  refine ⟨report, ran, (quarantine_dominates_iff Scenario.verifier .urlCheck
    Scenario.urlCheck_shipped (Scenario.sealed .failed (("ok", .bool false) ::
      Scenario.deniedOutput)) (Scenario.digest_ne _) none none "2026-01-01T00:00:00Z" report
        ran).mpr ?_ (denied_fails _ _ (by decide) report ran)⟩
  rintro ⟨_, path, violated⟩
  cases violated

/-- A denied result that lacks a member its schema requires is sent back for a retry,
although it has an output hash and the check of its safety failed. -/
theorem denied_then_retried :
    (Scenario.sealed .failed Scenario.deniedOutput).outputHash ≠ "" ∧
      ∃ report, run Scenario.verifier .urlCheck (Scenario.sealed .failed Scenario.deniedOutput)
        none none "2026-01-01T00:00:00Z" = .ok report ∧
          (∃ check ∈ report.checks, check.status = .failed ∧ check.name ∈ quarantineChecks) ∧
          report.recommendation = .retry := by
  obtain ⟨report, ran⟩ := Scenario.sealed_returns .urlCheck .failed Scenario.deniedOutput none
  have present := (Scenario.sealed_validated .failed Scenario.deniedOutput).outputHash
  have plain := Scenario.sealed_plain .failed Scenario.deniedOutput (by decide +kernel)
  have untampered := Scenario.sealed_untampered .failed Scenario.deniedOutput
  have violated : Nonconforming Scenario.verifier .urlCheck
      (Scenario.sealed .failed Scenario.deniedOutput) none := ⟨List.cons_ne_nil _ _, [], rfl⟩
  refine ⟨present, report, ran, denied_fails _ _ (by decide) report ran, ?_⟩
  rw [recommendation_eq Scenario.verifier .urlCheck Scenario.urlCheck_shipped
    (Scenario.sealed .failed Scenario.deniedOutput) none none "2026-01-01T00:00:00Z" report ran,
    if_neg plain, if_neg present, if_neg untampered, if_pos violated]
  decide

end Recommendations

end TokenBank
