import TokenBank.Guarantees.Recommendations
import TokenBank.Host.Summary

/-!
# What acceptance says about a result

Nothing a verifier checks is the status an envelope reports, and nothing it checks an
output against is the request. A result that reports its own failure is accepted, and
summarised as succeeded, unless its content is refused. An output vouches for its own
sources and labels, and is accepted with those that the request never had.
-/

namespace TokenBank

namespace Scenario

/-- The work unit of a URL check. -/
def urlWorkUnit : WorkUnit where
  workUnitId := "wu_1"
  runId := "run_1"
  taskType := "url_check"
  taskLevel := .l0
  inlineInput := [("url", .str "https://example.com")]
  createdAt := "2026-01-01T00:00:00Z"
  updatedAt := "2026-01-01T00:00:00Z"

/-- The output of a URL check that met a server error. -/
def unavailable : JsonObject := [("ok", .bool false), ("status_code", .int 503)]

/-- The work unit of an extraction of claims from one source. -/
def claimWorkUnit : WorkUnit :=
  { urlWorkUnit with
    taskType := "claim_extraction"
    taskLevel := .l2
    inlineInput := [("text", .str "Costs fell."), ("source_id", .str "src_claim_1"),
      ("sources", .arr [.obj [("source_id", .str "src_claim_1"), ("text", .str "Costs fell.")]])] }

/-- The work unit of a classification among two labels. -/
def topicWorkUnit : WorkUnit :=
  { urlWorkUnit with
    taskType := "topic_classification"
    taskLevel := .l1
    inlineInput := [("text", .str "Costs fell."),
      ("allowed_labels", .arr [.str "finance", .str "policy"])] }

/-- A claim that refers to a source. -/
def claimAbout (source : String) : JsonObject :=
  [("claim_text", .str "Costs fell."), ("entity", .str "Costs"), ("claim_type", .str "metric"),
    ("confidence", .float "0.86"), ("source_post_refs", .arr [.str source]),
    ("evidence_hint", .str "Costs fell.")]

/-- An output with one claim, which lists the claim's source itself. -/
def claimsFrom (source : String) : JsonObject :=
  [("claims", .arr [.obj (claimAbout source)]), ("source_ids", .arr [.str source])]

/-- An output with a label that it lists itself. -/
def foreignLabel : JsonObject :=
  [("label", .str "science"), ("confidence", .float "0.9"), ("allowed_labels", .arr [.str "science"])]

/-- The recipe of the claims is shipped. -/
theorem claimExtraction_shipped : VerifierRecipe.claimExtraction ∈ VerifierRecipe.shipped := by
  simp [VerifierRecipe.shipped]

/-- Sealing an envelope does not change its output. -/
theorem sealed_output (status : ResultEnvelopeStatus) (output : JsonObject) :
    (sealed status output).output = output := rfl

end Scenario

namespace Acceptance

open Checks Verdict VerifierRunner

/-! ## Failed results -/

/-- A result that reports a failure or a quarantine is neither accepted nor summarised as
succeeded exactly when something about its content is refused: a secret, its hashes, the
policy linkage, its schema, or what its task's checker looks at. -/
theorem failure_respected_iff (platform : VerifierPlatform) (recipe : VerifierRecipe)
    (shipped : recipe ∈ VerifierRecipe.shipped) (envelope : WorkUnitResultEnvelope)
    (workUnit : WorkUnit) (policyDecision : Option JsonObject) (createdAt generatedAt : String)
    (report : VerifierReport)
    (ran : run platform recipe envelope (some workUnit.modelDump) policyDecision createdAt =
      .ok report) :
    (envelope.status = .failed ∨ envelope.status = .quarantined → Blocks report.recommendation ∧
        ∀ summary, Host.buildHostSummary workUnit envelope report generatedAt = .ok summary →
          summary.status ≠ .succeeded) ↔
      (envelope.status = .failed ∨ envelope.status = .quarantined →
        Refused platform recipe envelope (some workUnit.modelDump) policyDecision) := by
  rw [← blocks_iff platform recipe shipped envelope (some workUnit.modelDump) policyDecision
    createdAt report ran]
  constructor
  · intro respected unsuccessful
    exact (respected unsuccessful).1
  · intro refused unsuccessful
    have blocks := refused unsuccessful
    refine ⟨blocks, ?_⟩
    intro summary built succeeded
    rw [Host.summary_status workUnit envelope report generatedAt summary built,
      Host.summaryStatus_succeeded] at succeeded
    rcases succeeded.2 with accepted | warned
    · exact blocks.1 accepted
    · exact blocks.2 warned

/-- A URL check that reports its failure and a server error is rejected. -/
theorem failure_respected_unavailable :
    ∃ report, run Scenario.verifier .urlCheck (Scenario.sealed .failed Scenario.unavailable)
      (some Scenario.urlWorkUnit.modelDump) none "2026-01-01T00:00:00Z" = .ok report ∧
        Blocks report.recommendation := by
  obtain ⟨report, ran⟩ := Scenario.sealed_returns .urlCheck .failed Scenario.unavailable
    (some Scenario.urlWorkUnit.modelDump)
  have refused : Refused Scenario.verifier .urlCheck (Scenario.sealed .failed Scenario.unavailable)
      (some Scenario.urlWorkUnit.modelDump) none :=
    .inr (.inr (.inr (.inr (.inr (by decide)))))
  exact ⟨report, ran, ((failure_respected_iff Scenario.verifier .urlCheck
    Scenario.urlCheck_shipped (Scenario.sealed .failed Scenario.unavailable) Scenario.urlWorkUnit
    none "2026-01-01T00:00:00Z" "2026-01-01T00:00:00Z" report ran).mpr (fun _ => refused)
      (.inl rfl)).1⟩

/-- A report on a result that is not refused accepts it, with a warning or without. -/
theorem accepts_unrefused (recipe : VerifierRecipe) (shipped : recipe ∈ VerifierRecipe.shipped)
    (status : ResultEnvelopeStatus) (output : JsonObject) (workUnit : WorkUnit)
    (report : VerifierReport)
    (ran : run Scenario.verifier recipe (Scenario.sealed status output)
      (some workUnit.modelDump) none "2026-01-01T00:00:00Z" = .ok report)
    (fine : ¬ Refused Scenario.verifier recipe (Scenario.sealed status output)
      (some workUnit.modelDump) none) :
    report.recommendation = .accept ∨ report.recommendation = .acceptWithWarning := by
  rw [Recommendations.accepted_of_nothing_refused Scenario.verifier recipe
    (Scenario.sealed status output) (some workUnit.modelDump) none "2026-01-01T00:00:00Z" report ran
    shipped fine]
  split
  · exact .inl rfl
  · exact .inr rfl

/-- A result that reports a failure, with the output of a success and the hashes of its
content, is accepted and summarised as succeeded. -/
theorem failure_accepted :
    (Scenario.sealed .failed Scenario.fineOutput).status = .failed ∧
      ∃ report, run Scenario.verifier .urlCheck (Scenario.sealed .failed Scenario.fineOutput)
        (some Scenario.urlWorkUnit.modelDump) none "2026-01-01T00:00:00Z" = .ok report ∧
          (report.recommendation = .accept ∨ report.recommendation = .acceptWithWarning) ∧
          ∃ summary, Host.buildHostSummary Scenario.urlWorkUnit
            (Scenario.sealed .failed Scenario.fineOutput) report "2026-01-01T00:00:00Z" =
              .ok summary ∧ summary.status = .succeeded := by
  obtain ⟨report, ran⟩ := Scenario.sealed_returns .urlCheck .failed Scenario.fineOutput
    (some Scenario.urlWorkUnit.modelDump)
  have accepted := accepts_unrefused .urlCheck Scenario.urlCheck_shipped .failed
    Scenario.fineOutput Scenario.urlWorkUnit report ran (Scenario.sealed_unrefused .urlCheck
      .failed Scenario.fineOutput (some Scenario.urlWorkUnit.modelDump) (by decide)
      (by decide) (by decide))
  have named : Host.resultSummary (Scenario.sealed .failed Scenario.fineOutput).output =
      .ok "url_check completed" := by
    decide
  refine ⟨rfl, report, ran, accepted, _, by rw [Host.buildHostSummary, named]; rfl, ?_⟩
  exact (Host.summaryStatus_succeeded _ report).mpr ⟨by decide, accepted⟩

/-! ## Sources and labels -/

/-- The id of one source of a request. -/
def sourceId : Json → Option String
  | .obj source => (Host.orElse (Json.get source "source_id") (Json.get source "id")).nonEmptyText
  | _ => none

/-- The source ids of a request. -/
def requestSourceIds (inlineInput : JsonObject) : List String :=
  (Json.get inlineInput "source_id").nonEmptyText.toList ++
    match Json.get inlineInput "sources" with
    | .arr sources => sources.filterMap sourceId
    | _ => []

/-- A claim of an output refers to a source. -/
def RefersTo (output : JsonObject) (ref : String) : Prop :=
  ∃ claims claim, listedClaims output = some claims ∧ .obj claim ∈ claims ∧
    ref ∈ claimSourceRefs claim

/-- The label of an output is one of some labels. -/
def labelAmong (output : JsonObject) (labels : List Json) : Bool :=
  labels.any (fun label => (Json.get output "label").same label)

/-- An output is grounded in a request: the sources of its claims are the request's, and
so is its label if the request lists labels. -/
structure Grounded (recipe : VerifierRecipe) (inlineInput output : JsonObject) : Prop where
  sources : recipe.verifierRecipeId = "claim_extraction_v0" →
    ∀ ref, RefersTo output ref → ref ∈ requestSourceIds inlineInput
  label : recipe.verifierRecipeId = "topic_classification_v0" →
    ∀ labels, Json.get inlineInput "allowed_labels" = .arr labels → labelAmong output labels = true

/-- An output vouches by itself for a source or a label that the request does not have:
its own list admits it, or it has no list of its own. -/
inductive SelfVouched (recipe : VerifierRecipe) (inlineInput output : JsonObject) : Prop
  | source (claims : recipe.verifierRecipeId = "claim_extraction_v0") (ref : String)
      (refers : RefersTo output ref) (admitted : sourceAllowed (claimSourceIds output) ref = true)
      (foreign : ref ∉ requestSourceIds inlineInput)
  | label (topic : recipe.verifierRecipeId = "topic_classification_v0") (labels : List Json)
      (requested : Json.get inlineInput "allowed_labels" = .arr labels)
      (admitted : labelRefused output = false) (foreign : labelAmong output labels = false)

/-- An output that is grounded vouches for nothing by itself. -/
theorem Grounded.not_selfVouched {recipe : VerifierRecipe} {inlineInput output : JsonObject}
    (grounded : Grounded recipe inlineInput output) : ¬ SelfVouched recipe inlineInput output := by
  intro vouched
  cases vouched with
  | source claims ref refers admitted foreign => exact foreign (grounded.sources claims ref refers)
  | label topic labels requested admitted foreign =>
    rw [grounded.label topic labels requested] at foreign
    cases foreign

/-- An output whose content is not refused and which vouches for nothing by itself is
grounded. -/
theorem grounded_of_fine (recipe : VerifierRecipe) (inlineInput output : JsonObject)
    (fine : outputRefused recipe.verifierRecipeId output = false)
    (vouchless : ¬ SelfVouched recipe inlineInput output) :
    Grounded recipe inlineInput output := by
  constructor
  · intro claimExtraction ref refers
    by_contra foreign
    apply vouchless
    refine .source claimExtraction ref refers ?_ foreign
    obtain ⟨claims, claim, listed, inClaims, inRefs⟩ := refers
    have sound : claims.any (claimFaulty output) = false := by
      simpa [outputRefused, claimExtraction, listed] using fine
    have faultless := List.any_eq_false.mp sound (.obj claim) inClaims
    simp only [claimFaulty, Bool.not_eq_true, Bool.or_eq_false_iff, Bool.not_eq_false'] at faultless
    exact List.all_eq_true.mp faultless.1.2 ref inRefs
  · intro topic labels requested
    by_contra foreign
    apply vouchless
    refine .label topic labels requested ?_ (Bool.not_eq_true _ ▸ foreign)
    have sound : labelRefused output = false ∧
        inUnitInterval (Json.get output "confidence") = true := by
      simpa [outputRefused, topic] using fine
    exact sound.1

/-- An accepted result is grounded in the request exactly when a result that vouches by
itself for a source or a label is refused on other grounds. -/
theorem acceptance_grounded_iff (platform : VerifierPlatform) (recipe : VerifierRecipe)
    (shipped : recipe ∈ VerifierRecipe.shipped) (envelope : WorkUnitResultEnvelope)
    (workUnit : WorkUnit) (policyDecision : Option JsonObject) (createdAt : String)
    (report : VerifierReport)
    (ran : run platform recipe envelope (some workUnit.modelDump) policyDecision createdAt =
      .ok report) :
    (report.recommendation = .accept ∨ report.recommendation = .acceptWithWarning →
        Grounded recipe workUnit.inlineInput envelope.output) ↔
      (SelfVouched recipe workUnit.inlineInput envelope.output →
        Refused platform recipe envelope (some workUnit.modelDump) policyDecision) := by
  have blocks := blocks_iff platform recipe shipped envelope (some workUnit.modelDump)
    policyDecision createdAt report ran
  have accepted : report.recommendation = .accept ∨ report.recommendation = .acceptWithWarning ↔
      ¬ Refused platform recipe envelope (some workUnit.modelDump) policyDecision := by
    rw [← blocks, Blocks]
    tauto
  rw [accepted]
  constructor
  · intro grounded vouched
    by_contra fine
    exact (grounded fine).not_selfVouched vouched
  · intro refused fine
    apply grounded_of_fine
    · simp only [Refused, not_or, Bool.not_eq_true] at fine
      exact fine.2.2.2.2.2
    · exact mt refused fine

/-- Claims about the source of the request are accepted and grounded. -/
theorem acceptance_grounded_own :
    Grounded .claimExtraction Scenario.claimWorkUnit.inlineInput
      (Scenario.claimsFrom "src_claim_1") := by
  obtain ⟨report, ran⟩ := Scenario.sealed_returns .claimExtraction .succeeded
    (Scenario.claimsFrom "src_claim_1") (some Scenario.claimWorkUnit.modelDump)
  have accepted := accepts_unrefused .claimExtraction Scenario.claimExtraction_shipped .succeeded
    (Scenario.claimsFrom "src_claim_1") Scenario.claimWorkUnit report ran
    (Scenario.sealed_unrefused .claimExtraction .succeeded _ _ (by decide)
      (by decide +kernel) (by decide +kernel))
  refine (acceptance_grounded_iff Scenario.verifier .claimExtraction
    Scenario.claimExtraction_shipped
    (Scenario.sealed .succeeded (Scenario.claimsFrom "src_claim_1")) Scenario.claimWorkUnit none
    "2026-01-01T00:00:00Z" report ran).mpr ?_ accepted
  intro vouched
  cases vouched with
  | source claims ref refers admitted foreign =>
    have own : claimSourceIds (Scenario.claimsFrom "src_claim_1") = ["src_claim_1"] := by
      decide
    rw [Scenario.sealed_output, own] at admitted
    have listed : ref = "src_claim_1" := by
      simpa [sourceAllowed] using admitted
    subst listed
    exact absurd (by decide) foreign
  | label topic labels requested admitted foreign => exact absurd topic (by decide)

/-- A claim is accepted that refers to a source the request does not have, and a label is
accepted that the request does not allow: the outputs list them themselves. -/
theorem foreign_accepted :
    (∃ report, run Scenario.verifier .claimExtraction
      (Scenario.sealed .succeeded (Scenario.claimsFrom "src_other"))
      (some Scenario.claimWorkUnit.modelDump) none "2026-01-01T00:00:00Z" = .ok report ∧
        (report.recommendation = .accept ∨ report.recommendation = .acceptWithWarning) ∧
        "src_other" ∈ claimSourceRefs (Scenario.claimAbout "src_other") ∧
        "src_other" ∉ requestSourceIds Scenario.claimWorkUnit.inlineInput) ∧
      ∃ report, run Scenario.verifier .topicClassification
        (Scenario.sealed .succeeded Scenario.foreignLabel)
        (some Scenario.topicWorkUnit.modelDump) none "2026-01-01T00:00:00Z" = .ok report ∧
          (report.recommendation = .accept ∨ report.recommendation = .acceptWithWarning) ∧
          labelAmong Scenario.foreignLabel [.str "finance", .str "policy"] = false := by
  constructor
  · obtain ⟨report, ran⟩ := Scenario.sealed_returns .claimExtraction .succeeded
      (Scenario.claimsFrom "src_other") (some Scenario.claimWorkUnit.modelDump)
    have accepted := accepts_unrefused .claimExtraction Scenario.claimExtraction_shipped
      .succeeded (Scenario.claimsFrom "src_other") Scenario.claimWorkUnit report ran
      (Scenario.sealed_unrefused .claimExtraction .succeeded _ _ (by decide)
        (by decide +kernel) (by decide +kernel))
    exact ⟨report, ran, accepted, by decide, by decide⟩
  · obtain ⟨report, ran⟩ := Scenario.sealed_returns .topicClassification .succeeded
      Scenario.foreignLabel (some Scenario.topicWorkUnit.modelDump)
    have accepted := accepts_unrefused .topicClassification
      (by simp [VerifierRecipe.shipped]) .succeeded Scenario.foreignLabel Scenario.topicWorkUnit
      report ran (Scenario.sealed_unrefused .topicClassification .succeeded _ _
        (by decide +kernel) (by decide +kernel) (by decide +kernel))
    exact ⟨report, ran, accepted, by decide⟩

end Acceptance

end TokenBank
