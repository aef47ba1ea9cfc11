import Mathlib.Data.Prod.Lex
import TokenBank.Core.Doubles
import TokenBank.Models.RouteDecision
import TokenBank.Order.Ranking
import TokenBank.Router.Profiles
import TokenBank.Router.TaskAnalyzer

/-!
# Scoring routes

Every candidate of a plan is put through ten hard filters and scored. Candidates that
pass come first, then higher totals, and the best one that passes is selected; where none
passes, the plan's own selection is kept. How numbers are computed is a parameter: each
operation of the source is one of its operations, in the order of the source. A float that
a profile or a report holds is the one nearest to the decimal it is written as.
-/

namespace TokenBank

namespace RouteScorer

/-- What a score is made of, and what decides it. -/
structure Comparison where
  workUnit : WorkUnit
  routePlan : RoutePlan
  taskProfile : TaskProfile
  capacityProfiles : List CapacityProfile
  taskAnalysisReport : TaskAnalysisReport

/-! ## Hard filters -/

/-- A status that a hard filter passes with. -/
def passing : HardFilterStatus → Bool
  | .fail => false
  | _ => true

/-- Pass under a condition. -/
def passIf (condition : Bool) : HardFilterStatus := if condition then .pass else .fail

/-- A candidate of a gateway class runs on the worker of the control plane. -/
def apiGatewayBoundary (candidate : RouteCandidate) : Bool :=
  !candidate.backendClass.apiGateway ||
    (Json.get candidate.workerSelector "worker_id").same (.str controlPlaneGatewayWorkerId)

/-- A text that is given and not empty. -/
def hasText (text : Option String) : Bool := text.any (fun text => text != "")

/-- The hard filters of a candidate. -/
def hardFilterResults (forbiddenClasses : List String) (workUnit : WorkUnit) (routePlan : RoutePlan)
    (candidate : RouteCandidate) (capacityProfile : CapacityProfile) (backend : BackendManifest)
    (report : TaskAnalysisReport) : List (String × HardFilterStatus) :=
  [("preflight_allow", passIf (report.preflightDecision = .allow)),
    ("task_type_supported", passIf (backend.supportedTaskTypes.contains workUnit.taskType)),
    ("privacy_boundary_allowed",
      passIf (backend.allowedPrivacyLevels.contains report.effectivePrivacyLevel)),
    ("verifier_available_for_L1_L2_L3",
      passIf (report.effectiveTaskLevel = .l0 || hasText candidate.verifierRecipeId)),
    ("backend_class_allowed", passIf (!forbiddenClasses.contains candidate.backendClass.text)),
    ("worker_direct_api_model_forbidden", passIf (apiGatewayBoundary candidate)),
    ("credential_boundary_valid", passIf (!report.privacyScan.rawSecretDetected)),
    ("capacity_health_not_quarantined", passIf (capacityProfile.availabilityState ≠ .unavailable)),
    ("task_level_not_downgraded",
      passIf (report.effectiveTaskLevel.rank ≤ routePlan.taskLevel.rank)),
    ("peer_negotiation_complete_for_peer_capacity",
      if capacityProfile.ownershipScope ≠ .peer then .notRequired else .fail)]

/-- All hard filters pass. -/
def hardFiltersPass (results : List (String × HardFilterStatus)) : Bool :=
  results.all (fun result => passing result.2)

section Arithmetic

variable (arithmetic : Arithmetic)

/-! ## Fits -/

/-- How far a capacity has the capabilities a task needs. -/
def capabilityFit (task : TaskProfile) (capacity : CapacityProfile) : Double :=
  if task.requiredCapabilities.isEmpty then arithmetic.nearest 1
  else
    let scores := task.requiredCapabilities.map (fun required =>
      match capacity.capabilities.lookup required.capability with
      | none => arithmetic.nearest 0
      | some score => .least (arithmetic.nearest 1) (arithmetic.div
          (arithmetic.nearest score.value)
          (.greatest (arithmetic.nearest required.minScore.value) (arithmetic.nearest (1 / 100)))))
    arithmetic.div (arithmetic.sum scores) (arithmetic.nearest scores.length)

/-- How well the model of a capacity, or the capacity itself, suits a difficulty. -/
def modelOrBackendTierFit (task : TaskProfile) (capacity : CapacityProfile) : Double :=
  let difficulty := task.difficulty.rank
  match capacity.modelProfile with
  | none =>
    if difficulty ≤ 1 ∧ (capacity.capabilities.lookup "deterministic_local").isSome then
      arithmetic.nearest (19 / 20)
    else if difficulty ≤ 2 ∧ capacity.backendClass = .browserFetch then arithmetic.nearest (4 / 5)
    else arithmetic.nearest (9 / 20)
  | some model =>
    let tier := model.modelTier.rank
    let requiredTier := if difficulty ≤ 1 then 0 else if difficulty ≤ 2 then 1 else 2
    if requiredTier ≤ tier then
      .least (arithmetic.nearest 1) (arithmetic.add (arithmetic.nearest (41 / 50))
        (arithmetic.mul (arithmetic.nearest (tier - requiredTier : Nat))
          (arithmetic.nearest (7 / 100))))
    else
      .greatest (arithmetic.nearest (1 / 4)) (arithmetic.sub (arithmetic.nearest (18 / 25))
        (arithmetic.mul (arithmetic.nearest (requiredTier - tier : Nat))
          (arithmetic.nearest (9 / 50))))

/-- How good the results of a capacity are expected to be. -/
def qualityFit (task : TaskProfile) (capacity : CapacityProfile) : Double :=
  let verifierFit :=
    if capacity.verifiedFor.any (fun verified => verified.taskType = task.taskType) then
      arithmetic.nearest (17 / 20)
    else arithmetic.nearest (11 / 20)
  let memoryFit :=
    match capacity.qualityMemory.verifierPassRate with
    | some rate =>
      if 0 < capacity.qualityMemory.sampleSize then arithmetic.nearest rate.value
      else arithmetic.nearest (7 / 10)
    | none => arithmetic.nearest (7 / 10)
  arithmetic.add
    (arithmetic.add
      (arithmetic.mul (arithmetic.nearest (11 / 20)) (modelOrBackendTierFit arithmetic task capacity))
      (arithmetic.mul (arithmetic.nearest (1 / 4)) verifierFit))
    (arithmetic.mul (arithmetic.nearest (1 / 5)) memoryFit)

/-- Whether a candidate is allowed. -/
def policyFit (decision : HardFilterDecision) : Double :=
  if decision = .pass then arithmetic.nearest 1 else arithmetic.nearest 0

/-- How cheap a candidate is. -/
def costFit (candidate : RouteCandidate) (task : TaskProfile) : Double :=
  let cost := candidate.estimatedCostMicros
  if cost = 0 then arithmetic.nearest 1
  else
    let base := arithmetic.nearest
      (if cost ≤ 1000 then 4 / 5
      else if cost ≤ 10000 then 13 / 20
      else if cost ≤ 100000 then 9 / 20
      else 1 / 4)
    match task.costPreference with
    | .costFirst =>
      .greatest (arithmetic.nearest 0) (arithmetic.sub base (arithmetic.nearest (1 / 10)))
    | .qualityFirst =>
      .least (arithmetic.nearest 1) (arithmetic.add base (arithmetic.nearest (1 / 20)))
    | .balanced => base

/-- How fast a capacity is. -/
def latencyFit (capacity : CapacityProfile) (task : TaskProfile) : Double :=
  arithmetic.nearest
    (if capacity.availabilityState = .degraded then 9 / 20
    else
      match capacity.latencyP50Ms with
      | none => if task.latencyPreference = .high then 29 / 50 else 13 / 20
      | some latency => if latency ≤ 500 then 19 / 20 else if latency ≤ 2000 then 3 / 4 else 9 / 20)

/-- How far a capacity is trusted. -/
def trustFit (capacity : CapacityProfile) : Double :=
  arithmetic.nearest
    (match capacity.ownershipScope with
    | .userLocal => 1
    | .system => 9 / 10
    | .teamLocal => 17 / 20
    | .peer => 2 / 5)

/-- Add to a penalty under a condition. -/
def addIf (condition : Bool) (amount : ℚ) (penalty : Double) : Double :=
  if condition then arithmetic.add penalty (arithmetic.nearest amount) else penalty

/-- What is taken off for what is not known. -/
def uncertaintyPenalty (capacity : CapacityProfile) (report : TaskAnalysisReport)
    (results : List (String × HardFilterStatus)) : Double :=
  let unsure := Double.greatest (arithmetic.nearest 0)
    (arithmetic.sub (arithmetic.nearest 1) (arithmetic.nearest report.confidence.value))
  let penalty := arithmetic.add (arithmetic.nearest (3 / 100))
    (arithmetic.mul unsure (arithmetic.nearest (3 / 25)))
  let penalty := addIf arithmetic (capacity.latencyP50Ms = none) (3 / 100) penalty
  let penalty := addIf arithmetic (capacity.qualityMemory.sampleSize = 0) (1 / 25) penalty
  let penalty := addIf arithmetic
    (results.any (fun result => result.2 = .pendingPolicyDecision)) (3 / 100) penalty
  .least (arithmetic.nearest (1 / 4)) penalty

/-! ## Scores -/

/-- The weights of a score when a pack gives none. -/
def defaultScoreWeights : ScoreWeights where
  capabilityFit := arithmetic.nearest (3 / 10)
  policyFit := arithmetic.nearest (1 / 4)
  qualityFit := arithmetic.nearest (1 / 5)
  costFit := arithmetic.nearest (1 / 10)
  latencyFit := arithmetic.nearest (1 / 20)
  trustFit := arithmetic.nearest (1 / 10)

/-- The weight of a component in a pack, as a float. -/
def scoreWeight (pack : LoadedRoutebookV1) (component : String) (other : Double) :
    Except Raised Double :=
  arithmetic.float ((pack.scoreWeights.lookup component).getD (.float other))

/-- A weight in proportion to the sum of all. -/
def proportion (total weight : Double) : Double := arithmetic.round4 (arithmetic.div weight total)

/-- The weights of a pack, in proportion to their sum. -/
def scoreWeights (pack : LoadedRoutebookV1) : Except Raised ScoreWeights := do
  let other := defaultScoreWeights arithmetic
  let capabilityFit ← scoreWeight arithmetic pack "capability_fit" other.capabilityFit
  let policyFit ← scoreWeight arithmetic pack "policy_fit" other.policyFit
  let qualityFit ← scoreWeight arithmetic pack "quality_fit" other.qualityFit
  let costFit ← scoreWeight arithmetic pack "cost_fit" other.costFit
  let latencyFit ← scoreWeight arithmetic pack "latency_fit" other.latencyFit
  let trustFit ← scoreWeight arithmetic pack "trust_fit" other.trustFit
  let total := arithmetic.sum
    [capabilityFit, policyFit, qualityFit, costFit, latencyFit, trustFit]
  if total ≤ .finite 0 then return other
  else return {
    capabilityFit := proportion arithmetic total capabilityFit
    policyFit := proportion arithmetic total policyFit
    qualityFit := proportion arithmetic total qualityFit
    costFit := proportion arithmetic total costFit
    latencyFit := proportion arithmetic total latencyFit
    trustFit := proportion arithmetic total trustFit }

/-- A member of a score, which must be between zero and one. -/
def unitMember : Double → Except Raised ℚ
  | .finite value => if 0 ≤ value ∧ value ≤ 1 then .ok value else .error .validationError
  | _ => .error .validationError

/-- What the fits of a candidate count for. -/
def weightedComponents (candidate : RouteCandidate) (decision : HardFilterDecision)
    (task : TaskProfile) (capacity : CapacityProfile) (weights : ScoreWeights) : ScoreWeights :=
  let weighted (fit weight : Double) := arithmetic.round4 (arithmetic.mul fit weight)
  { capabilityFit := weighted (capabilityFit arithmetic task capacity) weights.capabilityFit
    policyFit := weighted (policyFit arithmetic decision) weights.policyFit
    qualityFit := weighted (qualityFit arithmetic task capacity) weights.qualityFit
    costFit := weighted (costFit arithmetic candidate task) weights.costFit
    latencyFit := weighted (latencyFit arithmetic capacity task) weights.latencyFit
    trustFit := weighted (trustFit arithmetic capacity) weights.trustFit }

/-- What is taken off for a low priority. A priority that no float is near raises. -/
def priorityPenalty (candidate : RouteCandidate) : Except Raised Double := do
  let steps ← arithmetic.ofInt ((candidate.priority : Int) - 1)
  return .least (arithmetic.nearest (2 / 25)) (arithmetic.mul steps (arithmetic.nearest (1 / 25)))

/-- The total of the weighted components of a candidate, less two penalties. -/
def scoreTotal (decision : HardFilterDecision) (weighted : ScoreWeights)
    (uncertaintyPenalty priorityPenalty : Double) : Double :=
  if decision = .fail then arithmetic.nearest 0
  else
    .greatest (arithmetic.nearest 0) (.least (arithmetic.nearest 1)
      (arithmetic.sub (arithmetic.sub (arithmetic.sum weighted.values) uncertaintyPenalty)
        priorityPenalty))

/-- The score of a candidate and its weighted components. -/
def candidateScore (candidate : RouteCandidate) (decision : HardFilterDecision)
    (results : List (String × HardFilterStatus)) (task : TaskProfile) (capacity : CapacityProfile)
    (report : TaskAnalysisReport) (weights : ScoreWeights) :
    Except Raised (CandidateScore × ScoreWeights) := do
  let penalty := uncertaintyPenalty arithmetic capacity report results
  let weighted := weightedComponents arithmetic candidate decision task capacity weights
  let priorityPenalty ← priorityPenalty arithmetic candidate
  let total ← unitMember
    (arithmetic.round4 (scoreTotal arithmetic decision weighted penalty priorityPenalty))
  let capabilityFit ← unitMember (arithmetic.round4 (capabilityFit arithmetic task capacity))
  let policyFit ← unitMember (policyFit arithmetic decision)
  let qualityFit ← unitMember (arithmetic.round4 (qualityFit arithmetic task capacity))
  let costFit ← unitMember (arithmetic.round4 (costFit arithmetic candidate task))
  let latencyFit ← unitMember (arithmetic.round4 (latencyFit arithmetic capacity task))
  let trustFit ← unitMember (arithmetic.round4 (trustFit arithmetic capacity))
  let uncertaintyPenalty ← unitMember (arithmetic.round4 penalty)
  return (⟨total, capabilityFit, policyFit, qualityFit, costFit, latencyFit, trustFit,
    uncertaintyPenalty⟩, weighted)

end Arithmetic

/-- The capabilities that a task needs and a capacity does not have. -/
def missingRequiredCapabilities (task : TaskProfile) (capacity : CapacityProfile) : List String :=
  (task.requiredCapabilities.map RequiredCapability.capability).filter (fun capability =>
    (capacity.capabilities.lookup capability).isNone)

/-- The reason codes of a candidate. -/
def candidateReasonCodes (candidate : RouteCandidate) (results : List (String × HardFilterStatus))
    (decision : HardFilterDecision) (task : TaskProfile) (capacity : CapacityProfile)
    (report : TaskAnalysisReport) : List String :=
  let missing := missingRequiredCapabilities task capacity
  ["scorer:wp_rb3", "backend_class:" ++ candidate.backendClass.text,
    "priority:" ++ toString candidate.priority, "hard_filters:" ++ decision.text] ++
    (if hasText candidate.verifierRecipeId then ["verifier_recipe_available"] else []) ++
    (if missing.isEmpty then ["matches_required_capabilities"]
      else missing.map ("missing_capability:" ++ ·)) ++
    (if report.complexity.requiresStrongReasoning then ["strong_reasoning_required"] else []) ++
    (if candidate.estimatedCostMicros = 0 then ["zero_internal_cost_estimate"] else []) ++
    (results.filter (fun result => !passing result.2)).map ("hard_filter_failed:" ++ ·.1)

/-- Put a candidate through the hard filters and score it. -/
def scoreCandidate (arithmetic : Arithmetic) (forbiddenClasses : List String)
    (weights : ScoreWeights) (comparison : Comparison) (candidate : RouteCandidate)
    (backend : BackendManifest) (capacity : CapacityProfile) : Except Raised CandidateScoreTrace := do
  let results := hardFilterResults forbiddenClasses comparison.workUnit comparison.routePlan
    candidate capacity backend comparison.taskAnalysisReport
  let decision := if hardFiltersPass results then .pass else .fail
  let scored ← candidateScore arithmetic candidate decision results comparison.taskProfile capacity
    comparison.taskAnalysisReport weights
  return {
    candidateId := candidate.routeCandidateId
    score := scored.1
    hardFilterDecision := decision
    hardFilterResults := results
    weightedComponents := scored.2
    reasonCodes := candidateReasonCodes candidate results decision comparison.taskProfile capacity
      comparison.taskAnalysisReport }

/-! ## Ranks -/

/-- What a score is ranked by: whether it passes, its total, and the priority, the cost
and the id of its candidate. -/
abbrev RankKey := Nat ×ₗ ℚ ×ₗ Nat ×ₗ Nat ×ₗ String

/-- The candidate with an id, the last of those that share it. -/
def candidateById (candidates : List RouteCandidate) (candidateId : String) :
    Option RouteCandidate :=
  candidates.reverse.find? (fun candidate => candidate.routeCandidateId = candidateId)

/-- What a score is ranked by. -/
def rankKey (candidates : List RouteCandidate) (trace : CandidateScoreTrace) : RankKey :=
  let candidate := candidateById candidates trace.candidateId
  toLex (if trace.hardFilterDecision = .pass then 0 else 1,
    toLex (-trace.score.total,
      toLex ((candidate.map RouteCandidate.priority).getD 0,
        toLex ((candidate.map RouteCandidate.estimatedCostMicros).getD 0, trace.candidateId))))

/-- The scores in the order of their ranks. -/
def rankedScores (candidates : List RouteCandidate) (scores : List CandidateScoreTrace) :
    List CandidateScoreTrace :=
  Ranking.ranked (rankKey candidates) scores

/-- The scores with their ranks, the first one being one. -/
def withRanks (ranked : List CandidateScoreTrace) : List CandidateScoreTrace :=
  ranked.zipIdx.map (fun entry => { entry.1 with rank := some (entry.2 + 1) })

/-- The score under a candidate's id, the last one in the order of ranks. -/
def rankedById (ranked : List CandidateScoreTrace) (trace : CandidateScoreTrace) :
    CandidateScoreTrace :=
  ((withRanks ranked).reverse.find? (fun other => other.candidateId = trace.candidateId)).getD trace

/-- The first score that passes, in the order of ranks. -/
def firstPassing (ranked : List CandidateScoreTrace) : Option CandidateScoreTrace :=
  ranked.find? (fun trace => trace.hardFilterDecision = .pass)

/-- Why every candidate that is not selected was not. -/
def rejectedCandidates (selectedCandidateId : String) (scores : List CandidateScoreTrace) :
    List RejectedCandidateTrace :=
  (scores.filter (fun trace => trace.candidateId ≠ selectedCandidateId)).map (fun trace =>
    ⟨trace.candidateId,
      (if trace.hardFilterDecision = .fail then "hard_filter_failed"
        else "lower_score_than_selected") ::
        trace.reasonCodes.filter (fun reason =>
          "hard_filter_failed:".toList.isPrefixOf reason.toList)⟩)

/-- The profile of the capacity behind a candidate: the last one of its backend. -/
def capacityProfileOf (comparison : Comparison) (candidate : RouteCandidate) :
    Except Raised CapacityProfile :=
  match comparison.capacityProfiles.reverse.find? (fun capacity =>
    capacity.backendId = candidate.backendId) with
  | some capacity => .ok capacity
  | none => .error (.keyError candidate.backendId)

/-- The score of one candidate of a plan, with the weights of a pack. -/
def candidateTrace (arithmetic : Arithmetic) (routebook : LoadedRoutebook)
    (pack : LoadedRoutebookV1) (registry : BackendRegistry) (comparison : Comparison)
    (candidate : RouteCandidate) : Except Raised CandidateScoreTrace := do
  let weights ← scoreWeights arithmetic pack
  let backend ← registry.get candidate.backendId
  let capacity ← capacityProfileOf comparison candidate
  scoreCandidate arithmetic routebook.forbiddenRoutes.forbiddenBackendClasses weights comparison
    candidate backend capacity

/-- The scores of all candidates of a plan. -/
def candidateScores (arithmetic : Arithmetic) (routebook : LoadedRoutebook)
    (pack : LoadedRoutebookV1) (registry : BackendRegistry) (comparison : Comparison) :
    Except Raised (List CandidateScoreTrace) :=
  comparison.routePlan.candidates.mapM
    (candidateTrace arithmetic routebook pack registry comparison)

/-- The selection that ranked scores make: the first that passes, or the plan's own. -/
def selection (routePlan : RoutePlan) (ranked : List CandidateScoreTrace) :
    String × RouteSelectionStatus × List String :=
  match firstPassing ranked with
  | some best => (best.candidateId, .selectedHighestScoringCandidate,
      ["wp_rb3_route_scorer_applied", "selected_highest_scoring_passing_candidate"])
  | none => (routePlan.selectedCandidateId, .noPassingCandidateKeepExistingSelection,
      ["wp_rb3_route_scorer_applied", "no_passing_candidate", "kept_existing_route_plan_selection"])

/-- Score the candidates of a plan, and select one. -/
def score (arithmetic : Arithmetic) (routebook : LoadedRoutebook) (pack : LoadedRoutebookV1)
    (registry : BackendRegistry) (comparison : Comparison) : Except Raised RouteScoringReport := do
  let weights ← scoreWeights arithmetic pack
  let scores ← candidateScores arithmetic routebook pack registry comparison
  let ranked := rankedScores comparison.routePlan.candidates scores
  let reported := scores.map (rankedById ranked)
  let selected := selection comparison.routePlan ranked
  let routebookId ← BaseModel.nonEmptyStr pack.routebookId
  let routebookVersion ← BaseModel.nonEmptyStr pack.version
  let scorerId ← BaseModel.nonEmptyStr pack.scorerId
  let scorerVersion ← BaseModel.nonEmptyStr pack.scorerVersion
  return {
    routeScoringId := "rs_" ++ comparison.routePlan.routePlanId
    routePlanId := comparison.routePlan.routePlanId
    workUnitId := comparison.workUnit.workUnitId
    routebookId := routebookId
    routebookVersion := routebookVersion
    scorerId := scorerId
    scorerVersion := scorerVersion
    baselineSelectedCandidateId := comparison.routePlan.selectedCandidateId
    selectedCandidateId := selected.1
    selectionStatus := selected.2.1
    scoreWeights := weights
    candidateScores := reported
    rejectedCandidates := rejectedCandidates selected.1 reported
    reasonCodes := selected.2.2 }

/-- The plan with the selection of a report. -/
def applyScoredSelection (routePlan : RoutePlan) (report : RouteScoringReport) : RoutePlan :=
  routePlan.selecting report.selectedCandidateId

end RouteScorer

end TokenBank
