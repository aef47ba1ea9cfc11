import Mathlib.Algebra.Order.BigOperators.Group.List
import Mathlib.Tactic.MkIffOfInductiveProp
import TokenBank.Core.Rounding
import TokenBank.Guarantees.Selection

/-!
# Dominance

In exact arithmetic, a candidate that is at least as good as another one in all that is scored has
at least its total: weights are not negative, and weighting, rounding, taking off penalties and
bounding keep the order. With the lower priority number, the lower cost and the smaller id it is
therefore ranked first. All parts of a score are between zero and one, so that none is refused.
-/

namespace TokenBank

namespace RouteScorer

/-! ## Fits -/

section Fits

variable (task : TaskProfile) (capacity : CapacityProfile) (candidate : RouteCandidate)

/-- Capabilities fit between not at all and fully. -/
theorem capabilityFit_inUnit : (capabilityFit .exact task capacity).InUnit := by
  unfold capabilityFit
  cases required : task.requiredCapabilities with
  | nil => exact ⟨1, by norm_num, rfl⟩
  | cons first rest =>
    rw [if_neg (by simp)]
    apply Arithmetic.exact_mean_inUnit
    · simp
    · intro number listed
      obtain ⟨capability, -, rfl⟩ := List.mem_map.mp listed
      cases capacity.capabilities.lookup capability.capability with
      | none => exact ⟨0, by norm_num, rfl⟩
      | some score =>
        simp only [Arithmetic.exact_nearest, Double.greatest_finite, Arithmetic.exact_div,
          Double.least_finite, Double.inUnit_finite_iff]
        refine ⟨le_min zero_le_one (div_nonneg score.bounded.1 ?_), min_le_left _ _⟩
        exact le_max_of_le_right (by norm_num)

/-- Tiers fit between a quarter and fully. -/
theorem modelOrBackendTierFit_inUnit : (modelOrBackendTierFit .exact task capacity).InUnit := by
  unfold modelOrBackendTierFit
  cases capacity.modelProfile with
  | none =>
    dsimp only
    split_ifs <;> norm_num
  | some model =>
    dsimp only
    generalize (if task.difficulty.rank ≤ 1 then 0 else if task.difficulty.rank ≤ 2 then 1 else 2)
      = requiredTier
    simp only [Arithmetic.exact_nearest, Arithmetic.exact_mul, Arithmetic.exact_add,
      Arithmetic.exact_sub, Double.least_finite, Double.greatest_finite]
    split_ifs
    · have above : (0 : ℚ) ≤ (model.modelTier.rank - requiredTier : Nat) := Nat.cast_nonneg _
      exact ⟨_, ⟨le_min zero_le_one (by linarith), min_le_left _ _⟩, rfl⟩
    · have below : (0 : ℚ) ≤ (requiredTier - model.modelTier.rank : Nat) := Nat.cast_nonneg _
      exact ⟨_, ⟨le_max_of_le_left (by norm_num), max_le (by norm_num) (by linarith)⟩, rfl⟩

/-- Quality fits between not at all and fully. -/
theorem qualityFit_inUnit : (qualityFit .exact task capacity).InUnit := by
  obtain ⟨tier, ⟨tier_low, tier_high⟩, tier_fit⟩ := modelOrBackendTierFit_inUnit task capacity
  unfold qualityFit
  simp only [tier_fit, Arithmetic.exact_nearest]
  cases capacity.qualityMemory.verifierPassRate with
  | none =>
    split_ifs <;> simp only [Arithmetic.exact_mul, Arithmetic.exact_add] <;>
      exact ⟨_, ⟨by linarith, by linarith⟩, rfl⟩
  | some rate =>
    obtain ⟨rate_low, rate_high⟩ := rate.bounded
    dsimp only
    split_ifs <;> simp only [Arithmetic.exact_mul, Arithmetic.exact_add] <;>
      exact ⟨_, ⟨by linarith, by linarith⟩, rfl⟩

/-- Cost fits between not at all and fully. -/
theorem costFit_inUnit : (costFit .exact candidate task).InUnit := by
  unfold costFit
  simp only [Arithmetic.exact_nearest, Arithmetic.exact_add, Arithmetic.exact_sub,
    Double.least_finite, Double.greatest_finite]
  split_ifs <;> cases task.costPreference <;> norm_num

/-- Latency fits between not at all and fully. -/
theorem latencyFit_inUnit : (latencyFit .exact capacity task).InUnit := by
  rw [latencyFit, Arithmetic.exact_nearest, Double.inUnit_finite_iff]
  cases capacity.latencyP50Ms with
  | none => split_ifs <;> norm_num
  | some latency =>
    dsimp only
    split_ifs <;> norm_num

/-- Trust is between none and full. -/
theorem trustFit_inUnit : (trustFit .exact capacity).InUnit := by
  rw [trustFit, Arithmetic.exact_nearest, Double.inUnit_finite_iff]
  cases capacity.ownershipScope <;> norm_num

/-- A candidate is allowed or not. -/
theorem policyFit_inUnit (decision : HardFilterDecision) : (policyFit .exact decision).InUnit := by
  unfold policyFit
  split_ifs <;> norm_num

/-- What is taken off for what is not known is between nothing and all. -/
theorem uncertaintyPenalty_inUnit (report : TaskAnalysisReport)
    (results : List (String × HardFilterStatus)) :
    (uncertaintyPenalty .exact capacity report results).InUnit := by
  have unsure : 0 ≤ max 0 (1 - report.confidence.value) := le_max_left _ _
  unfold uncertaintyPenalty addIf
  simp only [Arithmetic.exact_nearest, Arithmetic.exact_sub, Double.greatest_finite,
    Arithmetic.exact_mul, Arithmetic.exact_add]
  split_ifs <;> simp only [Arithmetic.exact_add, Double.least_finite, Double.inUnit_finite_iff] <;>
    exact ⟨le_min (by norm_num) (by linarith), min_le_of_left_le (by norm_num)⟩

/-- What is taken off for a low priority. -/
theorem priorityPenalty_exact : priorityPenalty .exact candidate =
    .ok (.finite (min (2 / 25) (((candidate.priority : ℚ) - 1) * (1 / 25)))) := by
  simp [priorityPenalty]

end Fits

/-! ## Weights -/

/-- Weights are finite and not negative, or one of them is no number. -/
def Proportions (weights : ScoreWeights) : Prop :=
  (∀ weight ∈ weights.values, ∃ value : ℚ, 0 ≤ value ∧ weight = .finite value) ∨
    .nan ∈ weights.values

/-- What a pack gives for a weight is not negative where its default is not. -/
theorem scoreWeight_exact (pack : LoadedRoutebookV1) (component : String) (other : ℚ)
    (nonNegative : 0 ≤ other) : ∃ weight,
      scoreWeight .exact pack component (Arithmetic.exact.nearest other) = .ok weight ∧
        weight.less (.finite 0) = false := by
  cases found : pack.scoreWeights.lookup component with
  | none =>
    exact ⟨.finite other, by simp [scoreWeight, found, Arithmetic.float],
      by simpa [Double.less] using nonNegative⟩
  | some weight =>
    obtain ⟨before, after, listed, -⟩ := List.lookup_eq_some_iff.mp found
    have given := pack.nonNegative (component, weight) (by simp [listed])
    cases weight with
    | int value =>
      refine ⟨.finite value, by simp [scoreWeight, found, Arithmetic.float], ?_⟩
      simpa [PythonNumber.negative, Double.less] using given
    | float value => exact ⟨value, by simp [scoreWeight, found, Arithmetic.float], given⟩

/-- What is not negative is finite, endless or no number. -/
theorem not_negative_cases (number : Double) (notNegative : number.less (.finite 0) = false) :
    (∃ value : ℚ, 0 ≤ value ∧ number = .finite value) ∨ number = .infinity true ∨ number = .nan := by
  cases number with
  | finite value => exact .inl ⟨value, by simpa [Double.less] using notNegative, rfl⟩
  | infinity positive => simpa [Double.less] using notNegative
  | nan => exact .inr (.inr rfl)

/-- Weights that are not negative are, in proportion to their sum, finite and not negative, or one
of them is no number. -/
theorem proportion_exact (weights : List Double)
    (notNegative : ∀ weight ∈ weights, weight.less (.finite 0) = false) :
    (∀ weight ∈ weights, ∃ value : ℚ, 0 ≤ value ∧
      proportion .exact (Arithmetic.exact.sum weights) weight = .finite value) ∨
    ∃ weight ∈ weights, proportion .exact (Arithmetic.exact.sum weights) weight = .nan := by
  have total_not_negative := Arithmetic.exact_sum_not_negative weights notNegative
  rcases not_negative_cases _ total_not_negative with ⟨total, nonNegative, summed⟩ | endless
  · refine .inl (fun weight listed => ?_)
    obtain ⟨value, rfl⟩ := Double.plainSum_finite _ _ _ summed weight listed
    have own : 0 ≤ value := by simpa [Double.less] using notNegative _ listed
    refine ⟨Double.fourDecimals (value / total), ?_, ?_⟩
    · exact Double.fourDecimals_nonneg _ (div_nonneg own nonNegative)
    · rw [proportion, summed, Arithmetic.exact_div, Arithmetic.exact_round4]
  · -- A sum of finite numbers is finite.
    have some_endless : ∃ weight ∈ weights, ¬∃ value, weight = .finite value := by
      by_contra all_finite
      push Not at all_finite
      obtain ⟨values, rfl⟩ : ∃ values : List ℚ, weights = values.map .finite := by
        choose! value equal using all_finite
        refine ⟨weights.map value, ?_⟩
        rw [List.map_map]
        exact (List.map_id weights).symm.trans (List.map_congr_left equal)
      rw [Arithmetic.exact_sum] at endless
      simp at endless
    obtain ⟨weight, listed, not_finite⟩ := some_endless
    refine .inr ⟨weight, listed, ?_⟩
    rcases not_negative_cases weight (notNegative _ listed) with ⟨value, -, equal⟩ | equal | equal
    · exact absurd ⟨value, equal⟩ not_finite
    all_goals
      rcases endless with total | total <;> rw [equal, total] <;> rfl

/-- The weights of a pack. -/
theorem scoreWeights_exact (pack : LoadedRoutebookV1) :
    ∃ weights, scoreWeights .exact pack = .ok weights ∧ Proportions weights := by
  obtain ⟨capability, capability_given, capability_ok⟩ :=
    scoreWeight_exact pack "capability_fit" (3 / 10) (by norm_num)
  obtain ⟨policy, policy_given, policy_ok⟩ :=
    scoreWeight_exact pack "policy_fit" (1 / 4) (by norm_num)
  obtain ⟨quality, quality_given, quality_ok⟩ :=
    scoreWeight_exact pack "quality_fit" (1 / 5) (by norm_num)
  obtain ⟨cost, cost_given, cost_ok⟩ := scoreWeight_exact pack "cost_fit" (1 / 10) (by norm_num)
  obtain ⟨latency, latency_given, latency_ok⟩ :=
    scoreWeight_exact pack "latency_fit" (1 / 20) (by norm_num)
  obtain ⟨trust, trust_given, trust_ok⟩ := scoreWeight_exact pack "trust_fit" (1 / 10) (by norm_num)
  let given := [capability, policy, quality, cost, latency, trust]
  have given_ok : ∀ weight ∈ given, weight.less (.finite 0) = false := by
    simp [given, capability_ok, policy_ok, quality_ok, cost_ok, latency_ok, trust_ok]
  unfold scoreWeights defaultScoreWeights
  simp only [capability_given, policy_given, quality_given, cost_given, latency_given, trust_given]
  by_cases none_counts : Arithmetic.exact.sum given ≤ .finite 0
  · refine ⟨_, if_pos none_counts, .inl ?_⟩
    simp only [ScoreWeights.values, List.forall_mem_cons, List.not_mem_nil, Arithmetic.exact_nearest]
    exact ⟨⟨_, by norm_num, rfl⟩, ⟨_, by norm_num, rfl⟩, ⟨_, by norm_num, rfl⟩,
      ⟨_, by norm_num, rfl⟩, ⟨_, by norm_num, rfl⟩, ⟨_, by norm_num, rfl⟩, by simp⟩
  · refine ⟨_, if_neg none_counts, ?_⟩
    change (∀ weight ∈ given.map (proportion .exact (Arithmetic.exact.sum given)), _) ∨
      _ ∈ given.map (proportion .exact (Arithmetic.exact.sum given))
    simpa [List.forall_mem_map, List.mem_map] using proportion_exact given given_ok

/-! ## Scores -/

/-- All parts of a score are between zero and one. -/
structure WithinUnit (score : CandidateScore) : Prop where
  total : score.total ∈ Set.Icc 0 1
  capabilityFit : score.capabilityFit ∈ Set.Icc 0 1
  policyFit : score.policyFit ∈ Set.Icc 0 1
  qualityFit : score.qualityFit ∈ Set.Icc 0 1
  costFit : score.costFit ∈ Set.Icc 0 1
  latencyFit : score.latencyFit ∈ Set.Icc 0 1
  trustFit : score.trustFit ∈ Set.Icc 0 1
  uncertaintyPenalty : score.uncertaintyPenalty ∈ Set.Icc 0 1

/-- What a member of a score must be. -/
theorem unitMember_ok_iff (number : Double) (value : ℚ) :
    unitMember number = .ok value ↔ number = .finite value ∧ value ∈ Set.Icc 0 1 := by
  cases number with
  | finite own =>
    unfold unitMember
    dsimp only
    split_ifs with within
    · simp only [Except.ok.injEq, Double.finite.injEq, Set.mem_Icc]
      exact ⟨fun same => ⟨same, same ▸ within⟩, And.left⟩
    · simp only [Double.finite.injEq, Set.mem_Icc, false_iff, not_and]
      rintro rfl low high
      exact within ⟨low, high⟩
  | infinity positive => simp [unitMember]
  | nan => simp [unitMember]

/-- A rounded number between zero and one can be a member of a score. -/
theorem unitMember_round4 (number : Double) (within : number.InUnit) :
    ∃ value, unitMember (Arithmetic.exact.round4 number) = .ok value := by
  obtain ⟨value, bounded, rfl⟩ := within
  exact ⟨_, (unitMember_ok_iff _ _).mpr ⟨rfl, Double.fourDecimals_mem_unit value bounded⟩⟩

/-- A number between zero and one can be a member of a score. -/
theorem unitMember_inUnit (number : Double) (within : number.InUnit) :
    ∃ value, unitMember number = .ok value := by
  obtain ⟨value, bounded, rfl⟩ := within
  exact ⟨value, (unitMember_ok_iff _ _).mpr ⟨rfl, bounded⟩⟩

/-- A total is between zero and one, whatever its parts are. -/
theorem scoreTotal_inUnit (decision : HardFilterDecision) (weighted : ScoreWeights)
    (penalty priorityPenalty : Double) :
    (scoreTotal .exact decision weighted penalty priorityPenalty).InUnit := by
  unfold scoreTotal
  split_ifs
  · exact ⟨0, by norm_num, rfl⟩
  · exact Double.bounded_inUnit _

section CandidateScores

variable (candidate : RouteCandidate) (decision : HardFilterDecision)
  (results : List (String × HardFilterStatus)) (task : TaskProfile) (capacity : CapacityProfile)
  (report : TaskAnalysisReport) (weights : ScoreWeights)

/-- No score is refused. -/
theorem candidateScore_exact : ∃ scored, candidateScore .exact candidate decision results task
    capacity report weights = .ok scored := by
  obtain ⟨total, total_ok⟩ := unitMember_round4 _ (scoreTotal_inUnit decision
    (weightedComponents .exact candidate decision task capacity weights)
    (uncertaintyPenalty .exact capacity report results)
    (.finite (min (2 / 25) (((candidate.priority : ℚ) - 1) * (1 / 25)))))
  obtain ⟨capability, capability_ok⟩ := unitMember_round4 _ (capabilityFit_inUnit task capacity)
  obtain ⟨policy, policy_ok⟩ := unitMember_inUnit _ (policyFit_inUnit decision)
  obtain ⟨quality, quality_ok⟩ := unitMember_round4 _ (qualityFit_inUnit task capacity)
  obtain ⟨cost, cost_ok⟩ := unitMember_round4 _ (costFit_inUnit task candidate)
  obtain ⟨latency, latency_ok⟩ := unitMember_round4 _ (latencyFit_inUnit task capacity)
  obtain ⟨trust, trust_ok⟩ := unitMember_round4 _ (trustFit_inUnit capacity)
  obtain ⟨penalty, penalty_ok⟩ :=
    unitMember_round4 _ (uncertaintyPenalty_inUnit capacity report results)
  simp only [candidateScore, priorityPenalty_exact, Store.bind_ok_iff, Except.ok.injEq,
    exists_eq_left', total_ok, capability_ok, policy_ok, quality_ok, cost_ok, latency_ok, trust_ok,
    penalty_ok]
  exact ⟨_, rfl⟩

/-- A score that is not refused has the rounded total, and all its parts are between zero and
one. -/
theorem candidateScore_spec (score : CandidateScore) (weighted : ScoreWeights)
    (scored : candidateScore .exact candidate decision results task capacity report weights =
      .ok (score, weighted)) :
    Arithmetic.exact.round4 (scoreTotal .exact decision
        (weightedComponents .exact candidate decision task capacity weights)
        (uncertaintyPenalty .exact capacity report results)
        (.finite (min (2 / 25) (((candidate.priority : ℚ) - 1) * (1 / 25))))) =
      .finite score.total ∧ WithinUnit score := by
  simp only [candidateScore, priorityPenalty_exact, Store.bind_ok_iff, unitMember_ok_iff,
    Except.ok.injEq, exists_eq_left'] at scored
  obtain ⟨total, ⟨total_rounded, total_within⟩, capability, ⟨-, capability_within⟩, policy,
    ⟨-, policy_within⟩, quality, ⟨-, quality_within⟩, cost, ⟨-, cost_within⟩, latency,
    ⟨-, latency_within⟩, trust, ⟨-, trust_within⟩, penalty, ⟨-, penalty_within⟩, returned⟩ := scored
  obtain ⟨rfl, -⟩ := Prod.mk.inj (Except.ok.inj returned)
  exact ⟨total_rounded, total_within, capability_within, policy_within, quality_within, cost_within,
    latency_within, trust_within, penalty_within⟩

end CandidateScores

/-! ## Dominance -/

/-- A candidate with its capacity and the results of its hard filters is at least as good as
another one in all that is scored, and has the smaller id. -/
@[mk_iff] structure Dominates (task : TaskProfile) (report : TaskAnalysisReport)
    (candidate rival : RouteCandidate) (capacity rivalCapacity : CapacityProfile)
    (results rivalResults : List (String × HardFilterStatus)) : Prop where
  capabilityFit : capabilityFit .exact task rivalCapacity ≤ capabilityFit .exact task capacity
  qualityFit : qualityFit .exact task rivalCapacity ≤ qualityFit .exact task capacity
  costFit : costFit .exact rival task ≤ costFit .exact candidate task
  latencyFit : latencyFit .exact rivalCapacity task ≤ latencyFit .exact capacity task
  trustFit : trustFit .exact rivalCapacity ≤ trustFit .exact capacity
  uncertaintyPenalty : uncertaintyPenalty .exact capacity report results ≤
    uncertaintyPenalty .exact rivalCapacity report rivalResults
  priority : candidate.priority ≤ rival.priority
  estimatedCost : candidate.estimatedCostMicros ≤ rival.estimatedCostMicros
  earlier : candidate.routeCandidateId < rival.routeCandidateId

/-- Two numbers are finite and in order, and the first is not negative. -/
def InOrder (left right : Double) : Prop :=
  ∃ less more : ℚ, 0 ≤ less ∧ less ≤ more ∧ left = .finite less ∧ right = .finite more

/-- A weighted part keeps the order. -/
theorem weighted_mono (weight : ℚ) (nonNegative : 0 ≤ weight) (left right : Double)
    (left_within : left.InUnit) (right_within : right.InUnit) (ordered : left ≤ right) :
    InOrder (Arithmetic.exact.round4 (Arithmetic.exact.mul left (.finite weight)))
      (Arithmetic.exact.round4 (Arithmetic.exact.mul right (.finite weight))) := by
  obtain ⟨less, ⟨low, -⟩, rfl⟩ := left_within
  obtain ⟨more, -, rfl⟩ := right_within
  have ordered : less ≤ more := (Double.finite_le_finite _ _).mp ordered
  exact ⟨_, _, Double.fourDecimals_nonneg _ (mul_nonneg low nonNegative),
    Double.fourDecimals_mono (mul_le_mul_of_nonneg_right ordered nonNegative), rfl, rfl⟩

/-- A part with a weight that is no number is no number. -/
theorem weightedComponents_nan (candidate : RouteCandidate) (decision : HardFilterDecision)
    (task : TaskProfile) (capacity : CapacityProfile) (weights : ScoreWeights)
    (undefined : .nan ∈ weights.values) :
    .nan ∈ (weightedComponents .exact candidate decision task capacity weights).values := by
  have part (fit : Double) (within : fit.InUnit) :
      Arithmetic.exact.round4 (Arithmetic.exact.mul fit .nan) = .nan := by
    obtain ⟨value, -, rfl⟩ := within
    rfl
  simp only [ScoreWeights.values, List.mem_cons, List.not_mem_nil, or_false] at undefined
  simp only [weightedComponents, ScoreWeights.values, List.mem_cons, List.not_mem_nil, or_false]
  rcases undefined with equal | equal | equal | equal | equal | equal <;> rw [← equal]
  · exact .inl (part _ (capabilityFit_inUnit task capacity)).symm
  · exact .inr (.inl (part _ (policyFit_inUnit decision)).symm)
  · exact .inr (.inr (.inl (part _ (qualityFit_inUnit task capacity)).symm))
  · exact .inr (.inr (.inr (.inl (part _ (costFit_inUnit task candidate)).symm)))
  · exact .inr (.inr (.inr (.inr (.inl (part _ (latencyFit_inUnit task capacity)).symm))))
  · exact .inr (.inr (.inr (.inr (.inr (part _ (trustFit_inUnit capacity)).symm))))

/-- Sums of numbers in order are in order. -/
theorem exact_sum_mono (left right : List Double) (ordered : List.Forall₂ InOrder left right) :
    InOrder (Arithmetic.exact.sum left) (Arithmetic.exact.sum right) := by
  obtain ⟨lesser, greater, nonNegative, sums, rfl, rfl⟩ : ∃ lesser greater : List ℚ,
      0 ≤ lesser.sum ∧ lesser.sum ≤ greater.sum ∧ left = lesser.map .finite ∧
        right = greater.map .finite := by
    induction ordered with
    | nil => exact ⟨[], [], le_refl _, le_refl _, rfl, rfl⟩
    | cons own others inductionHypothesis =>
      obtain ⟨less, more, low, first, rfl, rfl⟩ := own
      obtain ⟨lesser, greater, nonNegative, sums, rfl, rfl⟩ := inductionHypothesis
      refine ⟨less :: lesser, more :: greater, ?_, ?_, rfl, rfl⟩
      · rw [List.sum_cons]
        exact add_nonneg low nonNegative
      · rw [List.sum_cons, List.sum_cons]
        exact add_le_add first sums
  exact ⟨_, _, nonNegative, sums, Arithmetic.exact_sum _, Arithmetic.exact_sum _⟩

/-- The weighted parts of a candidate that dominates another one have a sum that is at least the
other's, or both have none. -/
theorem weightedComponents_mono (task : TaskProfile) (report : TaskAnalysisReport)
    (candidate rival : RouteCandidate) (capacity rivalCapacity : CapacityProfile)
    (results rivalResults : List (String × HardFilterStatus)) (weights : ScoreWeights)
    (proportions : Proportions weights)
    (dominates :
      Dominates task report candidate rival capacity rivalCapacity results rivalResults) :
    let own := weightedComponents .exact candidate .pass task capacity weights
    let other := weightedComponents .exact rival .pass task rivalCapacity weights
    InOrder (Arithmetic.exact.sum other.values) (Arithmetic.exact.sum own.values) ∨
      Arithmetic.exact.sum own.values = .nan ∧ Arithmetic.exact.sum other.values = .nan := by
  intro own other
  rcases proportions with finite | undefined
  · refine .inl (exact_sum_mono _ _ ?_)
    simp only [ScoreWeights.values, List.forall_mem_cons] at finite
    obtain ⟨⟨capability, capability_ok, capability_is⟩, ⟨policy, policy_ok, policy_is⟩,
      ⟨quality, quality_ok, quality_is⟩, ⟨cost, cost_ok, cost_is⟩,
      ⟨latency, latency_ok, latency_is⟩, ⟨trust, trust_ok, trust_is⟩, -⟩ := finite
    simp only [own, other, weightedComponents, ScoreWeights.values, capability_is, policy_is,
      quality_is, cost_is, latency_is, trust_is]
    exact
      .cons (weighted_mono _ capability_ok _ _ (capabilityFit_inUnit _ _) (capabilityFit_inUnit _ _)
        dominates.capabilityFit) <|
      .cons (weighted_mono _ policy_ok _ _ (policyFit_inUnit _) (policyFit_inUnit _)
        ((Double.finite_le_finite 1 1).mpr le_rfl)) <|
      .cons (weighted_mono _ quality_ok _ _ (qualityFit_inUnit _ _) (qualityFit_inUnit _ _)
        dominates.qualityFit) <|
      .cons (weighted_mono _ cost_ok _ _ (costFit_inUnit _ _) (costFit_inUnit _ _)
        dominates.costFit) <|
      .cons (weighted_mono _ latency_ok _ _ (latencyFit_inUnit _ _) (latencyFit_inUnit _ _)
        dominates.latencyFit) <|
      .cons (weighted_mono _ trust_ok _ _ (trustFit_inUnit _) (trustFit_inUnit _)
        dominates.trustFit) .nil
  · exact .inr ⟨Double.plainSum_nan _ _ (weightedComponents_nan _ _ _ _ _ undefined),
      Double.plainSum_nan _ _ (weightedComponents_nan _ _ _ _ _ undefined)⟩

/-- The total of a candidate that passes is at least that of one that it dominates. -/
theorem total_mono (task : TaskProfile) (report : TaskAnalysisReport)
    (candidate rival : RouteCandidate) (capacity rivalCapacity : CapacityProfile)
    (results rivalResults : List (String × HardFilterStatus)) (weights : ScoreWeights)
    (proportions : Proportions weights)
    (dominates :
      Dominates task report candidate rival capacity rivalCapacity results rivalResults)
    (own other : CandidateScore × ScoreWeights)
    (scored :
      candidateScore .exact candidate .pass results task capacity report weights = .ok own)
    (rival_scored : candidateScore .exact rival .pass rivalResults task rivalCapacity report weights =
      .ok other) :
    other.1.total ≤ own.1.total := by
  obtain ⟨own_total, -⟩ := candidateScore_spec _ _ _ _ _ _ _ _ _ scored
  obtain ⟨other_total, -⟩ := candidateScore_spec _ _ _ _ _ _ _ _ _ rival_scored
  have parts := weightedComponents_mono task report candidate rival capacity rivalCapacity results
    rivalResults weights proportions dominates
  obtain ⟨penalty, -, own_penalty⟩ := uncertaintyPenalty_inUnit capacity report results
  obtain ⟨more, -, other_penalty⟩ := uncertaintyPenalty_inUnit rivalCapacity report rivalResults
  have penalties := dominates.uncertaintyPenalty
  rw [own_penalty, other_penalty, Double.finite_le_finite] at penalties
  have priority : min (2 / 25) (((candidate.priority : ℚ) - 1) * (1 / 25)) ≤
      min (2 / 25) (((rival.priority : ℚ) - 1) * (1 / 25)) := by
    have ordered : (candidate.priority : ℚ) ≤ rival.priority := Nat.cast_le.mpr dominates.priority
    exact min_le_min_left _ (by linarith)
  simp only [scoreTotal, reduceCtorEq, if_false, own_penalty, Arithmetic.exact_nearest] at own_total
  simp only [scoreTotal, reduceCtorEq, if_false, other_penalty, Arithmetic.exact_nearest]
    at other_total
  rcases parts with ⟨less, greater, -, sums, other_sum, own_sum⟩ | ⟨own_sum, other_sum⟩
  · rw [own_sum, Arithmetic.exact_sub, Arithmetic.exact_sub, Double.least_finite,
      Double.greatest_finite, Arithmetic.exact_round4, Double.finite.injEq] at own_total
    rw [other_sum, Arithmetic.exact_sub, Arithmetic.exact_sub, Double.least_finite,
      Double.greatest_finite, Arithmetic.exact_round4, Double.finite.injEq] at other_total
    rw [← own_total, ← other_total]
    apply Double.fourDecimals_mono
    apply max_le_max_left
    apply min_le_min_left
    linarith
  · -- Without a sum, what is bounded is no number, and the bound is the total of both.
    rw [own_sum] at own_total
    rw [other_sum] at other_total
    exact (Double.finite.inj (other_total.symm.trans own_total)).le

/-! ## Ranks -/

/-- All parts of the score of a candidate are between zero and one. -/
theorem candidateTrace_withinUnit (routebook : LoadedRoutebook) (pack : LoadedRoutebookV1)
    (registry : BackendRegistry) (comparison : Comparison) (candidate : RouteCandidate)
    (trace : CandidateScoreTrace)
    (scored : candidateTrace .exact routebook pack registry comparison candidate = .ok trace) :
    WithinUnit trace.score := by
  obtain ⟨weights, capacity, -, -, -, -, computed⟩ := candidateTrace_ok _ _ _ _ _ _ _ scored
  exact (candidateScore_spec _ _ _ _ _ _ _ _ _ computed).2

/-- A candidate whose backend and capacity are known is scored. -/
theorem candidateTrace_exact (routebook : LoadedRoutebook) (pack : LoadedRoutebookV1)
    (registry : BackendRegistry) (comparison : Comparison) (candidate : RouteCandidate)
    (backend : BackendManifest) (capacity : CapacityProfile)
    (registered : registry.get candidate.backendId = .ok backend)
    (known : capacityProfileOf comparison candidate = .ok capacity) :
    ∃ trace, candidateTrace .exact routebook pack registry comparison candidate = .ok trace := by
  obtain ⟨weights, weighted, -⟩ := scoreWeights_exact pack
  let results := hardFilterResults routebook.forbiddenRoutes.forbiddenBackendClasses
    comparison.workUnit comparison.routePlan candidate capacity backend
    comparison.taskAnalysisReport
  obtain ⟨scored, computed⟩ := candidateScore_exact candidate
    (if hardFiltersPass results then .pass else .fail) results comparison.taskProfile capacity
    comparison.taskAnalysisReport weights
  simp only [candidateTrace, scoreCandidate, weighted, registered, known, Store.bind_ok_iff,
    Except.ok.injEq, exists_eq_left']
  exact ⟨_, scored, computed, rfl⟩

/-- The scores of a report are those of its candidates, with their ranks. -/
theorem score_reports (routebook : LoadedRoutebook) (pack : LoadedRoutebookV1)
    (registry : BackendRegistry) (comparison : Comparison) (report : RouteScoringReport)
    (scored : score .exact routebook pack registry comparison = .ok report) :
    ∃ scores, candidateScores .exact routebook pack registry comparison = .ok scores ∧
      report.candidateScores =
        scores.map (rankedById (rankedScores comparison.routePlan.candidates scores)) := by
  simp only [score, Store.bind_ok_iff] at scored
  obtain ⟨weights, -, scores, compared, routebookId, -, version, -, scorerId, -, scorerVersion, -,
    returned⟩ := scored
  have same_report := Except.ok.inj returned
  subst same_report
  exact ⟨scores, compared, rfl⟩

/-- A candidate of a plan that passes its hard filters, with its capacity and its score. -/
structure PassingCandidate (routebook : LoadedRoutebook) (pack : LoadedRoutebookV1)
    (registry : BackendRegistry) (comparison : Comparison) where
  candidate : RouteCandidate
  capacity : CapacityProfile
  trace : CandidateScoreTrace
  listed : candidate ∈ comparison.routePlan.candidates
  known : capacityProfileOf comparison candidate = .ok capacity
  scored : candidateTrace .exact routebook pack registry comparison candidate = .ok trace
  passes : hardFiltersPass trace.hardFilterResults = true

/-- The score of one candidate is reported with a lower rank than that of another one. -/
def RankedBefore (report : RouteScoringReport) (left right : String) : Prop :=
  ∃ first ∈ report.candidateScores, ∃ second ∈ report.candidateScores,
    first.candidateId = left ∧ second.candidateId = right ∧
    ∃ early late, first.rank = some early ∧ second.rank = some late ∧ early < late

section Ranked

variable {routebook : LoadedRoutebook} {pack : LoadedRoutebookV1} {registry : BackendRegistry}
  {comparison : Comparison}

/-- A candidate that passes has the score of one that passes. -/
theorem PassingCandidate.score_spec (own : PassingCandidate routebook pack registry comparison) :
    own.trace.candidateId = own.candidate.routeCandidateId ∧
      own.trace.hardFilterDecision = .pass ∧
      ∃ weights, scoreWeights .exact pack = .ok weights ∧
        candidateScore .exact own.candidate .pass own.trace.hardFilterResults
          comparison.taskProfile own.capacity comparison.taskAnalysisReport weights =
            .ok (own.trace.score, own.trace.weightedComponents) := by
  obtain ⟨weights, capacity, weighted, known, named, passes_iff, computed⟩ :=
    candidateTrace_ok _ _ _ _ _ _ _ own.scored
  have decided := passes_iff.mpr own.passes
  have same_capacity := Except.ok.inj (own.known.symm.trans known)
  subst same_capacity
  rw [decided] at computed
  exact ⟨named, decided, weights, weighted, computed⟩

/-- The key of a candidate that dominates another one is smaller, where ids are distinct. -/
theorem rankKey_lt (first second : PassingCandidate routebook pack registry comparison)
    (distinct : (comparison.routePlan.candidates.map RouteCandidate.routeCandidateId).Nodup)
    (dominates : Dominates comparison.taskProfile comparison.taskAnalysisReport first.candidate
      second.candidate first.capacity second.capacity first.trace.hardFilterResults
      second.trace.hardFilterResults) :
    rankKey comparison.routePlan.candidates first.trace <
      rankKey comparison.routePlan.candidates second.trace := by
  obtain ⟨named, passes, weights, weighted, computed⟩ := first.score_spec
  obtain ⟨rival_named, rival_passes, rival_weights, rival_weighted, rival_computed⟩ :=
    second.score_spec
  obtain ⟨known_weights, known, proportions⟩ := scoreWeights_exact pack
  have same_weights := Except.ok.inj (weighted.symm.trans known)
  have same_rival_weights := Except.ok.inj (rival_weighted.symm.trans known)
  subst same_weights same_rival_weights
  have totals : second.trace.score.total ≤ first.trace.score.total :=
    total_mono _ _ _ _ _ _ _ _ _ proportions dominates _ _ computed rival_computed
  simp only [rankKey, passes, rival_passes, named, rival_named,
    candidateById_own _ _ distinct first.listed, candidateById_own _ _ distinct second.listed,
    Option.map_some, Option.getD_some, if_true, Prod.Lex.toLex_lt_toLex, lt_self_iff_false,
    false_or, true_and]
  rcases totals.lt_or_eq with less | same
  · exact .inl (neg_lt_neg less)
  rcases dominates.priority.lt_or_eq with less | same_priority
  · exact .inr ⟨congrArg _ same.symm, .inl less⟩
  rcases dominates.estimatedCost.lt_or_eq with less | same_cost
  · exact .inr ⟨congrArg _ same.symm, .inr ⟨same_priority, .inl less⟩⟩
  · exact .inr ⟨congrArg _ same.symm, .inr ⟨same_priority, .inr ⟨same_cost, dominates.earlier⟩⟩⟩

/-- Every score is among the ranked ones, at some rank. -/
theorem ranked_somewhere (candidates : List RouteCandidate) (scores : List CandidateScoreTrace)
    (trace : CandidateScoreTrace) (listed : trace ∈ scores) :
    ∃ position, { trace with rank := some position } ∈ withRanks (rankedScores candidates scores) := by
  obtain ⟨position, here⟩ :=
    List.getElem?_of_mem ((rankedScores_perm candidates scores).mem_iff.mpr listed)
  exact ⟨position + 1, (mem_withRanks_iff _ _).mpr ⟨position, trace, here, rfl⟩⟩

end Ranked

/-- Where the ids of the candidates are distinct, a candidate that passes is ranked before every one
that it dominates. All parts of all scores are between zero and one, and no candidate is refused
its score where its backend and its capacity are known. -/
theorem dominance_respected (routebook : LoadedRoutebook) (pack : LoadedRoutebookV1)
    (registry : BackendRegistry) (comparison : Comparison) :
    (∀ report, score .exact routebook pack registry comparison = .ok report →
      ((comparison.routePlan.candidates.map RouteCandidate.routeCandidateId).Nodup →
        ∀ first second : PassingCandidate routebook pack registry comparison,
          Dominates comparison.taskProfile comparison.taskAnalysisReport first.candidate
            second.candidate first.capacity second.capacity first.trace.hardFilterResults
            second.trace.hardFilterResults →
          RankedBefore report first.candidate.routeCandidateId second.candidate.routeCandidateId) ∧
        ∀ trace ∈ report.candidateScores, WithinUnit trace.score) ∧
      ∀ candidate backend capacity, registry.get candidate.backendId = .ok backend →
        capacityProfileOf comparison candidate = .ok capacity →
        ∃ trace, candidateTrace .exact routebook pack registry comparison candidate = .ok trace ∧
          WithinUnit trace.score := by
  constructor
  · intro report scored
    obtain ⟨scores, compared, reported⟩ :=
      score_reports routebook pack registry comparison report scored
    obtain ⟨origins, listed⟩ :=
      candidateScores_mem .exact routebook pack registry comparison scores compared
    have kept := rankedScores_perm comparison.routePlan.candidates scores
    constructor
    · intro distinct first second dominates
      have ids := candidateScores_ids .exact routebook pack registry comparison scores compared
      have permuted := reported_perm comparison.routePlan.candidates scores (ids ▸ distinct)
      rw [← reported] at permuted
      obtain ⟨early, early_ranked⟩ := ranked_somewhere comparison.routePlan.candidates scores
        first.trace (listed _ first.listed _ first.scored)
      obtain ⟨late, late_ranked⟩ := ranked_somewhere comparison.routePlan.candidates scores
        second.trace (listed _ second.listed _ second.scored)
      exact ⟨_, permuted.mem_iff.mpr early_ranked, _, permuted.mem_iff.mpr late_ranked,
        first.score_spec.1, second.score_spec.1,
        ranks_lt _ scores _ _ early_ranked late_ranked (rankKey_lt first second distinct dominates)⟩
    · intro trace member
      rw [reported] at member
      obtain ⟨own, inScores, rfl⟩ := List.mem_map.mp member
      have ranked := (rankedById_spec _ own (kept.mem_iff.mpr inScores)).1
      obtain ⟨position, source, here, equal⟩ := (mem_withRanks_iff _ _).mp ranked
      obtain ⟨candidate, -, computed⟩ := origins source
        (kept.mem_iff.mp (List.mem_of_getElem? here))
      rw [equal]
      change WithinUnit source.score
      exact candidateTrace_withinUnit _ _ _ _ _ source computed
  · intro candidate backend capacity registered known
    obtain ⟨trace, scored⟩ := candidateTrace_exact routebook pack registry comparison candidate
      backend capacity registered known
    exact ⟨trace, scored, candidateTrace_withinUnit _ _ _ _ _ _ scored⟩

/-- What dominates can be computed. -/
instance (task : TaskProfile) (report : TaskAnalysisReport) (candidate rival : RouteCandidate)
    (capacity rivalCapacity : CapacityProfile)
    (results rivalResults : List (String × HardFilterStatus)) :
    Decidable (Dominates task report candidate rival capacity rivalCapacity results rivalResults) :=
  decidable_of_iff' _ (dominates_iff task report candidate rival capacity rivalCapacity results
    rivalResults)

/-- The candidates of a plan that pass their hard filters. -/
def passingCandidates (routebook : LoadedRoutebook) (pack : LoadedRoutebookV1)
    (registry : BackendRegistry) (comparison : Comparison) :
    List (PassingCandidate routebook pack registry comparison) :=
  comparison.routePlan.candidates.attach.filterMap (fun listed =>
    match known : capacityProfileOf comparison listed.1,
        scored : candidateTrace .exact routebook pack registry comparison listed.1 with
    | .ok capacity, .ok trace =>
      if passes : hardFiltersPass trace.hardFilterResults = true then
        some ⟨listed.1, capacity, trace, listed.2, known, scored, passes⟩
      else none
    | _, _ => none)

end RouteScorer

namespace Selection

open Rescoring (localTool plainPack)

/-- A router with two local tools that are alike. -/
def evenRouter : RouterService :=
  { ruledRouter "r1" "r2" with
    arithmetic := .exact
    backendResolver :=
      { (ruledRouter "r1" "r2").backendResolver with
        backendRegistry := ⟨[localTool "b1" ["url_check"], localTool "b2" ["url_check"]]⟩ } }

/-- The ids are distinct, and the first tool's candidate passes and dominates the second's. -/
def firstDominates (comparison : RouteScorer.Comparison) : Bool :=
  let passing := RouteScorer.passingCandidates evenRouter.routebook plainPack
    evenRouter.backendRegistry comparison
  decide (comparison.routePlan.candidates.map RouteCandidate.routeCandidateId).Nodup &&
    passing.any (fun first => passing.any (fun second =>
      first.candidate.routeCandidateId = "r1" ∧ second.candidate.routeCandidateId = "r2" ∧
        RouteScorer.Dominates comparison.taskProfile comparison.taskAnalysisReport first.candidate
          second.candidate first.capacity second.capacity first.trace.hardFilterResults
          second.trace.hardFilterResults))

/-- The tool whose rule has the lower priority number and the smaller id is ranked first. -/
theorem even_tools_ranked : ∃ comparison report,
    urlReport evenRouter = .ok (comparison, report) ∧
      RouteScorer.RankedBefore report "r1" "r2" ∧
      ∀ trace ∈ report.candidateScores, RouteScorer.WithinUnit trace.score := by
  have made : (urlReport evenRouter).toOption.any (fun made => firstDominates made.1) = true := by
    decide +kernel
  cases reported : urlReport evenRouter with
  | error raised => simp [reported, Except.toOption] at made
  | ok pair =>
    obtain ⟨comparison, report⟩ := pair
    have made : firstDominates comparison = true := by rwa [reported] at made
    simp only [firstDominates, Bool.and_eq_true, List.any_eq_true, decide_eq_true_eq] at made
    obtain ⟨distinct, first, -, second, -, first_named, second_named, dominates⟩ := made
    obtain ⟨reports, -⟩ := RouteScorer.dominance_respected evenRouter.routebook plainPack
      evenRouter.backendRegistry comparison
    obtain ⟨ordered, within⟩ := reports report
      (urlReport_scored evenRouter comparison report reported)
    refine ⟨comparison, report, rfl, ?_, within⟩
    rw [← first_named, ← second_named]
    exact ordered distinct first second dominates

end Selection

end TokenBank
