import TokenBank.Core.Doubles

/-!
# Route scoring reports

The scores of a plan's candidates, the hard filters each of them was put through, and the
selection that follows.
-/

namespace TokenBank

/-- The outcome of one hard filter. -/
inductive HardFilterStatus : Type
  | pass
  | fail
  | notRequired
  | pendingPolicyDecision
deriving DecidableEq

/-- The outcome of all hard filters together. -/
inductive HardFilterDecision : Type
  | pass
  | fail
deriving DecidableEq

/-- The text of a decision. -/
def HardFilterDecision.text : HardFilterDecision → String
  | .pass => "pass"
  | .fail => "fail"

/-- The score of a candidate. Its members are between zero and one. -/
structure CandidateScore where
  total : ℚ
  capabilityFit : ℚ
  policyFit : ℚ
  qualityFit : ℚ
  costFit : ℚ
  latencyFit : ℚ
  trustFit : ℚ
  uncertaintyPenalty : ℚ

/-- What counts how much in a score, and the parts of a score that are counted so. -/
structure ScoreWeights where
  capabilityFit : Double
  policyFit : Double
  qualityFit : Double
  costFit : Double
  latencyFit : Double
  trustFit : Double

/-- The numbers of some weights. -/
def ScoreWeights.values (weights : ScoreWeights) : List Double :=
  [weights.capabilityFit, weights.policyFit, weights.qualityFit, weights.costFit,
    weights.latencyFit, weights.trustFit]

/-- How a candidate was scored. -/
structure CandidateScoreTrace where
  candidateId : String
  score : CandidateScore
  rank : Option Nat := none
  hardFilterDecision : HardFilterDecision
  hardFilterResults : List (String × HardFilterStatus)
  weightedComponents : ScoreWeights
  reasonCodes : List String

/-- Why a candidate was not selected. -/
structure RejectedCandidateTrace where
  candidateId : String
  reasonCodes : List String

/-- How a selection came about. -/
inductive RouteSelectionStatus : Type
  | selectedHighestScoringCandidate
  | noPassingCandidateKeepExistingSelection
deriving DecidableEq

/-- The report on the scores of a plan's candidates. -/
structure RouteScoringReport where
  routeScoringId : String
  routePlanId : String
  workUnitId : String
  routebookId : String
  routebookVersion : String
  scorerId : String
  scorerVersion : String
  baselineSelectedCandidateId : String
  selectedCandidateId : String
  selectionStatus : RouteSelectionStatus
  scoreWeights : ScoreWeights
  candidateScores : List CandidateScoreTrace
  rejectedCandidates : List RejectedCandidateTrace
  reasonCodes : List String

end TokenBank
