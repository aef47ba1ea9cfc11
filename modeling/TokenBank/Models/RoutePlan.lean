import TokenBank.Models.Backend

/-!
# Route plans

A validated route plan with its candidates, and the documents they dump to. That the
priority of a candidate is positive and that a plan has a candidate are fields of theirs.
-/

namespace TokenBank

/-- One way to execute a work unit. -/
structure RouteCandidate where
  routeCandidateId : String
  capacityNodeId : String
  backendClass : BackendClass
  backendId : String
  workerSelector : JsonObject := []
  priority : Nat := 1
  estimatedCostMicros : Nat := 0
  verifierRecipeId : Option String := none
  policyHints : List String := []
  positive : 0 < priority := by decide

/-- The document of a candidate. -/
def RouteCandidate.modelDump (candidate : RouteCandidate) : Json :=
  .obj [schemaVersion, ("route_candidate_id", .str candidate.routeCandidateId),
    ("capacity_node_id", .str candidate.capacityNodeId),
    ("backend_class", .str candidate.backendClass.text),
    ("backend_id", .str candidate.backendId), ("worker_selector", .obj candidate.workerSelector),
    ("priority", .nat candidate.priority),
    ("estimated_cost_micros", .nat candidate.estimatedCostMicros),
    ("verifier_recipe_id", .optional candidate.verifierRecipeId),
    ("policy_hints", .arr (candidate.policyHints.map .str))]

/-- The risk of a route. -/
inductive RouteRiskLevel : Type
  | low
  | medium
  | high
deriving DecidableEq

/-- The text of a risk level. -/
def RouteRiskLevel.text : RouteRiskLevel → String
  | .low => "low"
  | .medium => "medium"
  | .high => "high"

/-- The risk level with a text, if there is one. -/
def RouteRiskLevel.ofText : String → Option RouteRiskLevel
  | "low" => some .low
  | "medium" => some .medium
  | "high" => some .high
  | _ => none

/-- A plan of how to execute a work unit. -/
structure RoutePlan where
  routePlanId : String
  workUnitId : String
  taskType : String
  taskLevel : TaskLevel
  candidates : List RouteCandidate
  selectedCandidateId : String
  verifierRecipeId : String
  riskLevel : RouteRiskLevel := .low
  policyHints : List String := []
  createdAt : String
  validatedAt : Option String := none
  nonEmpty : candidates ≠ []

/-- The document of a plan. -/
def RoutePlan.modelDump (plan : RoutePlan) : JsonObject :=
  [schemaVersion, ("route_plan_id", .str plan.routePlanId),
    ("work_unit_id", .str plan.workUnitId), ("task_type", .str plan.taskType),
    ("task_level", .str plan.taskLevel.text),
    ("candidates", .arr (plan.candidates.map RouteCandidate.modelDump)),
    ("selected_candidate_id", .str plan.selectedCandidateId),
    ("verifier_recipe_id", .str plan.verifierRecipeId), ("risk_level", .str plan.riskLevel.text),
    ("policy_hints", .arr (plan.policyHints.map .str)), ("created_at", .str plan.createdAt),
    ("validated_at", .optional plan.validatedAt)]

/-- The plan with another selection. -/
def RoutePlan.selecting (plan : RoutePlan) (selectedCandidateId : String) : RoutePlan :=
  { plan with selectedCandidateId := selectedCandidateId }

end TokenBank
