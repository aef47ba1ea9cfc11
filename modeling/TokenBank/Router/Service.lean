import TokenBank.Router.RoutePlanning
import TokenBank.Router.RouteScorer

/-!
# The router

A plan is made from the routebook, normalized and validated. Where a routebook pack is
installed, the plan's candidates are scored, the selection of the scoring report is
applied, and the plan is validated once more.
-/

namespace TokenBank

/-- A router made from directories. A pack need not be installed. -/
structure RouterService where
  runtime : PythonRuntime
  arithmetic : Arithmetic
  routebook : LoadedRoutebook
  backendResolver : BackendResolver
  routebookV1 : Option LoadedRoutebookV1
  pricing : List JsonObject

namespace RouterService

/-- The router of a loaded configuration. -/
def fromDirs (runtime : PythonRuntime) (arithmetic : Arithmetic) (config : LoadedConfig)
    (routebook : LoadedRoutebook) (routebookV1 : Option LoadedRoutebookV1) : RouterService where
  runtime := runtime
  arithmetic := arithmetic
  routebook := routebook
  backendResolver := .fromConfig config
  routebookV1 := routebookV1
  pricing := config.pricing

/-- The backends the router knows. -/
def backendRegistry (router : RouterService) : BackendRegistry :=
  router.backendResolver.backendRegistry

/-- Validate a plan. -/
def validate (router : RouterService) (routePlan : RoutePlan) : Except Raised RoutePlan :=
  RoutePlanValidator.validate router.runtime router.routebook router.backendRegistry routePlan

/-- The risk of a task level. -/
def riskLevel (router : RouterService) (taskLevel : TaskLevel) : Except Raised RouteRiskLevel :=
  match RouteRiskLevel.ofText
    (((router.routebook.taskLevels.lookup taskLevel.text).map TaskLevelEntry.riskLevel).getD "low") with
  | some risk => .ok risk
  | none => .error .validationError

/-- The recipe that verifies a task type. -/
def verifierRecipeId (router : RouterService) (taskType : String) : Except Raised String :=
  match router.routebook.verifierMapping.lookup taskType with
  | some recipe => BaseModel.nonEmptyStr recipe
  | none => .error (.keyError taskType)

/-- The plan of a work unit before it is normalized. Its level is the work unit's own. -/
def proposedPlan (router : RouterService) (workUnit : WorkUnit) (createdAt : String) :
    Except Raised RoutePlan := do
  let candidates ← CandidateGenerator.generate router.routebook router.backendResolver
    workUnit.taskType
  match candidates with
  | [] => .error (.valueError ("no route candidates for task_type: " ++ workUnit.taskType))
  | first :: others =>
    let verifierRecipeId ← router.verifierRecipeId workUnit.taskType
    let riskLevel ← router.riskLevel workUnit.taskLevel
    let policyHints ← BaseModel.nonEmptyStrs
      (CandidateGenerator.policyHints router.routebook workUnit.taskType)
    return {
      routePlanId := "rp_" ++ workUnit.workUnitId ++ "_" ++ workUnit.taskType
      workUnitId := workUnit.workUnitId
      taskType := workUnit.taskType
      taskLevel := workUnit.taskLevel
      candidates := first :: others
      selectedCandidateId := first.routeCandidateId
      verifierRecipeId := verifierRecipeId
      riskLevel := riskLevel
      policyHints := policyHints
      createdAt := createdAt
      nonEmpty := List.cons_ne_nil first others }

/-- The plan of a work unit before its candidates are scored. -/
def baselinePlan (router : RouterService) (workUnit : WorkUnit) (createdAt : String) :
    Except Raised RoutePlan := do
  let proposed ← router.proposedPlan workUnit createdAt
  router.validate (RoutePlanNormalizer.normalize proposed)

/-- What the preflight reports about a work unit with a plan. -/
def taskAnalysisReport (router : RouterService) (pack : LoadedRoutebookV1) (workUnit : WorkUnit)
    (routePlan : RoutePlan) : Except Raised TaskAnalysisReport :=
  TaskAnalyzer.analyze router.runtime router.pricing pack workUnit (some routePlan)

/-- What scoring a plan's candidates compares. -/
def comparison (router : RouterService) (pack : LoadedRoutebookV1) (workUnit : WorkUnit)
    (routePlan : RoutePlan) : Except Raised RouteScorer.Comparison := do
  let taskAnalysisReport ← router.taskAnalysisReport pack workUnit routePlan
  let taskProfile ← TaskProfiler.profile router.runtime router.routebook pack workUnit routePlan
  let capacityProfiles ← CapacityProfiles.capacityProfilesForCandidates router.backendRegistry
    routePlan.candidates
  return ⟨workUnit, routePlan, taskProfile, capacityProfiles, taskAnalysisReport⟩

/-- The report on the scores of a plan's candidates. -/
def scoringReport (router : RouterService) (pack : LoadedRoutebookV1) (workUnit : WorkUnit)
    (routePlan : RoutePlan) : Except Raised RouteScoringReport := do
  let comparison ← router.comparison pack workUnit routePlan
  RouteScorer.score router.arithmetic router.routebook pack router.backendRegistry comparison

/-- Apply the selection of the scoring report to a plan, if a pack is installed. -/
def applyScoredSelection (router : RouterService) (workUnit : WorkUnit) (routePlan : RoutePlan) :
    Except Raised RoutePlan :=
  match router.routebookV1 with
  | none => .ok routePlan
  | some pack => do
    BaseModel.rejectForbiddenKeys (.obj workUnit.modelDump)
    let report ← router.scoringReport pack workUnit routePlan
    router.validate (RouteScorer.applyScoredSelection routePlan report)

/-- Plan the route of a work unit. -/
def planRoute (router : RouterService) (workUnit : WorkUnit) (createdAt : String) :
    Except Raised RoutePlan := do
  let baseline ← router.baselinePlan workUnit createdAt
  router.applyScoredSelection workUnit baseline

end RouterService

end TokenBank
