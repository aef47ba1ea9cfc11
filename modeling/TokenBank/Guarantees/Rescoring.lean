import TokenBank.Router.Service

/-!
# Scoring a plan again

The host asks for an estimate of a route: the work unit is planned, analyzed once more with
the plan it got, and the candidates are scored once more. The selection of the plan is the
only thing that has changed since the router scored them. No hard filter and no component
of a score depends on it; only the expected cost does, which no score reads. So the second
scoring selects what the plan has already selected, and it returns exactly if the selected
candidate can be priced.
-/

namespace TokenBank

namespace Rescoring

/-- A report with another expected cost. -/
def withCost (report : TaskAnalysisReport) (cost : CostEstimate) : TaskAnalysisReport :=
  { report with costEstimate := cost }

/-- What a task costs on the backend that a plan selects. -/
def plannedCost (router : RouterService) (workUnit : WorkUnit) (routePlan : RoutePlan) :
    Except Raised CostEstimate :=
  TaskAnalyzer.costEstimate router.runtime router.pricing
    (TaskAnalyzer.estimateTokens workUnit.taskType workUnit.inlineInput) (some routePlan)

section Selections

variable (router : RouterService) (pack : LoadedRoutebookV1) (workUnit : WorkUnit)
  (routePlan : RoutePlan) (selectedCandidateId : String)

/-- Another selection changes the expected cost of an analysis, and nothing else. -/
theorem analysis_selecting (report : TaskAnalysisReport)
    (analyzed : router.taskAnalysisReport pack workUnit routePlan = .ok report) :
    router.taskAnalysisReport pack workUnit (routePlan.selecting selectedCandidateId) =
      (plannedCost router workUnit (routePlan.selecting selectedCandidateId)).map
        (withCost report) := by
  simp only [RouterService.taskAnalysisReport, TaskAnalyzer.analyze, Store.bind_ok_iff]
    at analyzed
  obtain ⟨complexity, estimated, cost, -, routebookId, named, version, versioned, returned⟩ :=
    analyzed
  have same_complexity : TaskAnalyzer.complexityEstimate (pack.defaults workUnit.taskType)
      (TaskAnalyzer.inputShapeForWorkUnit workUnit)
      (TaskAnalyzer.estimateTokens workUnit.taskType workUnit.inlineInput).estimatedTotalTokens
      (some (routePlan.selecting selectedCandidateId)) = .ok complexity := estimated
  have same_report := Except.ok.inj returned
  subst same_report
  simp only [RouterService.taskAnalysisReport, TaskAnalyzer.analyze, same_complexity, named,
    versioned, plannedCost]
  cases TaskAnalyzer.costEstimate router.runtime router.pricing
      (TaskAnalyzer.estimateTokens workUnit.taskType workUnit.inlineInput)
      (some (routePlan.selecting selectedCandidateId)) with
  | error raised => rfl
  | ok cost => rfl

/-- What scoring compares for a plan with another selection. -/
def reselected (comparison : RouteScorer.Comparison) (cost : CostEstimate) :
    RouteScorer.Comparison :=
  { comparison with
    routePlan := comparison.routePlan.selecting selectedCandidateId
    taskAnalysisReport := withCost comparison.taskAnalysisReport cost }

/-- Another selection changes what is compared in the selection and the expected cost only. -/
theorem comparison_selecting (comparison : RouteScorer.Comparison)
    (compared : router.comparison pack workUnit routePlan = .ok comparison) :
    router.comparison pack workUnit (routePlan.selecting selectedCandidateId) =
      (plannedCost router workUnit (routePlan.selecting selectedCandidateId)).map
        (reselected selectedCandidateId comparison) := by
  simp only [RouterService.comparison, Store.bind_ok_iff] at compared
  obtain ⟨report, analyzed, profile, profiled, capacities, found, returned⟩ := compared
  have same_comparison := Except.ok.inj returned
  subst same_comparison
  have same_profile : TaskProfiler.profile router.runtime router.routebook pack workUnit
      (routePlan.selecting selectedCandidateId) = .ok profile := profiled
  have same_capacities : CapacityProfiles.capacityProfilesForCandidates router.backendRegistry
      (routePlan.selecting selectedCandidateId).candidates = .ok capacities := found
  rw [RouterService.comparison,
    analysis_selecting router pack workUnit routePlan selectedCandidateId report analyzed]
  cases plannedCost router workUnit (routePlan.selecting selectedCandidateId) with
  | error raised => rfl
  | ok cost =>
    simp only [Except.map, bind, Except.bind, same_profile, same_capacities]
    rfl

/-- No score of a candidate depends on the selection or on the expected cost. -/
theorem candidateScores_selecting (arithmetic : Arithmetic) (routebook : LoadedRoutebook)
    (registry : BackendRegistry) (comparison : RouteScorer.Comparison) (cost : CostEstimate) :
    RouteScorer.candidateScores arithmetic routebook pack registry
        (reselected selectedCandidateId comparison cost) =
      RouteScorer.candidateScores arithmetic routebook pack registry comparison := rfl

end Selections

/-- Ranked scores select once more what they have selected. -/
theorem selection_selecting (routePlan : RoutePlan) (ranked : List CandidateScoreTrace)
    (selectedCandidateId : String)
    (selected : (RouteScorer.selection routePlan ranked).1 = selectedCandidateId) :
    (RouteScorer.selection (routePlan.selecting selectedCandidateId) ranked).1 =
      selectedCandidateId := by
  unfold RouteScorer.selection at *
  cases first_passing : RouteScorer.firstPassing ranked with
  | none => rfl
  | some best =>
    rw [first_passing] at selected
    exact selected

/-- The scores of what has been selected from are reported once more, with the selection
that they had. -/
theorem score_reselected (arithmetic : Arithmetic) (routebook : LoadedRoutebook)
    (pack : LoadedRoutebookV1) (registry : BackendRegistry) (comparison : RouteScorer.Comparison)
    (report : RouteScoringReport)
    (scored : RouteScorer.score arithmetic routebook pack registry comparison = .ok report)
    (cost : CostEstimate) :
    ∃ again : RouteScoringReport,
      RouteScorer.score arithmetic routebook pack registry
        (reselected report.selectedCandidateId comparison cost) = .ok again ∧
        again.selectedCandidateId = report.selectedCandidateId := by
  simp only [RouteScorer.score, Store.bind_ok_iff] at scored
  obtain ⟨weights, weighted, scores, compared, routebookId, named, version, versioned, scorerId,
    scorer_named, scorerVersion, scorer_versioned, returned⟩ := scored
  have same_report := Except.ok.inj returned
  have selected : (RouteScorer.selection comparison.routePlan
      (RouteScorer.rankedScores comparison.routePlan.candidates scores)).1 =
        report.selectedCandidateId := by rw [← same_report]
  rw [RouteScorer.score, candidateScores_selecting, compared]
  simp only [bind, Except.bind, weighted, named, versioned, scorer_named, scorer_versioned]
  refine ⟨_, rfl, ?_⟩
  exact selection_selecting comparison.routePlan
    (RouteScorer.rankedScores comparison.routePlan.candidates scores) _ selected

/-- A plan with the selection of its own report is scored like before, if its selection can
be priced. -/
theorem scoringReport_selecting (router : RouterService) (pack : LoadedRoutebookV1)
    (workUnit : WorkUnit) (baseline : RoutePlan) (report : RouteScoringReport)
    (reported : router.scoringReport pack workUnit baseline = .ok report) :
    ∃ again : CostEstimate → RouteScoringReport,
      router.scoringReport pack workUnit (baseline.selecting report.selectedCandidateId) =
        (plannedCost router workUnit (baseline.selecting report.selectedCandidateId)).map again ∧
      ∀ cost, (again cost).selectedCandidateId = report.selectedCandidateId := by
  simp only [RouterService.scoringReport, Store.bind_ok_iff] at reported
  obtain ⟨comparison, compared, scored⟩ := reported
  choose again scored_again selected using
    score_reselected router.arithmetic router.routebook pack router.backendRegistry comparison report
      scored
  refine ⟨again, ?_, selected⟩
  rw [RouterService.scoringReport, comparison_selecting router pack workUnit baseline
    report.selectedCandidateId comparison compared]
  cases plannedCost router workUnit (baseline.selecting report.selectedCandidateId) with
  | error raised => rfl
  | ok cost => exact scored_again cost

/-- A validated plan is the plan that was to be validated. -/
theorem validate_ok (router : RouterService) (routePlan valid : RoutePlan)
    (validated : router.validate routePlan = .ok valid) : valid = routePlan := by
  simp only [RouterService.validate, RoutePlanValidator.validate, Store.bind_ok_iff] at validated
  obtain ⟨-, -, -, -, -, -, returned⟩ := validated
  exact (Except.ok.inj returned).symm

/-- A planned route is a baseline with the selection of the report on its scores. -/
theorem planRoute_scored (router : RouterService) (pack : LoadedRoutebookV1)
    (installed : router.routebookV1 = some pack) (workUnit : WorkUnit) (createdAt : String)
    (routePlan : RoutePlan) (planned : router.planRoute workUnit createdAt = .ok routePlan) :
    ∃ (baseline : RoutePlan) (report : RouteScoringReport),
      router.scoringReport pack workUnit baseline = .ok report ∧
        routePlan = baseline.selecting report.selectedCandidateId := by
  simp only [RouterService.planRoute, RouterService.applyScoredSelection, installed,
    Store.bind_ok_iff] at planned
  obtain ⟨baseline, -, -, -, report, reported, validated⟩ := planned
  exact ⟨baseline, report, reported, validate_ok router _ routePlan validated⟩

end Rescoring

/-- Where a routebook pack is installed, a planned route is scored once more exactly if its
selected candidate can be priced, and then with the selection that it has. -/
theorem planned_selection_is_kept (router : RouterService) (pack : LoadedRoutebookV1)
    (installed : router.routebookV1 = some pack) (workUnit : WorkUnit) (createdAt : String)
    (routePlan : RoutePlan) (planned : router.planRoute workUnit createdAt = .ok routePlan) :
    ((∃ report, router.scoringReport pack workUnit routePlan = .ok report) ↔
        ∃ cost, Rescoring.plannedCost router workUnit routePlan = .ok cost) ∧
      ∀ report, router.scoringReport pack workUnit routePlan = .ok report →
        report.selectedCandidateId = routePlan.selectedCandidateId ∧
          RouteScorer.applyScoredSelection routePlan report = routePlan := by
  obtain ⟨baseline, first, reported, rfl⟩ :=
    Rescoring.planRoute_scored router pack installed workUnit createdAt routePlan planned
  obtain ⟨again, scored_again, selected⟩ :=
    Rescoring.scoringReport_selecting router pack workUnit baseline first reported
  rw [scored_again]
  cases Rescoring.plannedCost router workUnit
      (baseline.selecting first.selectedCandidateId) with
  | error raised => simp [Except.map]
  | ok cost =>
    refine ⟨⟨fun _ => ⟨cost, rfl⟩, fun _ => ⟨again cost, rfl⟩⟩, ?_⟩
    intro report returned
    have same_report : again cost = report := Except.ok.inj returned
    rw [← same_report, RouteScorer.applyScoredSelection, selected cost]
    exact ⟨rfl, rfl⟩

namespace Rescoring

section Scenario

/-- A runtime for plain texts. -/
def plainRuntime : PythonRuntime where
  alphanumeric := fun _ => false
  digit := fun _ => false
  repr := fun _ => "\x7b\x7d"
  integerOf := fun _ => none

/-- A local tool for some task types. -/
def localTool (backendId : String) (supportedTaskTypes : List String) : BackendManifest where
  backendId := backendId
  backendClass := .localTool
  capacityNodeId := "capnode:" ++ backendId
  displayName := backendId
  version := "1"
  supportedTaskTypes := supportedTaskTypes
  executionLocation := "local_machine"
  manifestHash := "hash"

/-- A rule that sends URL checks to a backend. -/
def urlRule (ruleId backendId : String) (priority : Int) : CandidateRule where
  ruleId := ruleId
  taskType := "url_check"
  backendId := some backendId
  priority := priority

/-- A pack with the default weights. -/
def plainPack : LoadedRoutebookV1 where
  routebookId := "rb"
  version := "1"
  capabilityTags := []
  scorerId := "scorer"
  scorerVersion := "1"
  scoreWeights := [("capability_fit", .float (.ofRat (3 / 10))), ("policy_fit", .float (.ofRat (1 / 4))),
    ("quality_fit", .float (.ofRat (1 / 5))), ("cost_fit", .float (.ofRat (1 / 10))),
    ("latency_fit", .float (.ofRat (1 / 20))), ("trust_fit", .float (.ofRat (1 / 10)))]
  identified := by decide
  weighted := by decide
  nonNegative := by decide +kernel

/-- A router with two local tools, the first of which supports no task type, and a pricing
table that lists the second one. -/
def pricedRouter (unitPrice : Json) : RouterService where
  runtime := plainRuntime
  arithmetic := .double
  routebook :=
    { taskTypes := [⟨"url_check", "L0"⟩]
      taskLevels := [("L0", {})]
      candidateRules := [urlRule "r1" "b1" 1, urlRule "r2" "b2" 2]
      verifierMapping := [("url_check", "url_check_v0")] }
  backendResolver :=
    { backendRegistry := ⟨[localTool "b1" [], localTool "b2" ["url_check"]]⟩
      workerManifests :=
        [{ workerId := "w", backendIds := ["b1", "b2"], backendClasses := [.localTool] }] }
  routebookV1 := some plainPack
  pricing := [[("pricing", .obj [("backend_prices", .arr [
    .obj [("backend_id", .str "b2"), ("input_unit_micros", unitPrice)]])])]]

/-- A check of one address. -/
def urlWorkUnit : WorkUnit where
  workUnitId := "wu"
  runId := "run"
  taskType := "url_check"
  taskLevel := .l0
  inlineInput := [("url", .str "https://example.com")]
  createdAt := "2024-01-01T00:00:00Z"
  updatedAt := "2024-01-01T00:00:00Z"

/-- The plan of the check, if it can be planned. -/
def urlPlan (unitPrice : Json) : Option RoutePlan :=
  ((pricedRouter unitPrice).planRoute urlWorkUnit "2024-01-01T00:00:00Z").toOption

/-- The check is planned where its plan can be read. -/
theorem urlPlan_planned (unitPrice : Json) (routePlan : RoutePlan)
    (read : urlPlan unitPrice = some routePlan) :
    (pricedRouter unitPrice).planRoute urlWorkUnit "2024-01-01T00:00:00Z" = .ok routePlan := by
  unfold urlPlan at read
  cases planned : (pricedRouter unitPrice).planRoute urlWorkUnit "2024-01-01T00:00:00Z" with
  | error raised => simp [planned, Except.toOption] at read
  | ok plan => simpa [planned, Except.toOption] using read

end Scenario

/-- A check at a price of three is planned and scored once more, on the second tool. -/
theorem priced_selection_is_kept :
    ∃ routePlan report,
      (pricedRouter (.int 3)).planRoute urlWorkUnit "2024-01-01T00:00:00Z" = .ok routePlan ∧
        (pricedRouter (.int 3)).scoringReport plainPack urlWorkUnit routePlan = .ok report ∧
        report.selectedCandidateId = routePlan.selectedCandidateId ∧
        RouteScorer.applyScoredSelection routePlan report = routePlan := by
  have priced : (urlPlan (.int 3)).any (fun routePlan =>
      (plannedCost (pricedRouter (.int 3)) urlWorkUnit routePlan).isOk) = true := by decide +kernel
  obtain ⟨routePlan, read, costs⟩ := (Option.any_eq_true _ _).mp priced
  have planned := urlPlan_planned (.int 3) routePlan read
  obtain ⟨scored_iff, kept⟩ := planned_selection_is_kept (pricedRouter (.int 3)) plainPack rfl
    urlWorkUnit "2024-01-01T00:00:00Z" routePlan planned
  obtain ⟨report, reported⟩ := scored_iff.mpr (by
    cases cost : plannedCost (pricedRouter (.int 3)) urlWorkUnit routePlan with
    | error raised => simp [cost, Except.isOk, Except.toBool] at costs
    | ok estimate => exact ⟨estimate, rfl⟩)
  exact ⟨routePlan, report, planned, reported, kept report reported⟩

/-- A check whose selected candidate has no price that is a number is planned, and scoring
its plan once more raises. -/
theorem unpriced_selection_raises :
    ¬ ∀ (router : RouterService) (pack : LoadedRoutebookV1) (workUnit : WorkUnit)
        (createdAt : String) (routePlan : RoutePlan), router.routebookV1 = some pack →
        router.planRoute workUnit createdAt = .ok routePlan →
        ∃ report, router.scoringReport pack workUnit routePlan = .ok report ∧
          report.selectedCandidateId = routePlan.selectedCandidateId ∧
          RouteScorer.applyScoredSelection routePlan report = routePlan := by
  intro kept
  have raises : (urlPlan .null).any (fun routePlan =>
      !((pricedRouter .null).scoringReport plainPack urlWorkUnit routePlan).isOk) = true := by
    decide +kernel
  obtain ⟨routePlan, read, raised⟩ := (Option.any_eq_true _ _).mp raises
  obtain ⟨report, reported, -⟩ := kept (pricedRouter .null) plainPack urlWorkUnit
    "2024-01-01T00:00:00Z" routePlan rfl (urlPlan_planned .null routePlan read)
  rw [reported] at raised
  cases raised

end Rescoring

end TokenBank
