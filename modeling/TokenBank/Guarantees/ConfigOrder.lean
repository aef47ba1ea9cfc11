import TokenBank.Guarantees.Rescoring
import TokenBank.Store.Newest

/-!
# The order of a configuration

A plan is made from lists: the rules of the routebook, the backends, the workers. Where the
rules, the backends and the workers have ids of their own, no step of planning depends on
the order in which the lists have them. Rules are ranked by a key that holds their id,
backends and workers are found by their ids or as the least of those that qualify, and
everything after that reads the same candidates.
-/

namespace TokenBank

namespace ConfigOrder

/-! ## Backends -/

section Registries

variable (registry : BackendRegistry) (backends : List BackendManifest)
  (permuted : registry.manifests.Perm backends)
  (distinct : (registry.manifests.map BackendManifest.backendId).Nodup)

include permuted distinct

/-- A backend is found by its id in every order. -/
theorem find?_reordered (backendId : String) :
    (⟨backends⟩ : BackendRegistry).find? backendId = registry.find? backendId :=
  (Ranking.find?_key_perm BackendManifest.backendId registry.manifests backends permuted distinct
    backendId).symm

/-- A backend is got by its id in every order. -/
theorem get_reordered :
    (⟨backends⟩ : BackendRegistry).get = registry.get := by
  funext backendId
  rw [BackendRegistry.get, BackendRegistry.get,
    find?_reordered registry backends permuted distinct]

/-- The least backend of a class is the same in every order. -/
theorem resolveByClass_reordered (backendClass : String) (taskType : Option String) :
    (⟨backends⟩ : BackendRegistry).resolveByClass backendClass taskType =
      registry.resolveByClass backendClass taskType := by
  have qualified := permuted.filter (fun manifest =>
    decide (manifest.backendClass.text = backendClass) &&
      taskType.all (fun taskType => manifest.supportedTaskTypes.contains taskType))
  have apart : ((registry.manifests.filter (fun manifest =>
      decide (manifest.backendClass.text = backendClass) &&
        taskType.all (fun taskType => manifest.supportedTaskTypes.contains taskType))).map
          (fun manifest => OrderDual.toDual manifest.backendId)).Nodup :=
    (List.filter_sublist.map _).nodup distinct
  have least := Store.newest_perm (fun manifest => OrderDual.toDual manifest.backendId) _ _
    qualified apart
  rw [← Store.first_eq_newest, ← Store.first_eq_newest] at least
  rw [BackendRegistry.resolveByClass, BackendRegistry.resolveByClass, least]

end Registries

/-! ## Resolving -/

section Resolvers

variable (resolver : BackendResolver) (backends : List BackendManifest)
  (workers : List WorkerManifest)

/-- A resolver with other lists of backends and workers. -/
def reordered : BackendResolver :=
  { resolver with backendRegistry := ⟨backends⟩, workerManifests := workers }

variable (backends_permuted : resolver.backendRegistry.manifests.Perm backends)
  (workers_permuted : resolver.workerManifests.Perm workers)
  (backends_distinct : (resolver.backendRegistry.manifests.map BackendManifest.backendId).Nodup)
  (workers_distinct : (resolver.workerManifests.map WorkerManifest.workerId).Nodup)

include workers_distinct in
/-- Workers with ids of their own are filed one by one. -/
theorem workersById_entries : resolver.workersById.entries =
    resolver.workerManifests.map (fun worker => (worker.workerId, worker)) := by
  rw [BackendResolver.workersById, Store.Table.entries_foldl_upsert WorkerManifest.workerId
    (fun worker => worker) (fun worker _ => worker) resolver.workerManifests workers_distinct .empty]
  · rfl
  · intro worker member
    rfl

include backends_permuted backends_distinct in
/-- A rule means the same backend in every order. -/
theorem resolveBackendManifest_reordered (rule : CandidateRule) :
    (reordered resolver backends workers).resolveBackendManifest rule =
      resolver.resolveBackendManifest rule := by
  rw [BackendResolver.resolveBackendManifest, BackendResolver.resolveBackendManifest]
  simp only [reordered, find?_reordered resolver.backendRegistry backends backends_permuted
    backends_distinct, resolveByClass_reordered resolver.backendRegistry backends
    backends_permuted backends_distinct]

include workers_permuted workers_distinct

/-- The workers are filed in the order that they are listed in. -/
theorem workersById_permuted : resolver.workersById.entries.Perm
    (reordered resolver backends workers).workersById.entries := by
  rw [workersById_entries resolver workers_distinct,
    workersById_entries (reordered resolver backends workers)
      ((workers_permuted.map _).nodup_iff.mp workers_distinct)]
  exact workers_permuted.map _

/-- A worker is found by its id in every order. -/
theorem worker_reordered : (reordered resolver backends workers).worker = resolver.worker := by
  funext workerId
  rw [BackendResolver.worker, BackendResolver.worker, Store.Table.find?_perm _ _
    (workersById_permuted resolver backends workers workers_permuted workers_distinct)]

/-- The least worker that has a backend is the same in every order. -/
theorem firstWorkerForBackend_reordered (backend : BackendManifest) :
    (reordered resolver backends workers).firstWorkerForBackend backend =
      resolver.firstWorkerForBackend backend := by
  have qualified := (workersById_permuted resolver backends workers workers_permuted
    workers_distinct).filter (fun entry =>
      entry.1 != controlPlaneGatewayWorkerId && entry.2.backendIds.contains backend.backendId &&
        entry.2.backendClasses.contains backend.backendClass)
  have apart : ((resolver.workersById.entries.filter (fun entry =>
      entry.1 != controlPlaneGatewayWorkerId && entry.2.backendIds.contains backend.backendId &&
        entry.2.backendClasses.contains backend.backendClass)).map
          (fun entry => OrderDual.toDual entry.1)).Nodup :=
    (List.filter_sublist.map _).nodup resolver.workersById.distinct
  have least := Store.newest_perm (fun entry : String × WorkerManifest => OrderDual.toDual entry.1)
    _ _ qualified apart
  rw [← Store.first_eq_newest, ← Store.first_eq_newest] at least
  rw [BackendResolver.firstWorkerForBackend, BackendResolver.firstWorkerForBackend,
    Store.Table.select, Store.Table.select, least]

include backends_permuted backends_distinct

/-- A rule resolves to the same backend and worker in every order. -/
theorem resolve_reordered (rule : CandidateRule) (workerId : Option String) :
    (reordered resolver backends workers).resolve rule workerId =
      resolver.resolve rule workerId := by
  have local_resolution (backend : BackendManifest) :
      (reordered resolver backends workers).resolveWorkerLocal backend rule workerId =
        resolver.resolveWorkerLocal backend rule workerId := by
    rw [BackendResolver.resolveWorkerLocal, BackendResolver.resolveWorkerLocal,
      worker_reordered resolver backends workers workers_permuted workers_distinct,
      firstWorkerForBackend_reordered resolver backends workers workers_permuted workers_distinct]
  have gateway_resolution (backend : BackendManifest) :
      (reordered resolver backends workers).resolveGateway backend =
        resolver.resolveGateway backend := by
    rw [BackendResolver.resolveGateway, BackendResolver.resolveGateway,
      worker_reordered resolver backends workers workers_permuted workers_distinct]
  rw [BackendResolver.resolve, BackendResolver.resolve,
    resolveBackendManifest_reordered resolver backends workers backends_permuted
      backends_distinct]
  simp only [local_resolution, gateway_resolution]
  rfl

end Resolvers

/-! ## Planning -/

section Routers

variable (router : RouterService) (rules : List CandidateRule) (backends : List BackendManifest)
  (workers : List WorkerManifest)

/-- A router with other lists of rules, backends and workers. -/
def relisted : RouterService :=
  { router with
    routebook := { router.routebook with candidateRules := rules }
    backendResolver := reordered router.backendResolver backends workers }

/-- Other lists are computed with alike. -/
@[simp] theorem relisted_arithmetic :
    (relisted router rules backends workers).arithmetic = router.arithmetic := rfl

variable (rules_permuted : router.routebook.candidateRules.Perm rules)
  (backends_permuted : router.backendRegistry.manifests.Perm backends)
  (workers_permuted : router.backendResolver.workerManifests.Perm workers)
  (rules_distinct : (router.routebook.candidateRules.map CandidateRule.ruleId).Nodup)
  (backends_distinct : (router.backendRegistry.manifests.map BackendManifest.backendId).Nodup)
  (workers_distinct :
    (router.backendResolver.workerManifests.map WorkerManifest.workerId).Nodup)

include rules_permuted rules_distinct in
/-- The rules for a task type have the same ranks in every order. -/
theorem matchingCandidateRules_relisted (taskType : String) :
    CandidateGenerator.matchingCandidateRules
        (relisted router rules backends workers).routebook taskType =
      CandidateGenerator.matchingCandidateRules router.routebook taskType := by
  have keys_distinct : ((router.routebook.candidateRules.filter (fun rule =>
      rule.taskType = taskType)).map CandidateGenerator.ruleKey).Nodup := by
    refine List.Nodup.of_map (fun key => (ofLex key).2) ?_
    rw [List.map_map]
    exact (List.filter_sublist.map _).nodup rules_distinct
  exact (Ranking.ranked_perm CandidateGenerator.ruleKey _ _ (rules_permuted.filter _)
    keys_distinct).symm

include backends_permuted backends_distinct

/-- The backends that a router knows are got in every order. -/
theorem registry_relisted :
    (relisted router rules backends workers).backendRegistry.get = router.backendRegistry.get :=
  get_reordered router.backendRegistry backends backends_permuted backends_distinct

/-- A candidate is refused in every order, or in none. -/
theorem validate_relisted (routePlan : RoutePlan) :
    (relisted router rules backends workers).validate routePlan = router.validate routePlan := by
  have candidates_validated (candidate : RouteCandidate) :
      RoutePlanValidator.validateCandidate (relisted router rules backends workers).routebook
          (relisted router rules backends workers).backendRegistry candidate =
        RoutePlanValidator.validateCandidate router.routebook router.backendRegistry
          candidate := by
    rw [RoutePlanValidator.validateCandidate, RoutePlanValidator.validateCandidate,
      RouterService.backendRegistry, relisted, reordered, find?_reordered router.backendRegistry
        backends backends_permuted backends_distinct]
  rw [RouterService.validate, RouterService.validate, RoutePlanValidator.validate,
    RoutePlanValidator.validate, RoutePlanValidator.validateCandidates,
    RoutePlanValidator.validateCandidates, funext candidates_validated]
  rfl

/-- The scores of a plan are reported in every order. -/
theorem scoringReport_relisted (pack : LoadedRoutebookV1) (workUnit : WorkUnit)
    (routePlan : RoutePlan) :
    (relisted router rules backends workers).scoringReport pack workUnit routePlan =
      router.scoringReport pack workUnit routePlan := by
  have same_registry :=
    registry_relisted router rules backends workers backends_permuted backends_distinct
  have same_comparison : (relisted router rules backends workers).comparison pack workUnit
      routePlan = router.comparison pack workUnit routePlan := by
    have profiled : CapacityProfiles.capacityProfileForCandidate
        (relisted router rules backends workers).backendRegistry =
          CapacityProfiles.capacityProfileForCandidate router.backendRegistry := by
      funext candidate
      rw [CapacityProfiles.capacityProfileForCandidate,
        CapacityProfiles.capacityProfileForCandidate, same_registry]
    rw [RouterService.comparison, RouterService.comparison,
      CapacityProfiles.capacityProfilesForCandidates,
      CapacityProfiles.capacityProfilesForCandidates, profiled]
    rfl
  have same_traces (comparison : RouteScorer.Comparison) :
      RouteScorer.candidateTrace router.arithmetic
          (relisted router rules backends workers).routebook pack
          (relisted router rules backends workers).backendRegistry comparison =
        RouteScorer.candidateTrace router.arithmetic router.routebook pack router.backendRegistry
          comparison := by
    funext candidate
    rw [RouteScorer.candidateTrace, RouteScorer.candidateTrace, same_registry]
    rfl
  have same_scores (comparison : RouteScorer.Comparison) :
      RouteScorer.score (relisted router rules backends workers).arithmetic
          (relisted router rules backends workers).routebook pack
          (relisted router rules backends workers).backendRegistry comparison =
        RouteScorer.score router.arithmetic router.routebook pack router.backendRegistry
          comparison := by
    rw [relisted_arithmetic]
    rw [RouteScorer.score, RouteScorer.score, RouteScorer.candidateScores,
      RouteScorer.candidateScores, same_traces]
  rw [RouterService.scoringReport, RouterService.scoringReport, same_comparison]
  simp only [same_scores]

include rules_permuted rules_distinct workers_permuted workers_distinct

/-- The candidates for a task type are the same, in the same order. -/
theorem generate_relisted (taskType : String) :
    CandidateGenerator.generate (relisted router rules backends workers).routebook
        (relisted router rules backends workers).backendResolver taskType =
      CandidateGenerator.generate router.routebook router.backendResolver taskType := by
  have same_candidate : CandidateGenerator.candidateOf
      (relisted router rules backends workers).routebook
      (relisted router rules backends workers).backendResolver taskType =
        CandidateGenerator.candidateOf router.routebook router.backendResolver taskType := by
    funext rule
    have same_resolution := resolve_reordered router.backendResolver backends workers
      backends_permuted workers_permuted backends_distinct workers_distinct rule none
    have same_registry :=
      registry_relisted router rules backends workers backends_permuted backends_distinct
    rw [RouterService.backendRegistry, RouterService.backendRegistry] at same_registry
    rw [CandidateGenerator.candidateOf, CandidateGenerator.candidateOf, same_registry]
    simp only [relisted, same_resolution]
    rfl
  rw [CandidateGenerator.generate, CandidateGenerator.generate, same_candidate,
    matchingCandidateRules_relisted router rules backends workers rules_permuted rules_distinct]

/-- Routes are planned alike in every order. -/
theorem planRoute_relisted (workUnit : WorkUnit) (createdAt : String) :
    (relisted router rules backends workers).planRoute workUnit createdAt =
      router.planRoute workUnit createdAt := by
  have same_proposal : (relisted router rules backends workers).proposedPlan workUnit createdAt =
      router.proposedPlan workUnit createdAt := by
    rw [RouterService.proposedPlan, RouterService.proposedPlan,
      generate_relisted router rules backends workers rules_permuted backends_permuted
        workers_permuted rules_distinct backends_distinct workers_distinct]
    rfl
  have same_validation := funext
    (validate_relisted router rules backends workers backends_permuted backends_distinct)
  have same_application (baseline : RoutePlan) :
      (relisted router rules backends workers).applyScoredSelection workUnit baseline =
        router.applyScoredSelection workUnit baseline := by
    simp only [RouterService.applyScoredSelection, same_validation,
      scoringReport_relisted router rules backends workers backends_permuted backends_distinct]
    rfl
  rw [RouterService.planRoute, RouterService.planRoute, RouterService.baselinePlan,
    RouterService.baselinePlan, same_proposal, same_validation]
  simp only [same_application]

end Routers

end ConfigOrder

/-- Where the rules, the backends and the workers have ids of their own, a route is planned
alike, or refused alike, in whatever order the routebook and the configuration list them. -/
theorem planRoute_permuted (runtime : PythonRuntime) (arithmetic : Arithmetic)
    (config : LoadedConfig) (routebook : LoadedRoutebook) (pack : Option LoadedRoutebookV1)
    (rules : List CandidateRule) (backends : List BackendManifest) (workers : List WorkerManifest)
    (rules_permuted : routebook.candidateRules.Perm rules)
    (backends_permuted : config.backends.Perm backends)
    (workers_permuted : config.workerManifests.Perm workers)
    (rules_distinct : (routebook.candidateRules.map CandidateRule.ruleId).Nodup)
    (backends_distinct : (config.backends.map BackendManifest.backendId).Nodup)
    (workers_distinct : (config.workerManifests.map WorkerManifest.workerId).Nodup)
    (workUnit : WorkUnit) (createdAt : String) :
    (RouterService.fromDirs runtime arithmetic
        { config with backends := backends, workerManifests := workers }
        { routebook with candidateRules := rules } pack).planRoute workUnit createdAt =
      (RouterService.fromDirs runtime arithmetic config routebook pack).planRoute workUnit createdAt :=
  ConfigOrder.planRoute_relisted (RouterService.fromDirs runtime arithmetic config routebook pack)
    rules backends workers rules_permuted backends_permuted workers_permuted rules_distinct
    backends_distinct workers_distinct workUnit createdAt

namespace ConfigOrder

section Scenario

open Rescoring (localTool plainPack plainRuntime urlWorkUnit)

/-- Two tools on two workers. -/
def twoTools : LoadedConfig where
  backends := [localTool "b1" ["url_check"], localTool "b2" ["url_check"]]
  workerManifests := ["w1", "w2"].map (fun workerId =>
    { workerId := workerId, backendIds := ["b1", "b2"], backendClasses := [.localTool] })

/-- A rule for each of two tools, and one for their class. -/
def threeRules : LoadedRoutebook where
  taskTypes := [⟨"url_check", "L0"⟩]
  taskLevels := [("L0", {})]
  candidateRules :=
    [{ ruleId := "r1", taskType := "url_check", backendId := some "b1" },
      { ruleId := "r2", taskType := "url_check", backendId := some "b2" },
      { ruleId := "r3", taskType := "url_check", backendClass := some "local_tool" }]
  verifierMapping := [("url_check", "url_check_v0")]

/-- Three rules over two tools plan a check alike, and select the same tool, when all lists are
turned around. -/
theorem planRoute_reversed :
    (RouterService.fromDirs plainRuntime .double
        { twoTools with
          backends := twoTools.backends.reverse
          workerManifests := twoTools.workerManifests.reverse }
        { threeRules with candidateRules := threeRules.candidateRules.reverse }
        (some plainPack)).planRoute urlWorkUnit "2024-01-01T00:00:00Z" =
      (RouterService.fromDirs plainRuntime .double twoTools threeRules (some plainPack)).planRoute
        urlWorkUnit "2024-01-01T00:00:00Z" ∧
    ((RouterService.fromDirs plainRuntime .double twoTools threeRules (some plainPack)).planRoute
        urlWorkUnit "2024-01-01T00:00:00Z").toOption.map RoutePlan.selectedCandidateId = some "r1" :=
  ⟨planRoute_permuted plainRuntime .double twoTools threeRules (some plainPack) _ _ _
    (List.reverse_perm _).symm (List.reverse_perm _).symm (List.reverse_perm _).symm
    (by decide) (by decide) (by decide) urlWorkUnit "2024-01-01T00:00:00Z", by decide +kernel⟩

end Scenario

end ConfigOrder

end TokenBank
