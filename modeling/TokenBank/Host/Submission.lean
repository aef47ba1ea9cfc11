import TokenBank.App.ControlPlane
import TokenBank.Policy.Checks
import TokenBank.Router.Service
import TokenBank.Store.Composition

/-!
# Submitting a work unit

A host submits a work unit of one of five task types. It is stored with its run, routed,
put to the policy, and, if that approves, given a first attempt and an assignment to the
worker of the selected candidate. Each of these steps is a transaction of its own.
-/

namespace TokenBank

/-- A row of `runs`. -/
structure RunRow where
  status : String
  body : Json
  createdAt : String
  updatedAt : String

/-- The columns of `work_units` that the scheduler does not use. -/
structure WorkUnitDetails where
  runId : String
  taskType : String
  taskLevel : String
  body : Json
  createdAt : String

/-- A row of `policy_decisions`. -/
structure PolicyDecisionRow where
  workUnitId : String
  routePlanId : String
  decision : String
  body : Json
  createdAt : String

/-- The control plane with the tables that a submission writes. The keys of the decisions
are also among the scheduler's tables, as targets of foreign keys. -/
structure HostPlane where
  plane : ControlPlane
  runs : Store.Table String RunRow
  workUnitDetails : Store.Table String WorkUnitDetails
  policyDecisions : Store.Table String PolicyDecisionRow

namespace HostPlane

/-- The scheduler's tables. -/
def db (host : HostPlane) : Db := host.plane.db

/-- The same with other scheduler tables. -/
def withDb (host : HostPlane) (db : Db) : HostPlane := { host with plane := host.plane.withDb db }

/-- The scheduler's tables are a part. -/
def dbPart : Store.Part HostPlane Db where
  read := db
  replace := withDb
  read_replace _ _ := rfl
  replace_read _ := rfl
  replace_replace _ _ _ := rfl

end HostPlane

/-- The libraries a submission calls. -/
structure HostPlatform where
  runtime : PythonRuntime
  sha256 : String → String
  workerManifest : Json → Except Raised WorkerManifest

namespace Host

/-! ## Task types -/

/-- The task types a host can submit. -/
inductive DemoTask : Type
  | urlCheck
  | dedup
  | webpageExtraction
  | topicClassification
  | claimExtraction
deriving DecidableEq

/-- The name of a task type. -/
def DemoTask.taskType : DemoTask → String
  | .urlCheck => "url_check"
  | .dedup => "dedup"
  | .webpageExtraction => "webpage_extraction"
  | .topicClassification => "topic_classification"
  | .claimExtraction => "claim_extraction"

/-- The phase that introduced a task type. -/
def DemoTask.phase : DemoTask → String
  | .urlCheck => "VS0"
  | .dedup => "VS1a"
  | .webpageExtraction => "VS1b"
  | .topicClassification => "VS1c"
  | .claimExtraction => "VS1d"

/-- What the run ids of a task type start with. -/
def DemoTask.runPrefix : DemoTask → String
  | .urlCheck => "run_vs0"
  | .dedup => "run_vs1a"
  | .webpageExtraction => "run_vs1b"
  | .topicClassification => "run_vs1c"
  | .claimExtraction => "run_vs1d"

/-- What the work unit ids of a task type start with. -/
def DemoTask.workUnitPrefix : DemoTask → String
  | .urlCheck => "wu_vs0"
  | .dedup => "wu_vs1a"
  | .webpageExtraction => "wu_vs1b"
  | .topicClassification => "wu_vs1c"
  | .claimExtraction => "wu_vs1d"

/-- The level of the tasks of a type. -/
def DemoTask.taskLevel : DemoTask → TaskLevel
  | .urlCheck => .l0
  | .dedup => .l1
  | .webpageExtraction => .l1
  | .topicClassification => .l1
  | .claimExtraction => .l2

/-! ## Submissions -/

/-- A submission through one of the entries. -/
inductive DemoSubmission : Type
  | urlCheck (url : String)
  | dedup (items : List Json)
  | webpageExtraction (url : String) (html text title : Option String)
  | topicClassification (text : String) (allowedLabels : Option (List String))
  | claimExtraction (text sourceId : String) (entity : Option String)
      (allowedClaimTypes : Option (List String))

/-- The task type of a submission. -/
def DemoSubmission.task : DemoSubmission → DemoTask
  | .urlCheck _ => .urlCheck
  | .dedup _ => .dedup
  | .webpageExtraction _ _ _ _ => .webpageExtraction
  | .topicClassification _ _ => .topicClassification
  | .claimExtraction _ _ _ _ => .claimExtraction

/-- Texts in an array, or others where none are given. -/
def textsOr (given : Option (List String)) (others : List String) : Json :=
  .arr ((if given.getD [] = [] then others else given.getD []).map .str)

/-- The member of an object that may be left out. -/
def optionalMember (key : String) (text : Option String) : JsonObject :=
  (text.map (fun text => (key, Json.str text))).toList

/-- The input that an entry makes of its arguments. -/
def DemoSubmission.inlineInput : DemoSubmission → JsonObject
  | .urlCheck url => [("url", .str url)]
  | .dedup items => [("items", .arr items)]
  | .webpageExtraction url html text title =>
    ("url", .str url) :: optionalMember "html" html ++ optionalMember "text" text ++
      optionalMember "title" title
  | .topicClassification text allowedLabels =>
    [("text", .str text), ("allowed_labels",
      textsOr allowedLabels ["engineering", "finance", "policy", "science", "general"])]
  | .claimExtraction text sourceId entity allowedClaimTypes =>
    [("text", .str text), ("source_id", .str sourceId),
      ("sources", .arr [.obj [("source_id", .str sourceId), ("text", .str text)]]),
      ("allowed_claim_types",
        textsOr allowedClaimTypes ["factual", "metric", "policy", "product", "other"])] ++
      optionalMember "entity" entity

/-- What a submission draws before the policy decides: the identifiers of its run and its
work unit, and when these and the plan were made. -/
structure SubmissionStamp where
  runUuid : String
  workUnitUuid : String
  now : String
  plannedAt : String

/-- What the transactions of a submission draw. -/
structure SubmissionDraws where
  run : Draws
  plan : Draws
  decidedAt : String
  decision : Draws
  attempt : Draws
  assignment : Draws

/-- The work unit of a submission. -/
def demoWorkUnit (submission : DemoSubmission) (stamp : SubmissionStamp) : WorkUnit where
  workUnitId := submission.task.workUnitPrefix ++ "_" ++ stamp.workUnitUuid
  runId := submission.task.runPrefix ++ "_" ++ stamp.runUuid
  taskType := submission.task.taskType
  taskLevel := submission.task.taskLevel
  status := .submitted
  dataLabels := ["public_url"]
  inlineInput := submission.inlineInput
  maxCostMicros := some 0
  createdAt := stamp.now
  updatedAt := stamp.now

/-! ## Storing the run, the plan and the decision -/

/-- The document of the run of a work unit. -/
def runBody (workUnit : WorkUnit) (phase : String) : JsonObject :=
  [("run_id", .str workUnit.runId), ("source", .str ("host." ++ workUnit.taskType)),
    ("task_type", .str workUnit.taskType), ("phase", .str phase)]

/-- Insert the run of a work unit. -/
def insertRun (workUnit : WorkUnit) (phase : String) (host : HostPlane) : Except Raised HostPlane :=
  (Db.inserting "runs.run_id" true host.runs workUnit.runId
    ⟨"submitted", .obj (runBody workUnit phase), workUnit.createdAt, workUnit.createdAt⟩).map
      (fun runs => { host with runs := runs })

/-- Insert a work unit. -/
def insertWorkUnit (workUnit : WorkUnit) (host : HostPlane) : Except Raised HostPlane := do
  let workUnits ← Db.inserting "work_units.work_unit_id" (host.runs.find? workUnit.runId).isSome
    host.db.workUnits workUnit.workUnitId ⟨workUnit.status, workUnit.createdAt⟩
  let details ← Db.inserting "work_units.work_unit_id" true host.workUnitDetails workUnit.workUnitId
    ⟨workUnit.runId, workUnit.taskType, workUnit.taskLevel.text, .obj workUnit.modelDump,
      workUnit.createdAt⟩
  return { host.withDb { host.db with workUnits := workUnits } with workUnitDetails := details }

/-- Enqueue an event, which names a run. -/
def enqueue (event : OutboxEventInput) (createdAt : String) : Store.Block HostPlane Raised Unit := do
  let sequence ← .fetch (fun host => .ok (Outbox.nextSequence host.db.eventOutbox))
  .put (fun host => (Outbox.insertPending event sequence createdAt host.db).map host.withDb)

/-- The event of a new run. -/
def runEvent (draws : Draws) (workUnit : WorkUnit) (phase : String) : OutboxEventInput :=
  { draws.event 0 "tokenbank.host" "run.created" ("runs/" ++ workUnit.runId) none none none
      (runBody workUnit phase) with runId := some workUnit.runId }

/-- The event of a new work unit. -/
def workUnitEvent (draws : Draws) (workUnit : WorkUnit) : OutboxEventInput :=
  { draws.event 2 "tokenbank.host" "work_unit.created" ("work_units/" ++ workUnit.workUnitId)
      (some workUnit.workUnitId) none none workUnit.modelDump with runId := some workUnit.runId }

/-- The transaction of `persistRunAndWorkUnit`. -/
def persistRunAndWorkUnitWrites (draws : Draws) (workUnit : WorkUnit) (phase : String) :
    Store.Block HostPlane Raised Unit := do
  .put (insertRun workUnit phase)
  .put (insertWorkUnit workUnit)
  enqueue (runEvent draws workUnit phase) (draws.utcText 0)
  enqueue (workUnitEvent draws workUnit) (draws.utcText 1)

/-- Store a work unit with its run. -/
def persistRunAndWorkUnit (draws : Draws) (workUnit : WorkUnit) (phase : String) :
    Store.Client HostPlane Raised Unit :=
  .transaction Db.nestedTransaction (persistRunAndWorkUnitWrites draws workUnit phase)

/-- The event of a new plan. -/
def routePlanEvent (draws : Draws) (routePlan : RoutePlan) : OutboxEventInput :=
  draws.event 0 "tokenbank.router" "route_plan.created" ("route_plans/" ++ routePlan.routePlanId)
    (some routePlan.workUnitId) none none routePlan.modelDump

/-- The transaction of `persistRoutePlan`. -/
def persistRoutePlanWrites (draws : Draws) (routePlan : RoutePlan) :
    Store.Block HostPlane Raised Unit := do
  .put (fun host => (ControlPlane.putRoutePlan routePlan.routePlanId routePlan.workUnitId
    (.obj routePlan.modelDump) routePlan.createdAt host.plane).map
      (fun plane => { host with plane := plane }))
  enqueue (routePlanEvent draws routePlan) (draws.utcText 0)

/-- Store a plan. -/
def persistRoutePlan (draws : Draws) (routePlan : RoutePlan) : Store.Client HostPlane Raised Unit :=
  .transaction Db.nestedTransaction (persistRoutePlanWrites draws routePlan)

/-- Write a decision. A new one needs its work unit and its plan. -/
def putPolicyDecision (decision : PolicyDecision) (host : HostPlane) : Except Raised HostPlane :=
  if (host.policyDecisions.find? decision.policyDecisionId).isSome then
    .ok { host with
      policyDecisions := host.policyDecisions.modify decision.policyDecisionId (fun row =>
        { row with decision := decision.decision.text, body := .obj decision.modelDump }) }
  else
    (Db.inserting "policy_decisions.policy_decision_id"
      ((host.db.workUnits.find? decision.workUnitId).isSome &&
        host.db.routePlans.contains decision.routePlanId) host.policyDecisions
      decision.policyDecisionId ⟨decision.workUnitId, decision.routePlanId, decision.decision.text,
        .obj decision.modelDump, decision.decidedAt⟩).map (fun policyDecisions =>
          { host.withDb { host.db with
              policyDecisions := host.db.policyDecisions ++ [decision.policyDecisionId] } with
            policyDecisions := policyDecisions })

/-- The event of a new decision. -/
def policyDecisionEvent (draws : Draws) (decision : PolicyDecision) : OutboxEventInput :=
  draws.event 0 "tokenbank.policy" "policy_decision.created"
    ("policy_decisions/" ++ decision.policyDecisionId) (some decision.workUnitId) none none
    decision.modelDump

/-- The transaction of `persistPolicyDecision`. -/
def persistPolicyDecisionWrites (draws : Draws) (decision : PolicyDecision) :
    Store.Block HostPlane Raised Unit := do
  .put (putPolicyDecision decision)
  enqueue (policyDecisionEvent draws decision) (draws.utcText 0)

/-- Store a decision. -/
def persistPolicyDecision (draws : Draws) (decision : PolicyDecision) :
    Store.Client HostPlane Raised Unit :=
  .transaction Db.nestedTransaction (persistPolicyDecisionWrites draws decision)

/-! ## The policy -/

/-- The candidate a plan selects: the first one with the selected id. -/
def selectedCandidate (routePlan : RoutePlan) : Except Raised RouteCandidate :=
  match routePlan.candidates.find? (fun candidate =>
    candidate.routeCandidateId = routePlan.selectedCandidateId) with
  | some candidate => .ok candidate
  | none => .error (.valueError "RoutePlan selected candidate is missing")

/-- The worker of a candidate. -/
def candidateWorkerId (candidate : RouteCandidate) : Except Raised String :=
  match (Json.get candidate.workerSelector "worker_id").nonEmptyText with
  | some workerId => .ok workerId
  | none => .error (.valueError "demo task route requires a concrete worker_id")

/-- The workers that have registered, in the order of their rows' ids. -/
def storedWorkerManifests (platform : HostPlatform) (host : HostPlane) :
    Except Raised (List WorkerManifest) :=
  (host.plane.workerManifests.entries.insertionSort (fun left right => left.1 ≤ right.1)).mapM
    (fun entry => platform.workerManifest entry.2.body)

/-- The manifest of a worker: as it has registered, or as it is configured. -/
def workerManifest (platform : HostPlatform) (config : LoadedConfig) (workerId : String)
    (host : HostPlane) : Except Raised WorkerManifest := do
  let stored ← storedWorkerManifests platform host
  let resolver : BackendResolver :=
    { BackendResolver.fromConfig config with workerManifests := config.workerManifests ++ stored }
  match resolver.workersById.find? workerId with
  | some worker => .ok worker
  | none => .error (.valueError ("unknown worker_id for demo route: " ++ workerId))

/-- The document of a plan with the backend of its selected candidate. -/
def routePayload (routePlan : RoutePlan) (candidate : RouteCandidate) : JsonObject :=
  routePlan.modelDump ++ [("backend_id", .str candidate.backendId),
    ("backend_class", .str candidate.backendClass.text)]

/-- What the policy decides about a work unit on a worker. -/
def policyDecision (platform : HostPlatform) (config : LoadedConfig) (workUnit : WorkUnit)
    (routePlan : RoutePlan) (candidate : RouteCandidate) (backend : BackendManifest)
    (workerId decidedAt : String) : PolicyDecision :=
  Policy.evaluatePolicy platform.runtime platform.sha256 config workUnit.modelDump
    (routePayload routePlan candidate) backend.modelDump workerId decidedAt

/-- Put a route to the policy. -/
def evaluateVs0Policy (platform : HostPlatform) (config : LoadedConfig) (workUnit : WorkUnit)
    (routePlan : RoutePlan) (candidate : RouteCandidate) (decidedAt : String) :
    Store.Client HostPlane Raised PolicyDecision := do
  let backend ← .ofExcept (BackendRegistry.get ⟨config.backends⟩ candidate.backendId)
  let workerId ← .ofExcept (candidateWorkerId candidate)
  let worker ← .fetch (workerManifest platform config workerId)
  return policyDecision platform config workUnit routePlan candidate backend worker.workerId decidedAt

/-! ## Submitting -/

/-- What a host is told about its submission. -/
structure SubmittedReply where
  runId : String
  workUnitId : String
  routePlanId : String
  policyDecisionId : String
  attemptId : String
  assignmentId : String
  workerId : String
  capacityNodeId : String
  backendId : String
  backendClass : BackendClass
  verifierRecipeId : String

/-- What the worker of an assignment has to keep to. -/
def effectiveConstraints (workUnit : WorkUnit) (routePlan : RoutePlan) (candidate : RouteCandidate)
    (decision : PolicyDecision) : JsonObject :=
  [("input", .obj workUnit.inlineInput), ("run_id", .str workUnit.runId),
    ("task_type", .str workUnit.taskType), ("task_level", .str workUnit.taskLevel.text),
    ("backend_class", .str candidate.backendClass.text),
    ("route_plan_id", .str routePlan.routePlanId),
    ("policy_decision_id", .str decision.policyDecisionId),
    ("verifier_recipe_id", .str routePlan.verifierRecipeId),
    ("policy", .obj decision.effectiveConstraints)]

/-- The assignment of a first attempt to the worker of a candidate. -/
def assignmentRequest (workUnit : WorkUnit) (routePlan : RoutePlan) (candidate : RouteCandidate)
    (decision : PolicyDecision) (attemptId workerId : String) : Scheduler.AssignmentRequest where
  attemptId := attemptId
  workerId := workerId
  capacityNodeId := candidate.capacityNodeId
  backendId := candidate.backendId
  backendClass := some candidate.backendClass.text
  effectiveConstraints := some (effectiveConstraints workUnit routePlan candidate decision)

/-- A client of the scheduler's tables. -/
def onDb {α : Type} (client : Store.Client Db Raised α) : Store.Client HostPlane Raised α :=
  client.on HostPlane.dbPart.read HostPlane.dbPart.replace

/-- Give a routed and approved work unit its first attempt, and assign it. -/
def schedule (draws : SubmissionDraws) (workUnit : WorkUnit) (routePlan : RoutePlan)
    (candidate : RouteCandidate) (decision : PolicyDecision) :
    Store.Client HostPlane Raised SubmittedReply := do
  let workerId ← .ofExcept (candidateWorkerId candidate)
  let attemptId ← onDb (Scheduler.createAttempt draws.attempt workUnit.workUnitId
    routePlan.routePlanId decision.policyDecisionId .created "attempt.created")
  let assignmentId ← onDb (Scheduler.createAssignment draws.assignment
    (assignmentRequest workUnit routePlan candidate decision attemptId workerId))
  return ⟨workUnit.runId, workUnit.workUnitId, routePlan.routePlanId, decision.policyDecisionId,
    attemptId, assignmentId, workerId, candidate.capacityNodeId, candidate.backendId,
    candidate.backendClass, routePlan.verifierRecipeId⟩

/-- The plan of a router, if the configuration and the routebook that it is built from can be
loaded. -/
def plannedRoute (router : Except Raised RouterService) (workUnit : WorkUnit) (createdAt : String) :
    Except Raised RoutePlan := do
  let router ← router
  router.planRoute workUnit createdAt

/-- Submit a work unit: store it, load the router and route it, put the route to the policy, and
schedule it if that approves. -/
def submitDemoWorkUnit (platform : HostPlatform) (config : LoadedConfig)
    (router : Except Raised RouterService) (submission : DemoSubmission) (stamp : SubmissionStamp)
    (draws : SubmissionDraws) : Store.Client HostPlane Raised SubmittedReply := do
  let workUnit := demoWorkUnit submission stamp
  .ofExcept (BaseModel.rejectForbiddenKeys (.obj workUnit.modelDump))
  persistRunAndWorkUnit draws.run workUnit submission.task.phase
  let routePlan ← .ofExcept (plannedRoute router workUnit stamp.plannedAt)
  persistRoutePlan draws.plan routePlan
  let candidate ← .ofExcept (selectedCandidate routePlan)
  let decision ← evaluateVs0Policy platform config workUnit routePlan candidate draws.decidedAt
  persistPolicyDecision draws.decision decision
  .ofExcept (Store.ensure (decision.decision = .approved)
    (.valueError (workUnit.taskType ++ " WorkUnit denied by policy")))
  schedule draws workUnit routePlan candidate decision

end Host

end TokenBank
