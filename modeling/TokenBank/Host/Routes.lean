import TokenBank.Host.Results

/-!
# Routes and the assignments made for them

Work units are submitted, plans stored, workers registered and capacity nodes rebuilt, and the
scheduler is called, one call after the other. An attempt is assigned on two paths: the submission
assigns the first attempt of its work unit, and a worker that asks for work gets the oldest attempt
that waits. An assignment honours the route of its attempt if the stored plan has a candidate for
its worker and its backend, the stored decision approves that backend, and its capacity node allows
the task type.
-/

namespace TokenBank

/-- The host's tables with the task types that capacity nodes allow. -/
structure RoutedPlane where
  host : HostPlane
  allowedTaskTypes : Store.Table String (List String)

namespace RoutedPlane

/-- The scheduler's tables. -/
def db (plane : RoutedPlane) : Db := plane.host.db

/-- The same with other scheduler tables. -/
def withDb (plane : RoutedPlane) (db : Db) : RoutedPlane :=
  { plane with host := plane.host.withDb db }

end RoutedPlane

/-- A call that concerns routes. Capacity nodes are rebuilt as any rows with any task types. -/
inductive RoutedOp : Type
  | rebuildCapacityNodes (nodes : Store.Table String CapacityNodeRow)
      (allowedTaskTypes : Store.Table String (List String))
  | upsertWorkerManifest (workerId manifestHash : String) (body : Json) (now : String)
  | planRoute (routePlan : RoutePlan)
  | submit (config : LoadedConfig) (router : Except Raised RouterService) (submission : Host.DemoSubmission)
      (stamp : Host.SubmissionStamp) (draws : Host.SubmissionDraws)
  | schedule (op : SchedulerOp)

/-- The call assigns attempts on one of the two paths. -/
def RoutedOp.assigns : RoutedOp → Bool
  | .submit _ _ _ _ _ => true
  | .schedule (.assignNextWork _ _) => true
  | _ => false

namespace RoutedPlane

/-- The tables after one call. -/
def step (platform : Platform) (libraries : HostPlatform) (plane : RoutedPlane) :
    RoutedOp → RoutedPlane
  | .rebuildCapacityNodes nodes allowedTaskTypes =>
    { plane.withDb { plane.db with capacityNodes := nodes } with
      allowedTaskTypes := allowedTaskTypes }
  | .upsertWorkerManifest workerId manifestHash body now =>
    { plane with host := (((ControlPlane.upsertWorkerManifest workerId manifestHash body now).on
      HostPlane.controlPart.read HostPlane.controlPart.replace).run plane.host).2 }
  | .planRoute routePlan =>
    { plane with host := (((ControlPlane.persistRoutePlan routePlan.routePlanId
      routePlan.workUnitId (.obj routePlan.modelDump) routePlan.createdAt).on
        HostPlane.controlPart.read HostPlane.controlPart.replace).run plane.host).2 }
  | .submit config router submission stamp draws =>
    { plane with host :=
      ((Host.submitDemoWorkUnit libraries config router submission stamp draws).run plane.host).2 }
  | .schedule op => plane.withDb (Scheduler.step platform plane.db op)

/-! ## Honoured routes -/

/-- A candidate of a stored plan is for a worker and a backend. -/
def candidateNames (workerId backendId : String) (candidate : Json) : Bool :=
  (Json.get (Host.jsonObject candidate) "backend_id").same (.str backendId) &&
    (Json.get (Host.jsonObject (Json.get (Host.jsonObject candidate) "worker_selector"))
      "worker_id").same (.str workerId)

/-- The items of a stored array. -/
def jsonItems : Json → List Json
  | .arr items => items
  | _ => []

/-- A stored plan has a candidate for a worker and a backend. -/
def planNames (workerId backendId : String) (plan : RoutePlanRow) : Bool :=
  (jsonItems (Json.get (Host.jsonObject plan.body) "candidates")).any
    (candidateNames workerId backendId)

/-- A stored decision approves a backend. -/
def decisionApproves (backendId : String) (decision : PolicyDecisionRow) : Bool :=
  decision.decision == PolicyDecisionValue.approved.text &&
    (jsonItems (Json.get (Host.jsonObject (Json.get (Host.jsonObject decision.body)
      "effective_constraints")) "allowed_backend_ids")).any (fun item => item.same (.str backendId))

/-- A capacity node allows a task type, or is not known. -/
def nodeAllows (plane : RoutedPlane) (capacityNodeId taskType : String) : Bool :=
  (plane.allowedTaskTypes.find? capacityNodeId).all (fun taskTypes => taskTypes.contains taskType)

/-- A worker, its capacity node and a backend honour the route of an attempt. -/
def honours (plane : RoutedPlane) (attempt : AttemptRow)
    (workerId capacityNodeId backendId : String) : Bool :=
  (plane.host.plane.routePlans.find? attempt.routePlanId).any (planNames workerId backendId) &&
    (plane.host.policyDecisions.find? attempt.policyDecisionId).any (decisionApproves backendId) &&
    (plane.host.workUnitDetails.find? attempt.workUnitId).any (fun details =>
      plane.nodeAllows capacityNodeId details.taskType)

/-- An assignment honours the route of its attempt. -/
def Honoured (plane : RoutedPlane) (assignment : AssignmentRow) : Prop :=
  ∃ attempt capacityNodeId backendId,
    plane.db.executionAttempts.find? assignment.attemptId = some attempt ∧
    assignment.workUnitId = attempt.workUnitId ∧
    assignment.capacityNodeId = some capacityNodeId ∧ assignment.backendId = some backendId ∧
    plane.honours attempt assignment.workerId capacityNodeId backendId = true

/-- Every assignment that is new honours the route of its attempt. -/
def AllHonoured (before after : RoutedPlane) : Prop :=
  ∀ assignmentId assignment, after.db.assignments.find? assignmentId = some assignment →
    before.db.assignments.find? assignmentId = none → after.Honoured assignment

/-- The attempt that a worker would get fits the worker: its route is honoured by the worker, its
first capacity node and the first backend of that. -/
def nextFits (plane : RoutedPlane) (workerId : String) : Bool :=
  match Scheduler.capacityNodeOf workerId plane.db, Scheduler.nextAttempt plane.db with
  | some (capacityNodeId, node), some (_, attempt) =>
    node.backendIds.head?.all (plane.honours attempt workerId capacityNodeId)
  | _, _ => true

/-- The capacity node of the candidate that a submission is routed to allows its task type. -/
def submissionFits (plane : RoutedPlane) (router : Except Raised RouterService)
    (submission : Host.DemoSubmission) (stamp : Host.SubmissionStamp) : Bool :=
  match Host.plannedRoute router (Host.demoWorkUnit submission stamp) stamp.plannedAt >>=
      Host.selectedCandidate with
  | .ok candidate => plane.nodeAllows candidate.capacityNodeId submission.task.taskType
  | .error _ => true

/-- What is assigned in a call fits where it goes. -/
def fits (plane : RoutedPlane) : RoutedOp → Bool
  | .submit _ router submission stamp _ => plane.submissionFits router submission stamp
  | .schedule (.assignNextWork _ workerId) => plane.nextFits workerId
  | _ => true

end RoutedPlane

end TokenBank
