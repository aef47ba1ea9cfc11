import Mathlib.Data.List.Dedup
import TokenBank.Guarantees.Orphans
import TokenBank.Host.Routes

/-!
# Assignments and approved routes

The worker that asks for work gets the oldest attempt that waits, whoever that attempt was routed
to: neither the plan nor the decision is looked at. A submission assigns the candidate that its plan
selects and its decision approves, but does not look at the capacity node. In every run in which
what is assigned fits where it goes, all assignments honour the routes of their attempts.
-/

namespace TokenBank

namespace Scheduler

/-- A waiting attempt is stored under its id. -/
theorem nextAttempt_stored (db : Db) (attemptId : String) (row : AttemptRow)
    (waiting : nextAttempt db = some (attemptId, row)) :
    db.executionAttempts.find? attemptId = some row := by
  have selected := Store.first_mem _ _ _ waiting
  rw [Store.Table.select, List.mem_filter] at selected
  exact (Store.Table.mem_entries_iff _ _ _).mp selected.1

/-- A created attempt is stored with what it refers to, and nothing is assigned. -/
theorem createAttempt_ensures (draws : Draws) (workUnitId routePlanId policyDecisionId : String)
    (status : ExecutionAttemptStatus) (eventType : String) (db : Db) :
    (createAttempt draws workUnitId routePlanId policyDecisionId status eventType).Ensures db
      (fun result left => left.assignments = db.assignments ∧
        ∀ attemptId, result = .ok attemptId → ∃ row,
          left.executionAttempts.find? attemptId = some row ∧ row.workUnitId = workUnitId ∧
          row.routePlanId = routePlanId ∧ row.policyDecisionId = policyDecisionId) := by
  apply Store.Client.Ensures.bind
  apply Store.Client.ensures_fetch
  apply Store.Client.ensures_transaction
  · intro created after stored
    obtain ⟨rfl, inserted⟩ := (createAttemptWrites_ok_iff _ _ _ _ _ _ _ _ _ _).mp stored
    cases inserted with
    | intro attempts outbox references filed events =>
      refine ⟨rfl, fun attemptId returned => ?_⟩
      have same_id := Except.ok.inj returned
      subst same_id
      exact ⟨_, by rw [Store.Table.find?_insert _ _ _ _ filed, if_pos rfl], rfl, rfl, rfl⟩
  · intro error raised
    refine ⟨rfl, fun attemptId returned => ?_⟩
    cases returned

end Scheduler

namespace RoutedPlane

/-! ## New assignments -/

/-- Without new assignments all of them honour their routes. -/
theorem allHonoured_of_kept {before after : RoutedPlane}
    (kept : after.db.assignments = before.db.assignments) : AllHonoured before after := by
  intro assignmentId assignment found absent
  rw [kept, absent] at found
  cases found

/-- What is honoured after a stage without new assignments is honoured after both. -/
theorem AllHonoured.after_kept {before between after : RoutedPlane}
    (kept : between.db.assignments = before.db.assignments) (honoured : AllHonoured between after) :
    AllHonoured before after := by
  intro assignmentId assignment found absent
  exact honoured assignmentId assignment found (by rw [kept, absent])

/-- The assignment of an attempt whose route is honoured honours it. -/
theorem allHonoured_of_inserted (plane : RoutedPlane) (left : Db) (draws : Draws)
    (request : Scheduler.AssignmentRequest) (attempt : AttemptRow)
    (stored : plane.db.executionAttempts.find? request.attemptId = some attempt)
    (inserted : Scheduler.AssignmentInserted draws request attempt.workUnitId plane.db left)
    (honoured : plane.honours attempt request.workerId request.capacityNodeId request.backendId =
      true) : AllHonoured plane (plane.withDb left) := by
  cases inserted with
  | intro assignments outbox attempted workUnit filed events =>
    intro assignmentId assignment found absent
    have found : assignments.find? assignmentId = some assignment := found
    rw [Store.Table.find?_insert _ _ _ _ filed] at found
    split at found
    · have same_row := Option.some.inj found
      subst same_row
      refine ⟨{ attempt with status := .assigned }, request.capacityNodeId, request.backendId, ?_,
        rfl, rfl, rfl, honoured⟩
      change (plane.db.executionAttempts.modify request.attemptId _).find? request.attemptId = _
      rw [Store.Table.find?_modify_self, stored]
      rfl
    · rw [absent] at found
      cases found

/-- Assigning an attempt whose route is honoured honours it. -/
theorem createAssignment_honours (plane : RoutedPlane) (draws : Draws)
    (request : Scheduler.AssignmentRequest) (attempt : AttemptRow)
    (stored : plane.db.executionAttempts.find? request.attemptId = some attempt)
    (honoured : plane.honours attempt request.workerId request.capacityNodeId request.backendId =
      true) : (Scheduler.createAssignment draws request).Ensures plane.db
        (fun _ left => AllHonoured plane (plane.withDb left)) := by
  apply Store.Client.Ensures.bind
  apply Store.Client.ensures_fetch
  rw [(Scheduler.attempt_ok_iff _ _ _).mpr stored]
  apply Store.Client.ensures_transaction
  · intro created left committed
    obtain ⟨-, inserted⟩ := (Scheduler.createAssignmentWrites_ok_iff _ _ _ _ _ _).mp committed
    exact allHonoured_of_inserted plane left draws request attempt stored inserted honoured
  · intro error raised
    exact allHonoured_of_kept rfl

/-- The worker that asks for work honours the route of the attempt it gets, if that fits. -/
theorem assignNextWork_honours (plane : RoutedPlane) (draws : Draws) (workerId : String)
    (fits : plane.nextFits workerId = true) :
    (Scheduler.assignNextWork draws workerId).Ensures plane.db
      (fun _ left => AllHonoured plane (plane.withDb left)) := by
  have unassigned : AllHonoured plane (plane.withDb plane.db) := allHonoured_of_kept rfl
  unfold nextFits at fits
  apply Store.Client.Ensures.bind
  apply Store.Client.ensures_fetch
  cases first : Scheduler.capacityNodeOf workerId plane.db with
  | none => exact Store.Client.ensures_pure _ unassigned
  | some node =>
    apply Store.Client.Ensures.bind
    apply Store.Client.ensures_fetch
    cases waiting : Scheduler.nextAttempt plane.db with
    | none => exact Store.Client.ensures_pure _ unassigned
    | some attempt =>
      rw [first, waiting] at fits
      cases backends : node.2.backendIds with
      | nil => exact Store.Client.ensures_pure _ unassigned
      | cons backendId others =>
        simp only [backends, List.head?_cons, Option.all_some] at fits
        apply Store.Client.Ensures.bind
        refine (createAssignment_honours plane draws
          (Scheduler.nextRequest workerId attempt.1 node.1 backendId) attempt.2
          (Scheduler.nextAttempt_stored _ _ _ waiting) fits).mono ?_
        intro result left honoured
        cases result with
        | error error => exact honoured
        | ok created => exact Store.Client.ensures_pure _ honoured

/-! ## Submissions -/

/-- A stored plan has a candidate for the worker and the backend of each of its candidates. -/
theorem planNames_candidate (routePlan : RoutePlan) (candidate : RouteCandidate) (workerId : String)
    (listed : candidate ∈ routePlan.candidates)
    (worker : Host.candidateWorkerId candidate = .ok workerId) (row : RoutePlanRow)
    (body : row.body = .obj routePlan.modelDump) :
    planNames workerId candidate.backendId row = true := by
  have selected : Json.get candidate.workerSelector "worker_id" = .str workerId := by
    unfold Host.candidateWorkerId at worker
    cases text : Json.get candidate.workerSelector "worker_id" with
    | str other =>
      rw [text] at worker
      by_cases empty : other = ""
      · simp [Json.nonEmptyText, empty] at worker
      · simpa [Json.nonEmptyText, empty] using worker
    | _ => simp [text, Json.nonEmptyText] at worker
  have items : Json.get routePlan.modelDump "candidates" =
      .arr (routePlan.candidates.map RouteCandidate.modelDump) := by
    simp [Json.get, RoutePlan.modelDump, schemaVersion]
  rw [planNames, body, Host.jsonObject, items, jsonItems, List.any_eq_true]
  refine ⟨candidate.modelDump, List.mem_map_of_mem listed, ?_⟩
  have backend : Json.get (Host.jsonObject candidate.modelDump) "backend_id" =
      .str candidate.backendId := by
    simp [Json.get, Host.jsonObject, RouteCandidate.modelDump, schemaVersion]
  have selector : Json.get (Host.jsonObject candidate.modelDump) "worker_selector" =
      .obj candidate.workerSelector := by
    simp [Json.get, Host.jsonObject, RouteCandidate.modelDump, schemaVersion]
  rw [candidateNames, backend, selector, Host.jsonObject, selected]
  simp [Json.same]

/-- The backend that the policy looks at is that of the candidate. -/
theorem textOf_backend (runtime : PythonRuntime) (routePlan : RoutePlan)
    (candidate : RouteCandidate) (backend : BackendManifest)
    (same : backend.backendId = candidate.backendId) :
    Policy.textOf runtime (Host.routePayload routePlan candidate) backend.modelDump "backend_id" =
      candidate.backendId := by
  have routed : Json.get (Host.routePayload routePlan candidate) "backend_id" =
      .str candidate.backendId := by
    simp [Json.get, Host.routePayload, RoutePlan.modelDump, schemaVersion]
  have stated : Json.get backend.modelDump "backend_id" = .str candidate.backendId := by
    simp [Json.get, BackendManifest.modelDump, schemaVersion, same]
  rw [Policy.textOf, routed, stated, ite_self, PythonRuntime.str]

/-- A stored decision that approves a route approves the backend of its candidate. -/
theorem decisionApproves_candidate (platform : HostPlatform) (config : LoadedConfig)
    (workUnit : WorkUnit) (routePlan : RoutePlan) (candidate : RouteCandidate)
    (backend : BackendManifest) (workerId decidedAt : String)
    (known : BackendRegistry.get ⟨config.backends⟩ candidate.backendId = .ok backend)
    (row : PolicyDecisionRow) (decision : PolicyDecision)
    (decided : decision = Host.policyDecision platform config workUnit routePlan candidate backend
      workerId decidedAt) (approved : decision.decision = .approved)
    (text : row.decision = decision.decision.text) (body : row.body = .obj decision.modelDump) :
    decisionApproves candidate.backendId row = true := by
  subst decided
  have same : backend.backendId = candidate.backendId := by
    unfold BackendRegistry.get BackendRegistry.find? at known
    split at known
    · rename_i manifest found
      have same_backend := Except.ok.inj known
      subst same_backend
      simpa using List.find?_some found
    · cases known
  have passed : (Policy.policyChecks platform.runtime config workUnit.modelDump
      (Host.routePayload routePlan candidate) backend.modelDump workerId).all
        PolicyCheck.passed = true := by
    by_contra failed
    simp [Host.policyDecision, Policy.evaluatePolicy, failed] at approved
  have allowed : candidate.backendId ∈ config.allowedBackendIds := by
    simp only [Policy.policyChecks, List.all_cons, Bool.and_eq_true,
      textOf_backend _ _ _ _ same] at passed
    exact List.contains_iff_mem.mp passed.2.2.1
  have constraints : Json.get (Host.jsonObject row.body) "effective_constraints" =
      .obj (Host.policyDecision platform config workUnit routePlan candidate backend workerId
        decidedAt).effectiveConstraints := by
    simp [body, Json.get, Host.jsonObject, PolicyDecision.modelDump, schemaVersion]
  have ids : Json.get (Host.policyDecision platform config workUnit routePlan candidate backend
      workerId decidedAt).effectiveConstraints "allowed_backend_ids" =
      .arr ((sortedSet config.allowedBackendIds).map .str) := by
    simp [Json.get, Host.policyDecision, Policy.evaluatePolicy]
  have listed : candidate.backendId ∈ sortedSet config.allowedBackendIds := by
    exact (List.mem_insertionSort _).mpr (List.mem_dedup.mpr allowed)
  rw [decisionApproves, text, approved, constraints, Host.jsonObject, ids, jsonItems,
    Bool.and_eq_true, beq_self_eq_true, List.any_eq_true]
  exact ⟨rfl, .str candidate.backendId, List.mem_map_of_mem listed, by simp [Json.same]⟩

/-- Scheduling a routed and approved work unit honours its route, if the capacity node allows the
task type. -/
theorem schedule_honours (draws : Host.SubmissionDraws) (workUnit : WorkUnit)
    (routePlan : RoutePlan) (candidate : RouteCandidate) (decision : PolicyDecision)
    (plane : RoutedPlane) (plan : RoutePlanRow) (decisionRow : PolicyDecisionRow)
    (details : WorkUnitDetails) (listed : candidate ∈ routePlan.candidates)
    (planned : plane.host.plane.routePlans.find? routePlan.routePlanId = some plan)
    (body : plan.body = .obj routePlan.modelDump)
    (decided : plane.host.policyDecisions.find? decision.policyDecisionId = some decisionRow)
    (approves : decisionApproves candidate.backendId decisionRow = true)
    (described : plane.host.workUnitDetails.find? workUnit.workUnitId = some details)
    (fits : plane.nodeAllows candidate.capacityNodeId details.taskType = true) :
    (Host.schedule draws workUnit routePlan candidate decision).Ensures plane.host
      (fun _ left => AllHonoured plane { plane with host := left }) := by
  apply Store.Client.Ensures.bind
  apply Store.Client.ensures_ofExcept
  cases worker : Host.candidateWorkerId candidate with
  | error error => exact allHonoured_of_kept rfl
  | ok workerId =>
    have named := planNames_candidate routePlan candidate workerId listed worker plan body
    apply Store.Client.Ensures.bind
    apply Store.Client.ensures_on HostPlane.dbPart
    refine (Scheduler.createAttempt_ensures draws.attempt workUnit.workUnitId routePlan.routePlanId
      decision.policyDecisionId .created "attempt.created" plane.db).mono ?_
    intro result between created
    obtain ⟨kept, attempts⟩ := created
    have kept : (plane.withDb between).db.assignments = plane.db.assignments := kept
    cases result with
    | error error => exact allHonoured_of_kept kept
    | ok attemptId =>
      obtain ⟨row, stored, unit, route, decider⟩ := attempts attemptId rfl
      have honoured : (plane.withDb between).honours row workerId candidate.capacityNodeId
          candidate.backendId = true := by
        change plane.honours row workerId candidate.capacityNodeId candidate.backendId = true
        simp only [honours, unit, route, decider, planned, decided, described, Option.any_some,
          named, approves, fits, Bool.and_self]
      apply Store.Client.Ensures.bind
      apply Store.Client.ensures_on HostPlane.dbPart
      refine (createAssignment_honours (plane.withDb between) draws.assignment
        (Host.assignmentRequest workUnit routePlan candidate decision attemptId workerId) row stored
        honoured).mono ?_
      intro result left assigned
      have honoured : AllHonoured plane ((plane.withDb between).withDb left) :=
        AllHonoured.after_kept kept assigned
      cases result with
      | error error => exact honoured
      | ok assignmentId => exact Store.Client.ensures_pure _ honoured

/-- A stored plan has its document. -/
theorem persistRoutePlan_ensures (draws : Draws) (routePlan : RoutePlan) (host : HostPlane) :
    (Host.persistRoutePlan draws routePlan).Ensures host (fun result left =>
      left.db.assignments = host.db.assignments ∧ left.workUnitDetails = host.workUnitDetails ∧
      (result = .ok () → ∃ row, left.plane.routePlans.find? routePlan.routePlanId = some row ∧
        row.body = .obj routePlan.modelDump)) := by
  apply Store.Client.ensures_transaction
  · intro value left stored
    obtain ⟨keys, outbox, rfl⟩ :=
      Host.persistRoutePlanWrites_ok draws routePlan host left value stored
    refine ⟨rfl, rfl, fun _ => ?_⟩
    rw [Store.Table.find?_upsert, if_pos rfl]
    cases host.plane.routePlans.find? routePlan.routePlanId with
    | none => exact ⟨_, rfl, rfl⟩
    | some earlier => exact ⟨_, rfl, rfl⟩
  · intro error raised
    exact ⟨rfl, rfl, fun returned => by cases returned⟩

/-- A stored decision has its text and its document. -/
theorem persistPolicyDecision_ensures (draws : Draws) (decision : PolicyDecision)
    (host : HostPlane) :
    (Host.persistPolicyDecision draws decision).Ensures host (fun result left =>
      left.db.assignments = host.db.assignments ∧ left.workUnitDetails = host.workUnitDetails ∧
      left.plane.routePlans = host.plane.routePlans ∧
      (result = .ok () → ∃ row,
        left.policyDecisions.find? decision.policyDecisionId = some row ∧
        row.decision = decision.decision.text ∧ row.body = .obj decision.modelDump)) := by
  apply Store.Client.ensures_transaction
  · intro value left stored
    obtain ⟨keys, outbox, rfl⟩ :=
      Host.persistPolicyDecisionWrites_ok draws decision host left value stored
    refine ⟨rfl, rfl, rfl, fun _ => ?_⟩
    rw [Store.Table.find?_upsert, if_pos rfl]
    cases host.policyDecisions.find? decision.policyDecisionId with
    | none => exact ⟨_, rfl, rfl, rfl⟩
    | some earlier => exact ⟨_, rfl, rfl, rfl⟩
  · intro error raised
    exact ⟨rfl, rfl, rfl, fun returned => by cases returned⟩

/-- Putting a route to the policy changes nothing and decides about the candidate's backend. -/
theorem evaluateVs0Policy_ensures (libraries : HostPlatform) (config : LoadedConfig)
    (workUnit : WorkUnit) (routePlan : RoutePlan) (candidate : RouteCandidate) (decidedAt : String)
    (host : HostPlane) :
    (Host.evaluateVs0Policy libraries config workUnit routePlan candidate decidedAt).Ensures host
      (fun result left => left = host ∧ ∀ decision, result = .ok decision → ∃ backend workerId,
        BackendRegistry.get ⟨config.backends⟩ candidate.backendId = .ok backend ∧
        decision = Host.policyDecision libraries config workUnit routePlan candidate backend
          workerId decidedAt) := by
  apply Store.Client.Ensures.bind
  apply Store.Client.ensures_ofExcept
  cases known : BackendRegistry.get ⟨config.backends⟩ candidate.backendId with
  | error error => exact ⟨rfl, fun _ returned => by cases returned⟩
  | ok backend =>
    apply Store.Client.Ensures.bind
    apply Store.Client.ensures_ofExcept
    cases Host.candidateWorkerId candidate with
    | error error => exact ⟨rfl, fun _ returned => by cases returned⟩
    | ok workerId =>
      apply Store.Client.Ensures.bind
      apply Store.Client.ensures_fetch
      cases Host.workerManifest libraries config workerId host with
      | error error => exact ⟨rfl, fun _ returned => by cases returned⟩
      | ok worker =>
        apply Store.Client.ensures_pure
        refine ⟨rfl, fun decision returned => ⟨backend, worker.workerId, rfl, ?_⟩⟩
        exact (Except.ok.inj returned).symm

/-- A selected candidate is one of the plan. -/
theorem selectedCandidate_mem (routePlan : RoutePlan) (candidate : RouteCandidate)
    (selected : Host.selectedCandidate routePlan = .ok candidate) :
    candidate ∈ routePlan.candidates := by
  unfold Host.selectedCandidate at selected
  split at selected
  · rename_i found listed
    have same_candidate := Except.ok.inj selected
    subst same_candidate
    exact List.mem_of_find?_eq_some listed
  · cases selected

/-- What comes after a work unit is stored honours its route, if the capacity node of the candidate
that the plan selects allows the task type. -/
theorem routedSubmission_honours (libraries : HostPlatform) (config : LoadedConfig)
    (router : Except Raised RouterService) (workUnit : WorkUnit) (plannedAt : String)
    (draws : Host.SubmissionDraws) (plane : RoutedPlane) (details : WorkUnitDetails)
    (described : plane.host.workUnitDetails.find? workUnit.workUnitId = some details)
    (fits : ∀ routePlan candidate, Host.plannedRoute router workUnit plannedAt = .ok routePlan →
      Host.selectedCandidate routePlan = .ok candidate →
      plane.nodeAllows candidate.capacityNodeId details.taskType = true) :
    (Host.routedSubmission libraries config router workUnit plannedAt draws).Ensures plane.host
      (fun _ left => AllHonoured plane { plane with host := left }) := by
  apply Store.Client.Ensures.bind
  apply Store.Client.ensures_ofExcept
  cases routed : Host.plannedRoute router workUnit plannedAt with
  | error error => exact allHonoured_of_kept rfl
  | ok routePlan =>
    apply Store.Client.Ensures.bind
    refine (persistRoutePlan_ensures draws.plan routePlan plane.host).mono ?_
    rintro (error | _) planned ⟨assigned, details_kept, stored⟩
    · exact allHonoured_of_kept assigned
    obtain ⟨plan, plan_found, body⟩ := stored rfl
    apply Store.Client.Ensures.bind
    apply Store.Client.ensures_ofExcept
    cases selected : Host.selectedCandidate routePlan with
    | error error => exact allHonoured_of_kept assigned
    | ok candidate =>
      apply Store.Client.Ensures.bind
      refine (evaluateVs0Policy_ensures libraries config workUnit routePlan candidate
        draws.decidedAt planned).mono ?_
      rintro (error | decision) left ⟨rfl, decided⟩
      · exact allHonoured_of_kept assigned
      obtain ⟨backend, workerId, known, same_decision⟩ := decided decision rfl
      apply Store.Client.Ensures.bind
      refine (persistPolicyDecision_ensures draws.decision decision left).mono ?_
      rintro (error | _) approved ⟨assigned_on, details_on, plans_on, filed⟩
      · exact allHonoured_of_kept (assigned_on.trans assigned)
      obtain ⟨row, row_found, text, decision_body⟩ := filed rfl
      apply Store.Client.Ensures.bind
      apply Store.Client.ensures_ofExcept
      by_cases approves : decision.decision = .approved
      · rw [Store.ensure, if_pos approves]
        refine (schedule_honours draws workUnit routePlan candidate decision
          { plane with host := approved } plan row details
          (selectedCandidate_mem routePlan candidate selected) (by rw [plans_on, plan_found]) body
          row_found (decisionApproves_candidate libraries config workUnit routePlan candidate backend
            workerId draws.decidedAt known row decision same_decision approves text decision_body)
          (by rw [details_on, details_kept, described])
          (fits routePlan candidate routed selected)).mono ?_
        intro result last honoured
        have kept : ({ plane with host := approved } : RoutedPlane).db.assignments =
            plane.db.assignments := assigned_on.trans assigned
        exact AllHonoured.after_kept kept honoured
      · rw [Store.ensure, if_neg approves]
        exact allHonoured_of_kept (assigned_on.trans assigned)

/-- A submission honours its route if the capacity node of the candidate it is routed to allows its
task type. -/
theorem submit_honours (libraries : HostPlatform) (config : LoadedConfig)
    (router : Except Raised RouterService) (submission : Host.DemoSubmission)
    (stamp : Host.SubmissionStamp) (draws : Host.SubmissionDraws) (plane : RoutedPlane)
    (fits : plane.submissionFits router submission stamp = true) :
    (Host.submitDemoWorkUnit libraries config router submission stamp draws).Ensures plane.host
      (fun _ left => AllHonoured plane { plane with host := left }) := by
  apply Store.Client.Ensures.bind
  apply Store.Client.ensures_ofExcept
  cases BaseModel.rejectForbiddenKeys (.obj (Host.demoWorkUnit submission stamp).modelDump) with
  | error error => exact allHonoured_of_kept rfl
  | ok _ =>
    apply Store.Client.Ensures.bind
    apply Store.Client.ensures_transaction
    · intro value stored committed
      obtain ⟨runs, workUnits, details, outbox, -, described, rfl⟩ :=
        Host.persistRunAndWorkUnitWrites_ok _ _ _ _ _ _ committed
      refine (routedSubmission_honours libraries config router (Host.demoWorkUnit submission stamp)
        stamp.plannedAt draws { plane with host := _ }
        (Host.workUnitDetails (Host.demoWorkUnit submission stamp)) ?_ ?_).mono ?_
      · exact (Store.Table.find?_insert _ _ _ _ described _).trans (if_pos rfl)
      · intro routePlan candidate routed selected
        unfold submissionFits at fits
        rw [routed] at fits
        simp only [bind, Except.bind, selected] at fits
        exact fits
      · intro result left honoured
        exact AllHonoured.after_kept rfl honoured
    · intro error raised
      exact allHonoured_of_kept rfl

/-! ## Runs -/

/-- In every run in which what is assigned fits where it goes, all assignments made by submissions
and for workers that ask for work honour the routes of their attempts. -/
theorem assignments_honoured (platform : Platform) (libraries : HostPlatform) (plane : RoutedPlane)
    (ops : List RoutedOp)
    (fit : Store.Along (step platform libraries) (fun plane op => plane.fits op = true) plane ops) :
    Store.Along (step platform libraries) (fun plane op => op.assigns = true →
      AllHonoured plane (step platform libraries plane op)) plane ops := by
  refine Store.along_imp _ (fun _ => True) _ _ plane ops trivial ?_ fit
  intro plane op _ fits
  refine ⟨trivial, fun assigns => ?_⟩
  cases op with
  | submit config router submission stamp draws =>
    exact (submit_honours libraries config router submission stamp draws plane fits).run
  | schedule op =>
    cases op with
    | assignNextWork draws workerId =>
      have ends : (SchedulerOp.program platform (.assignNextWork draws workerId)).Ensures plane.db
          (fun _ left => AllHonoured plane (plane.withDb left)) := by
        apply Store.Client.Ensures.bind
        refine (assignNextWork_honours plane draws workerId fits).mono ?_
        rintro (error | created) left honoured
        · exact honoured
        · exact Store.Client.ensures_pure _ honoured
      exact ends.run
    | _ => cases assigns
  | _ => cases assigns

end RoutedPlane

namespace Approvals

open Orphans

section Scenario

/-- The scheduler's libraries, with a constant digest. -/
def scheduler : Platform := ⟨fun _ => "digest", fun _ => none⟩

/-- A control plane with nothing stored and no capacity nodes. -/
def emptyPlane : RoutedPlane := ⟨emptyHost, .empty⟩

/-- The calls of a run in which a worker is the only one with a capacity node: duplicates are
submitted, their attempt is retried, and the worker asks for work. -/
def retriedFor (workerId backendId taskType : String) : List RoutedOp :=
  [.rebuildCapacityNodes ⟨[("n", ⟨some workerId, [backendId]⟩)], by simp⟩
      ⟨[("n", [taskType])], by simp⟩,
    .submit scriptConfig (.ok scriptRouter) (.dedup []) stamp draws,
    .schedule (.scheduleRetry (Scenario.draws 6) (Scheduler.attemptId draws.attempt)),
    .schedule (.assignNextWork (Scenario.draws 7) workerId)]

/-- The calls before the worker asks for work, and what they leave. -/
def waitingFor (workerId backendId taskType : String) : RoutedPlane :=
  Store.run (RoutedPlane.step scheduler scriptPlatform) emptyPlane
    ((retriedFor workerId backendId taskType).take 3)

/-- What the assignment for another worker, with a node for another backend and another task type,
leaves. -/
def assignedElsewhere : RoutedPlane :=
  RoutedPlane.step scheduler scriptPlatform (waitingFor "w2" "b2" "url_check")
    (.schedule (.assignNextWork (Scenario.draws 7) "w2"))

end Scenario

/-- The worker of the plan gets the retried attempt, and both assignments honour the plan. -/
theorem retried_honoured :
    Store.Along (RoutedPlane.step scheduler scriptPlatform) (fun plane op => op.assigns = true →
      RoutedPlane.AllHonoured plane (RoutedPlane.step scheduler scriptPlatform plane op))
        emptyPlane (retriedFor "w" "b1" "dedup") ∧
      (Store.run (RoutedPlane.step scheduler scriptPlatform) emptyPlane
        (retriedFor "w" "b1" "dedup")).db.assignments.entries.length = 2 :=
  ⟨RoutedPlane.assignments_honoured scheduler scriptPlatform emptyPlane
    (retriedFor "w" "b1" "dedup") (by decide +kernel), by decide +kernel⟩

/-- Another worker, whose only node is for another backend and another task type, gets the retried
attempt as well. -/
theorem retried_elsewhere :
    ¬ ∀ (platform : Platform) (libraries : HostPlatform) (ops : List RoutedOp),
        Store.Along (RoutedPlane.step platform libraries) (fun plane op => op.assigns = true →
          RoutedPlane.AllHonoured plane (RoutedPlane.step platform libraries plane op))
            emptyPlane ops := by
  intro honoured
  obtain ⟨-, -, -, last, -⟩ :=
    honoured scheduler scriptPlatform (retriedFor "w2" "b2" "url_check")
  have last : RoutedPlane.AllHonoured (waitingFor "w2" "b2" "url_check") assignedElsewhere :=
    last rfl
  have assigned : ((waitingFor "w2" "b2" "url_check").db.assignments.find?
        (Scheduler.assignmentId (Scenario.draws 7))).isNone = true ∧
      (assignedElsewhere.db.assignments.find? (Scheduler.assignmentId (Scenario.draws 7))).any
        (fun assignment =>
          (assignedElsewhere.db.executionAttempts.find? assignment.attemptId).all (fun attempt =>
            !assignedElsewhere.honours attempt assignment.workerId
              (assignment.capacityNodeId.getD "") (assignment.backendId.getD ""))) = true := by
    decide +kernel
  obtain ⟨absent, filed⟩ := assigned
  obtain ⟨assignment, found, broken⟩ := (Option.any_eq_true _ _).mp filed
  obtain ⟨attempt, capacityNodeId, backendId, stored, -, node, backend, honours⟩ :=
    last _ assignment found (Option.isNone_iff_eq_none.mp absent)
  rw [stored, node, backend, Option.all_some, Option.getD_some, Option.getD_some, honours]
    at broken
  cases broken

end Approvals

end TokenBank
