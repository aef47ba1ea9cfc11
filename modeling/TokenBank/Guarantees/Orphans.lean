import TokenBank.Guarantees.Rescoring
import TokenBank.Host.Results
import TokenBank.Host.Submission

/-!
# Orphaned work units

A submission stores its work unit in its first transaction. Whatever raises after that, be it the
routing, the policy or the scheduling, leaves the work unit submitted and without an assignment:
nothing takes the first transaction back. A submission that raises leaves no orphan exactly if it
does so before the work unit is stored.
-/

namespace TokenBank

namespace Host

/-- No work unit is new, still submitted, and without an assignment. -/
def NoOrphan (before after : Db) : Prop :=
  ∀ workUnitId row, after.workUnits.find? workUnitId = some row →
    before.workUnits.find? workUnitId = none → row.status = .submitted →
    ∃ assignmentId assignment, after.assignments.find? assignmentId = some assignment ∧
      assignment.workUnitId = workUnitId

/-- The document model accepts the work unit of a submission. -/
def Accepted (submission : DemoSubmission) (stamp : SubmissionStamp) : Prop :=
  BaseModel.rejectForbiddenKeys (.obj (demoWorkUnit submission stamp).modelDump) = .ok ()

/-- The ids that storing a work unit draws are not in use. -/
structure Storable (draws : Draws) (workUnit : WorkUnit) (phase : String) (host : HostPlane) :
    Prop where
  run : host.runs.find? workUnit.runId = none
  unit : host.db.workUnits.find? workUnit.workUnitId = none
  details : host.workUnitDetails.find? workUnit.workUnitId = none
  events : Outbox.Unused host.db.eventOutbox
    [(runEvent draws workUnit phase).eventId, (workUnitEvent draws workUnit).eventId]

/-! ## Storing the work unit -/

/-- An event is enqueued exactly if its id is new, and nothing but the outbox changes. -/
theorem enqueue_ok_iff (event : OutboxEventInput) (createdAt : String) (before after : HostPlane)
    (value : Unit) : (enqueue event createdAt).run before = .ok (value, after) ↔
      ∃ outbox, Outbox.enqueueAll before.db.eventOutbox [(event, createdAt)] = some outbox ∧
        after = before.withDb { before.db with eventOutbox := outbox } := by
  simp only [enqueue, Store.Block.run_bind_ok, Store.Block.run_fetch_ok, Store.Block.run_put_ok,
    Outbox.enqueueAll, Except.ok.injEq, Option.bind_fun_some]
  constructor
  · rintro ⟨sequence, between, ⟨rfl, rfl⟩, written⟩
    obtain ⟨db, inserted, rfl⟩ := (Store.map_ok_iff _ _ _).mp written
    rw [Outbox.insertPending_next, Store.map_ok_iff] at inserted
    obtain ⟨outbox, filed, rfl⟩ := inserted
    exact ⟨outbox, ((Db.inserting_ok_iff _ _ _ _ _ _).mp filed).1, rfl⟩
  · rintro ⟨outbox, inserted, rfl⟩
    refine ⟨_, before, ⟨rfl, rfl⟩, (Store.map_ok_iff _ _ _).mpr ⟨_, ?_, rfl⟩⟩
    rw [Outbox.insertPending_next, Store.map_ok_iff]
    exact ⟨outbox, (Db.inserting_ok_iff _ _ _ _ _ _).mpr ⟨inserted, rfl⟩, rfl⟩

/-- A row can be inserted exactly if its key is new. -/
theorem insert_isSome_iff {ν : Type} (table : Store.Table String ν) (key : String) (row : ν) :
    (∃ next, table.insert key row = some next) ↔ table.find? key = none := by
  cases inserted : table.insert key row with
  | none =>
    have present := (Store.Table.insert_none_iff _ _ _).mp inserted
    simp [present]
  | some next => simp [((Store.Table.insert_some_iff _ _ _ _).mp inserted).1]

/-- The transaction of a work unit commits exactly if the ids it draws are not in use. -/
theorem persistRunAndWorkUnit_ok_iff (draws : Draws) (workUnit : WorkUnit) (phase : String)
    (host : HostPlane) :
    (∃ value after, (persistRunAndWorkUnitWrites draws workUnit phase).run host =
      .ok (value, after)) ↔ Storable draws workUnit phase host := by
  simp only [persistRunAndWorkUnitWrites, Store.Block.run_bind_ok, Store.Block.run_put_ok,
    enqueue_ok_iff, insertRun, insertWorkUnit, Store.map_ok_iff, Store.bind_ok_iff,
    Db.inserting_ok_iff]
  constructor
  · rintro ⟨value, after, -, _, ⟨runs, ⟨run, -⟩, rfl⟩, -, _,
      ⟨workUnits, ⟨unit, -⟩, details, ⟨described, -⟩, returned⟩, -, _, ⟨outbox, first, rfl⟩,
      last, second, rfl⟩
    have same := Except.ok.inj returned
    subst same
    refine ⟨(insert_isSome_iff _ _ _).mp ⟨runs, run⟩,
      (insert_isSome_iff _ _ _).mp ⟨workUnits, unit⟩,
      (insert_isSome_iff _ _ _).mp ⟨details, described⟩, ?_⟩
    exact (Outbox.enqueueAll_some_iff host.db.eventOutbox
      [(runEvent draws workUnit phase, draws.utcText 0),
        (workUnitEvent draws workUnit, draws.utcText 1)]).mp
      ⟨last, (Scheduler.enqueueAll_pair _ _ _ _).mp ⟨outbox, first, second⟩⟩
  · intro storable
    obtain ⟨runs, run⟩ := (insert_isSome_iff host.runs workUnit.runId
      ⟨"submitted", .obj (runBody workUnit phase), workUnit.createdAt, workUnit.createdAt⟩).mpr
        storable.run
    obtain ⟨workUnits, unit⟩ := (insert_isSome_iff host.db.workUnits workUnit.workUnitId
      ⟨workUnit.status, workUnit.createdAt⟩).mpr storable.unit
    obtain ⟨details, described⟩ := (insert_isSome_iff host.workUnitDetails workUnit.workUnitId
      (workUnitDetails workUnit)).mpr storable.details
    obtain ⟨last, enqueued⟩ := (Outbox.enqueueAll_some_iff host.db.eventOutbox
      [(runEvent draws workUnit phase, draws.utcText 0),
        (workUnitEvent draws workUnit, draws.utcText 1)]).mpr storable.events
    obtain ⟨outbox, first, second⟩ := (Scheduler.enqueueAll_pair _ _ _ _).mpr enqueued
    have started : (runs.find? workUnit.runId).isSome = true := by
      rw [Store.Table.find?_insert _ _ _ _ run, if_pos rfl]
      rfl
    exact ⟨(), _, (), _, ⟨runs, ⟨run, trivial⟩, rfl⟩, (), _,
      ⟨workUnits, ⟨unit, started⟩, details, ⟨described, trivial⟩, rfl⟩, (), _, ⟨outbox, first, rfl⟩,
      last, second, rfl⟩

/-- The transaction of a work unit files it and assigns nothing. -/
theorem persistRunAndWorkUnit_files (draws : Draws) (workUnit : WorkUnit) (phase : String)
    (before after : HostPlane) (value : Unit)
    (stored : (persistRunAndWorkUnitWrites draws workUnit phase).run before = .ok (value, after)) :
    after.db.workUnits.find? workUnit.workUnitId = some ⟨workUnit.status, workUnit.createdAt⟩ ∧
      after.db.assignments = before.db.assignments := by
  obtain ⟨runs, workUnits, details, outbox, inserted, -, rfl⟩ :=
    persistRunAndWorkUnitWrites_ok draws workUnit phase before after value stored
  refine ⟨?_, rfl⟩
  change workUnits.find? workUnit.workUnitId = _
  rw [Store.Table.find?_insert _ _ _ _ inserted, if_pos rfl]

/-! ## What comes after it -/

/-- The work units and the assignments are as they were. -/
structure Untouched (before after : HostPlane) : Prop where
  workUnits : after.db.workUnits = before.db.workUnits
  assignments : after.db.assignments = before.db.assignments

/-- Nothing has happened yet. -/
theorem Untouched.refl (host : HostPlane) : Untouched host host := ⟨rfl, rfl⟩

/-- What was left alone in two stages. -/
theorem Untouched.trans {first second third : HostPlane} (earlier : Untouched first second)
    (later : Untouched second third) : Untouched first third :=
  ⟨later.workUnits.trans earlier.workUnits, later.assignments.trans earlier.assignments⟩

/-- A client leaves the work units and the assignments alone where it raises. -/
def LeavesOnRaise {α : Type} (client : Store.Client HostPlane Raised α) : Prop :=
  ∀ host, client.Ensures host (fun result left => ∀ error, result = .error error →
    Untouched host left)

/-- A client leaves the work units and the assignments alone. -/
def Leaves {α : Type} (client : Store.Client HostPlane Raised α) : Prop :=
  ∀ host, client.Ensures host (fun _ left => Untouched host left)

/-- A client that leaves the tables alone may come before one that does so where it raises. -/
theorem Leaves.bind {α β : Type} {client : Store.Client HostPlane Raised α}
    {rest : α → Store.Client HostPlane Raised β} (leaves : Leaves client)
    (later : ∀ value, LeavesOnRaise (rest value)) : LeavesOnRaise (client >>= rest) := by
  intro host
  apply Store.Client.Ensures.bind
  refine (leaves host).mono ?_
  intro result between untouched
  cases result with
  | error error => exact fun _ _ => untouched
  | ok value =>
    refine (later value between).mono ?_
    intro result left kept error raised
    exact untouched.trans (kept error raised)

/-- Clients that leave the tables alone do so one after the other. -/
theorem Leaves.followed {α β : Type} {client : Store.Client HostPlane Raised α}
    {rest : α → Store.Client HostPlane Raised β} (leaves : Leaves client)
    (later : ∀ value, Leaves (rest value)) : Leaves (client >>= rest) := by
  intro host
  apply Store.Client.Ensures.bind
  refine (leaves host).mono ?_
  intro result between untouched
  cases result with
  | error error => exact untouched
  | ok value => exact (later value between).mono (fun _ _ kept => untouched.trans kept)

/-- A computed value leaves the tables alone. -/
theorem leaves_ofExcept {α : Type} (computed : Except Raised α) : Leaves (.ofExcept computed) :=
  fun host => Store.Client.ensures_ofExcept computed (.refl host)

/-- A read leaves the tables alone. -/
theorem leaves_fetch {α : Type} (read : HostPlane → Except Raised α) : Leaves (.fetch read) :=
  fun host => Store.Client.ensures_fetch read (.refl host)

/-- A transaction leaves the tables alone if its block does. -/
theorem leaves_transaction {α : Type} (block : Store.Block HostPlane Raised α)
    (kept : ∀ before value after, block.run before = .ok (value, after) → Untouched before after) :
    Leaves (.transaction Db.nestedTransaction block) :=
  fun host => Store.Client.ensures_transaction _ block (kept host) (fun _ _ => .refl host)

/-- Storing a plan leaves the work units and the assignments alone. -/
theorem persistRoutePlan_leaves (draws : Draws) (routePlan : RoutePlan) :
    Leaves (persistRoutePlan draws routePlan) := by
  apply leaves_transaction
  intro before value after stored
  obtain ⟨keys, outbox, rfl⟩ := persistRoutePlanWrites_ok draws routePlan before after value stored
  exact ⟨rfl, rfl⟩

/-- Storing a decision leaves the work units and the assignments alone. -/
theorem persistPolicyDecision_leaves (draws : Draws) (decision : PolicyDecision) :
    Leaves (persistPolicyDecision draws decision) := by
  apply leaves_transaction
  intro before value after stored
  obtain ⟨keys, outbox, rfl⟩ :=
    persistPolicyDecisionWrites_ok draws decision before after value stored
  exact ⟨rfl, rfl⟩

/-- Creating an attempt leaves the work units and the assignments alone. -/
theorem createAttempt_leaves (draws : Draws) (workUnitId routePlanId policyDecisionId : String)
    (status : ExecutionAttemptStatus) (eventType : String) :
    Leaves (onDb (Scheduler.createAttempt draws workUnitId routePlanId policyDecisionId status
      eventType)) := by
  intro host
  apply Store.Client.ensures_on HostPlane.dbPart
  apply Store.Client.Ensures.bind
  apply Store.Client.ensures_fetch
  apply Store.Client.ensures_transaction
  · intro created after stored
    obtain ⟨-, inserted⟩ := (Scheduler.createAttemptWrites_ok_iff _ _ _ _ _ _ _ _ _ _).mp stored
    cases inserted
    exact ⟨rfl, rfl⟩
  · intro error raised
    exact .refl host

/-- Creating an assignment leaves the work units and the assignments alone where it raises. -/
theorem createAssignment_leavesOnRaise (draws : Draws) (request : Scheduler.AssignmentRequest) :
    LeavesOnRaise (onDb (Scheduler.createAssignment draws request)) := by
  intro host
  apply Store.Client.ensures_on HostPlane.dbPart
  apply Store.Client.Ensures.bind
  apply Store.Client.ensures_fetch
  cases read : Scheduler.attempt request.attemptId (HostPlane.dbPart.read host) with
  | error error => exact fun _ _ => .refl host
  | ok row =>
    apply Store.Client.ensures_transaction
    · intro created after _ error raised
      cases raised
    · intro error _ _ _
      exact .refl host

/-- Putting a route to the policy leaves the work units and the assignments alone. -/
theorem evaluateVs0Policy_leaves (platform : HostPlatform) (config : LoadedConfig)
    (workUnit : WorkUnit) (routePlan : RoutePlan) (candidate : RouteCandidate) (decidedAt : String) :
    Leaves (evaluateVs0Policy platform config workUnit routePlan candidate decidedAt) := by
  refine (leaves_ofExcept _).followed fun backend => ?_
  refine (leaves_ofExcept _).followed fun workerId => ?_
  refine (leaves_fetch _).followed fun worker => ?_
  exact leaves_ofExcept (.ok _)

/-- What comes after the work unit is stored: it is routed, put to the policy, and scheduled. -/
def routedSubmission (platform : HostPlatform) (config : LoadedConfig)
    (router : Except Raised RouterService) (workUnit : WorkUnit) (plannedAt : String)
    (draws : SubmissionDraws) :
    Store.Client HostPlane Raised SubmittedReply := do
  let routePlan ← .ofExcept (plannedRoute router workUnit plannedAt)
  persistRoutePlan draws.plan routePlan
  let candidate ← .ofExcept (selectedCandidate routePlan)
  let decision ← evaluateVs0Policy platform config workUnit routePlan candidate draws.decidedAt
  persistPolicyDecision draws.decision decision
  .ofExcept (Store.ensure (decision.decision = .approved)
    (.valueError (workUnit.taskType ++ " WorkUnit denied by policy")))
  schedule draws workUnit routePlan candidate decision

/-- Scheduling leaves the work units and the assignments alone where it raises. -/
theorem schedule_leavesOnRaise (draws : SubmissionDraws) (workUnit : WorkUnit)
    (routePlan : RoutePlan) (candidate : RouteCandidate) (decision : PolicyDecision) :
    LeavesOnRaise (schedule draws workUnit routePlan candidate decision) := by
  refine (leaves_ofExcept _).bind fun workerId => ?_
  refine (createAttempt_leaves _ _ _ _ _ _).bind fun attemptId => ?_
  intro host
  apply Store.Client.Ensures.bind
  refine (createAssignment_leavesOnRaise _ _ host).mono ?_
  intro result left kept
  cases result with
  | error error => exact fun _ _ => kept error rfl
  | ok assignmentId => exact Store.Client.ensures_pure _ (fun _ raised => by cases raised)

/-- Whatever raises after a work unit is stored leaves the work units and the assignments alone. -/
theorem routedSubmission_leavesOnRaise (platform : HostPlatform) (config : LoadedConfig)
    (router : Except Raised RouterService) (workUnit : WorkUnit) (plannedAt : String)
    (draws : SubmissionDraws) :
    LeavesOnRaise (routedSubmission platform config router workUnit plannedAt draws) := by
  refine (leaves_ofExcept _).bind fun routePlan => ?_
  refine (persistRoutePlan_leaves _ _).bind fun _ => ?_
  refine (leaves_ofExcept _).bind fun candidate => ?_
  refine (evaluateVs0Policy_leaves _ _ _ _ _ _).bind fun decision => ?_
  refine (persistPolicyDecision_leaves _ _).bind fun _ => ?_
  refine (leaves_ofExcept _).bind fun _ => ?_
  exact schedule_leavesOnRaise draws workUnit routePlan candidate decision

/-! ## Submissions that raise -/

/-- A submission that raises leaves everything as it is where its work unit is not accepted or
cannot be stored, and otherwise an orphan. -/
theorem submitDemoWorkUnit_raised (platform : HostPlatform) (config : LoadedConfig)
    (router : Except Raised RouterService) (submission : DemoSubmission) (stamp : SubmissionStamp)
    (draws : SubmissionDraws) (host : HostPlane) :
    (submitDemoWorkUnit platform config router submission stamp draws).Ensures host
      (fun result left => ∀ error, result = .error error →
        (¬ (Accepted submission stamp ∧
          Storable draws.run (demoWorkUnit submission stamp) submission.task.phase host) ∧
            left = host) ∨
        (Accepted submission stamp ∧
          Storable draws.run (demoWorkUnit submission stamp) submission.task.phase host ∧
            left.db.workUnits.find? (demoWorkUnit submission stamp).workUnitId =
              some ⟨.submitted, stamp.now⟩ ∧
            left.db.assignments = host.db.assignments)) := by
  apply Store.Client.Ensures.bind
  apply Store.Client.ensures_ofExcept
  cases accepted : BaseModel.rejectForbiddenKeys
      (.obj (demoWorkUnit submission stamp).modelDump) with
  | error error =>
    intro _ _
    refine .inl ⟨?_, rfl⟩
    rintro ⟨accepts, -⟩
    cases accepted.symm.trans accepts
  | ok _ =>
    apply Store.Client.Ensures.bind
    apply Store.Client.ensures_transaction
    · intro value stored committed
      obtain ⟨filed, assigned⟩ := persistRunAndWorkUnit_files _ _ _ _ _ _ committed
      have storable := (persistRunAndWorkUnit_ok_iff draws.run (demoWorkUnit submission stamp)
        submission.task.phase host).mp ⟨value, stored, committed⟩
      refine (routedSubmission_leavesOnRaise platform config router (demoWorkUnit submission stamp)
        stamp.plannedAt draws stored).mono ?_
      intro result left kept error raised
      obtain ⟨workUnits, assignments⟩ := kept error raised
      exact .inr ⟨accepted, storable, by rw [workUnits, filed]; rfl, assignments.trans assigned⟩
    · intro error rolledBack _ _
      refine .inl ⟨?_, rfl⟩
      rintro ⟨-, storable⟩
      obtain ⟨value, after, committed⟩ := (persistRunAndWorkUnit_ok_iff draws.run
        (demoWorkUnit submission stamp) submission.task.phase host).mpr storable
      cases rolledBack.symm.trans committed

/-- A submission that raises leaves no orphan exactly if its work unit is not accepted or cannot be
stored. -/
theorem no_orphan_iff (platform : HostPlatform) (config : LoadedConfig)
    (router : Except Raised RouterService) (submission : DemoSubmission) (stamp : SubmissionStamp)
    (draws : SubmissionDraws) (host left : HostPlane) (wellFormed : WellFormed host.db) (error : Raised)
    (raised : (submitDemoWorkUnit platform config router submission stamp draws).run host =
      (.error error, left)) :
    NoOrphan host.db left.db ↔ ¬ (Accepted submission stamp ∧
      Storable draws.run (demoWorkUnit submission stamp) submission.task.phase host) := by
  have ends := (submitDemoWorkUnit_raised platform config router submission stamp draws host).run
  rw [raised] at ends
  rcases ends error rfl with ⟨refused, rfl⟩ | ⟨accepted, storable, filed, assigned⟩
  · refine ⟨fun _ => refused, fun _ workUnitId row found absent _ => ?_⟩
    rw [absent] at found
    cases found
  · constructor
    · intro adopted
      obtain ⟨assignmentId, assignment, found, named⟩ :=
        adopted _ _ filed storable.unit rfl
      rw [assigned] at found
      obtain ⟨attempt, read, same⟩ := wellFormed.assignments assignmentId assignment found
      have present := wellFormed.attempts _ attempt read
      rw [same, named, storable.unit] at present
      cases present
    · exact fun refused => absurd ⟨accepted, storable⟩ refused

end Host

namespace Orphans

open Host
open Rescoring (plainRuntime localTool)

section Scenario

/-- The configuration of one local script for one worker. -/
def scriptConfig : LoadedConfig where
  backends := [{ localTool "b1" ["dedup"] with backendClass := .localScript }]
  workerManifests :=
    [{ workerId := "w", backendIds := ["b1"], backendClasses := [.localScript] }]
  allowedBackendIds := ["b1"]
  allowedBackendClasses := ["local_script"]

/-- The router that sends duplicates to the script. -/
def scriptRouter : RouterService where
  runtime := plainRuntime
  arithmetic := .double
  routebook :=
    { taskTypes := [⟨"dedup", "L1"⟩]
      taskLevels := [("L1", {})]
      candidateRules := [{ ruleId := "r1", taskType := "dedup", backendId := some "b1" }]
      verifierMapping := [("dedup", "dedup_v0")] }
  backendResolver := .fromConfig scriptConfig
  routebookV1 := none
  pricing := []

/-- Libraries with a constant digest and no manifests to read. -/
def scriptPlatform : HostPlatform where
  runtime := plainRuntime
  sha256 := fun _ => "digest"
  workerManifest := fun _ => .error .validationError

/-- A control plane with nothing stored. -/
def emptyHost : HostPlane where
  plane :=
    { db :=
        { workUnits := .empty, routePlans := [], policyDecisions := [], capacityNodes := .empty,
          executionAttempts := .empty, assignments := .empty, resultEnvelopes := .empty,
          resultQuarantine := .empty, eventOutbox := .empty }
      workerManifests := .empty
      workerHealthSnapshots := .empty
      routePlans := .empty }
  runs := .empty
  workUnitDetails := .empty
  policyDecisions := .empty

/-- What a submission draws. -/
def stamp : SubmissionStamp := ⟨"1", "1", "2024-01-01T00:00:00Z", "2024-01-01T00:00:01Z"⟩

/-- What its transactions draw. -/
def draws : SubmissionDraws :=
  ⟨Scenario.draws 1, Scenario.draws 2, "2024-01-01T00:00:02Z", Scenario.draws 3, Scenario.draws 4,
    Scenario.draws 5⟩

/-- A submission of items that may be duplicates, with what it leaves. -/
def submitted (items : List Json) : Except Raised Host.SubmittedReply × HostPlane :=
  (Host.submitDemoWorkUnit scriptPlatform scriptConfig (.ok scriptRouter) (.dedup items) stamp
    draws).run emptyHost

/-- References resolve where nothing is stored. -/
theorem emptyHost_wellFormed : WellFormed emptyHost.db :=
  Fresh.wellFormed ⟨rfl, rfl, rfl, rfl⟩

end Scenario

/-- A submission with a seller among its items is refused and leaves no orphan. -/
theorem refused_without_orphan : ∃ error left,
    submitted [.obj [("seller", .null)]] = (.error error, left) ∧
      Host.NoOrphan emptyHost.db left.db := by
  have raises : (submitted [.obj [("seller", .null)]]).1.isOk = false := by decide +kernel
  cases outcome : submitted [.obj [("seller", .null)]] with
  | mk result left =>
    cases result with
    | ok reply => simp [outcome, Except.isOk, Except.toBool] at raises
    | error error =>
      refine ⟨error, left, rfl, (Host.no_orphan_iff scriptPlatform scriptConfig
        (.ok scriptRouter) (.dedup [.obj [("seller", .null)]]) stamp draws emptyHost left emptyHost_wellFormed error
        outcome).mpr ?_⟩
      rintro ⟨accepted, -⟩
      rw [Accepted, BaseModel.rejectForbiddenKeys, if_pos (by decide +kernel)] at accepted
      cases accepted

/-- A submission whose items name a broken amount of money is stored, denied by the policy, and
left submitted without an assignment. -/
theorem denied_orphan :
    ¬ ∀ (platform : HostPlatform) (config : LoadedConfig) (router : Except Raised RouterService)
        (submission : Host.DemoSubmission) (stamp : Host.SubmissionStamp)
        (draws : Host.SubmissionDraws) (host left : HostPlane) (error : Raised),
        WellFormed host.db →
        (Host.submitDemoWorkUnit platform config router submission stamp draws).run host =
          (.error error, left) →
        Host.NoOrphan host.db left.db := by
  intro adopted
  have denied : (submitted [.obj [("price_micros", .float "0.5")]]).1.isOk = false ∧
      ((submitted [.obj [("price_micros", .float "0.5")]]).2.db.workUnits.find?
        "wu_vs1a_1").map WorkUnitRow.status = some .submitted ∧
      (submitted [.obj [("price_micros", .float "0.5")]]).2.db.assignments.entries.isEmpty = true := by
    decide +kernel
  cases outcome : submitted [.obj [("price_micros", .float "0.5")]] with
  | mk result left =>
    rw [outcome] at denied
    obtain ⟨raises, stored, unassigned⟩ := denied
    cases result with
    | ok reply => cases raises
    | error error =>
      obtain ⟨row, found, status⟩ := Option.map_eq_some_iff.mp stored
      obtain ⟨assignmentId, assignment, assigned, -⟩ := adopted scriptPlatform scriptConfig
        (.ok scriptRouter) (.dedup [.obj [("price_micros", .float "0.5")]]) stamp draws emptyHost left
        error emptyHost_wellFormed outcome "wu_vs1a_1" row found rfl status
      rw [Store.Table.find?_of_entries_nil _ (List.isEmpty_iff.mp unassigned)] at assigned
      cases assigned

end Orphans

end TokenBank
