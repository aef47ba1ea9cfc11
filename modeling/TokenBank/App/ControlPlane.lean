import TokenBank.Scheduler.System

/-!
# The control plane around the scheduler

The tables that the app's other handlers write, next to the scheduler's, and the
programs of those handlers: registering a worker and persisting a route plan, each
a single statement followed by a bare commit, and the two methods of the scheduler
that concern a worker rather than an assignment.
-/

namespace TokenBank

/-- A row of `worker_manifests`. -/
structure WorkerManifestRow where
  manifestHash : String
  body : Json
  createdAt : String
  updatedAt : String

/-- A row of `worker_health_snapshots`. -/
structure HealthSnapshotRow where
  workerId : String
  status : String
  body : Json
  capturedAt : String

/-- A row of `route_plans`. -/
structure RoutePlanRow where
  workUnitId : String
  status : String
  body : Json
  createdAt : String

/-- The scheduler's tables and the others. The keys of the route plans are also
among the former, as targets of foreign keys. -/
structure ControlPlane where
  db : Db
  workerManifests : Store.Table String WorkerManifestRow
  workerHealthSnapshots : Store.Table String HealthSnapshotRow
  routePlans : Store.Table String RoutePlanRow

namespace ControlPlane

/-- The control plane with other scheduler tables. -/
def withDb (plane : ControlPlane) (db : Db) : ControlPlane := { plane with db := db }

/-- Write the manifest of a worker, whether it is known or new. -/
def putWorkerManifest (workerId manifestHash : String) (body : Json) (now : String)
    (plane : ControlPlane) : ControlPlane :=
  { plane with
    workerManifests := plane.workerManifests.upsert workerId ⟨manifestHash, body, now, now⟩
      (fun row => { row with manifestHash := manifestHash, body := body, updatedAt := now }) }

/-- Register a worker under a validated manifest. -/
def upsertWorkerManifest (workerId manifestHash : String) (body : Json) (now : String) :
    Store.Client ControlPlane Raised Unit :=
  .implicitly (.put (fun plane => .ok (putWorkerManifest workerId manifestHash body now plane)))

/-- Write a route plan. A new one needs its work unit. -/
def putRoutePlan (routePlanId workUnitId : String) (body : Json) (createdAt : String)
    (plane : ControlPlane) : Except Raised ControlPlane :=
  if (plane.routePlans.find? routePlanId).isSome then
    .ok { plane with
      routePlans := plane.routePlans.modify routePlanId
        (fun row => { row with status := "planned", body := body }) }
  else
    (Db.inserting "route_plans.route_plan_id" (plane.db.workUnits.find? workUnitId).isSome
      plane.routePlans routePlanId ⟨workUnitId, "planned", body, createdAt⟩).map (fun routePlans =>
        { plane with
          routePlans := routePlans
          db := { plane.db with routePlans := plane.db.routePlans ++ [routePlanId] } })

/-- Persist a route plan. -/
def persistRoutePlan (routePlanId workUnitId : String) (body : Json) (createdAt : String) :
    Store.Client ControlPlane Raised Unit :=
  .implicitly (.put (putRoutePlan routePlanId workUnitId body createdAt))

/-- The document of a heartbeat. -/
def heartbeatBody (workerId status : String) : JsonObject :=
  [("worker_id", .str workerId), ("status", .str status)]

/-- The transaction of `recordWorkerHeartbeat`. -/
def recordWorkerHeartbeatWrites (draws : Draws) (workerId status : String) :
    Store.Block ControlPlane Raised Unit := do
  .put (fun plane =>
    (Db.inserting "worker_health_snapshots.snapshot_id"
      (plane.workerManifests.find? workerId).isSome plane.workerHealthSnapshots
      ("whs_" ++ draws.uuid 0)
      ⟨workerId, status, .obj (heartbeatBody workerId status), draws.utcText 0⟩).map
        (fun snapshots => { plane with workerHealthSnapshots := snapshots }))
  let sequence ← .fetch (fun plane => .ok (Outbox.nextSequence plane.db.eventOutbox))
  .put (fun plane =>
    (Outbox.insertPending (draws.event 1 Scheduler.eventSource "worker.heartbeat"
      ("workers/" ++ workerId) none none none (heartbeatBody workerId status)) sequence
      (draws.utcText 1) plane.db).map plane.withDb)

/-- Record the health of a worker. -/
def recordWorkerHeartbeat (draws : Draws) (workerId status : String) :
    Store.Client ControlPlane Raised Unit :=
  .transaction Db.nestedTransaction (recordWorkerHeartbeatWrites draws workerId status)

end ControlPlane

namespace Scheduler

/-- An absent value comes before every text. -/
def earlier : Option String → Option String → Bool
  | none, some _ => true
  | some left, some right => left < right
  | _, none => false

/-- The oldest assignment that waits for a worker. -/
def waitingAssignment (workerId : String) (db : Db) : Option (String × AssignmentRow) :=
  Store.first (fun left right => earlier left.2.assignedAt right.2.assignedAt ||
      (decide (left.2.assignedAt = right.2.assignedAt) &&
        decide (left.2.createdAt < right.2.createdAt)))
    (db.assignments.select (fun _ row =>
      decide (row.workerId = workerId) && decide (row.status = .created)))

/-- Look for an assignment that waits for a worker. -/
def pollNextAssignment (workerId : String) :
    Store.Client Db Raised (Option (String × AssignmentRow)) :=
  .fetch (fun db => .ok (waitingAssignment workerId db))

end Scheduler

namespace Scenario

/-- The small database with its worker and its route plan. -/
def plane : ControlPlane where
  db := db
  workerManifests := ⟨[("wrk_1", ⟨"sha256:manifest", .obj [], "2026-01-01T00:00:00Z",
    "2026-01-01T00:00:00Z"⟩)], by decide⟩
  workerHealthSnapshots := .empty
  routePlans := ⟨[("rp_1", ⟨"wu_1", "planned", .obj [], "2026-01-01T00:00:00Z"⟩)], by decide⟩

end Scenario

end TokenBank
