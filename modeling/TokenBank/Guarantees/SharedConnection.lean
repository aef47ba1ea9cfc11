import TokenBank.Guarantees.Atomicity
import TokenBank.Store.Shared

/-!
# Requests on the app's one connection

The app serves every request from one connection, so the statements of concurrent
requests meet in one transaction. A bare commit at the end of one request makes
permanent what another has written so far inside its explicit transaction, and what
that one does afterwards belongs to a transaction of its own.

No explicit transaction is torn as long as no request commits or rolls back while
another one has written inside its block and is not yet at its own commit.
-/

namespace TokenBank

/-- A request that the app serves. -/
inductive Request : Type
  | method (method : SchedulerMethod)
  | sweepExpiredLeases (draws : Draws)
  | upsertWorkerManifest (workerId manifestHash : String) (body : Json) (now : String)
  | persistRoutePlan (routePlanId workUnitId : String) (body : Json) (createdAt : String)

namespace SharedConnection

/-- The statements of a request. -/
def statements (platform : Platform) : Request → Store.Client ControlPlane Raised Unit
  | .method method => Atomicity.program platform method >>= fun _ => pure ()
  | .sweepExpiredLeases draws =>
    (Scheduler.sweepExpiredLeases draws >>= fun _ => pure ()).on ControlPlane.db ControlPlane.withDb
  | .upsertWorkerManifest workerId manifestHash body now =>
    ControlPlane.upsertWorkerManifest workerId manifestHash body now
  | .persistRoutePlan routePlanId workUnitId body createdAt =>
    ControlPlane.persistRoutePlan routePlanId workUnitId body createdAt

/-- The app with its requests at their start. -/
def serving (platform : Platform) (connection : Store.Client.Connection ControlPlane)
    (requests : List Request) : Store.Shared ControlPlane Raised Unit :=
  .serving connection (requests.map (statements platform))

/-- The app after the requests have executed statements in some order. -/
def served (platform : Platform) (connection : Store.Client.Connection ControlPlane)
    (requests : List Request) (order : List Nat) : Store.Shared ControlPlane Raised Unit :=
  Store.run Store.Shared.step (serving platform connection requests) order

/-- However many requests interleave, and in whatever order, every explicit transaction
is committed completely or not at all at every moment, if no statement of the
interleaving closes a transaction that another request is in the middle of. -/
theorem transactions_whole (platform : Platform)
    (connection : Store.Client.Connection ControlPlane) (requests : List Request)
    (order : List Nat)
    (spared : Store.Along Store.Shared.step Store.Shared.Spares
      (serving platform connection requests) order) :
    ∀ handler ∈ (served platform connection requests order).handlers, handler.Whole :=
  Store.Shared.whole_along connection (requests.map (statements platform)) order spared

/-- A new attempt and a registration that do not overlap, on an idle connection. -/
def apart : List Request :=
  [.method (.operation ⟨Scenario.createAttempt 0, rfl⟩),
    .upsertWorkerManifest "wrk_1" "sha256:other" (.obj []) "2026-01-02T00:00:00Z"]

/-- The registration commits before the attempt writes anything, and the attempt's
event is written with it. -/
theorem transactions_whole_apart :
    (served Scenario.platform ⟨Scenario.plane, none⟩ apart
        [0, 0, 1, 1, 0, 0, 0, 0]).handlers.length = 2 ∧
      ∀ handler ∈ (served Scenario.platform ⟨Scenario.plane, none⟩ apart
        [0, 0, 1, 1, 0, 0, 0, 0]).handlers, handler.Whole :=
  ⟨by decide +kernel, transactions_whole Scenario.platform ⟨Scenario.plane, none⟩ apart
    [0, 0, 1, 1, 0, 0, 0, 0] (by decide +kernel)⟩

/-- The control plane with one assignment that has been accepted. -/
def accepted : ControlPlane :=
  Scenario.plane.withDb ([Scenario.createAttempt 0, Scenario.assignNextWork 1,
    Scenario.accept 2 1 0].foldl (Scheduler.step Scenario.platform) Scenario.plane.db)

/-- A new attempt, and a sweep after the lease of the accepted assignment is over. -/
def overlapping : List Request :=
  [.method (.operation ⟨Scenario.createAttempt 10, rfl⟩),
    .sweepExpiredLeases (Scenario.draws 11)]

/-- The attempt is inserted and its sequence number read; the whole sweep runs and
commits; the event of the attempt is refused and its transaction rolled back. -/
def overlap : List Nat := [0, 0, 0, 0, 1, 1, 1, 1, 1, 0, 0]

/-- The sweep's commit tears the other request's transaction. That request ends with an
exception after a rollback, yet its attempt is permanent, and no event tells of it. -/
theorem overlap_torn :
    ¬ (∀ handler ∈ (served Scenario.platform ⟨accepted, none⟩ overlapping overlap).handlers,
        handler.Whole) ∧
      ((served Scenario.platform ⟨accepted, none⟩ overlapping overlap).handlers.map
        (fun handler => (handler.rest.finished, handler.phase))) =
          [(true, .abandoned), (true, .outside)] ∧
      ((served Scenario.platform ⟨accepted, none⟩ overlapping overlap).connection.committed.db
        |>.executionAttempts.find? (Scenario.attemptId 10)).isSome = true ∧
      ((served Scenario.platform ⟨accepted, none⟩ overlapping overlap).connection.committed.db
        |>.eventOutbox.entries.all (fun entry =>
          decide (entry.2.attemptId ≠ some (Scenario.attemptId 10)))) = true := by
  decide +kernel

end SharedConnection

end TokenBank
