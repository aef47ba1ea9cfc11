import TokenBank.Scheduler.Lease

/-!
# The work unit's status and the rows attempts and assignments write

Only named writers may change the status of a work unit. The other updates here
are the single-row statements the scheduler's transactions are built from; each
of them names one primary key.
-/

namespace TokenBank

namespace Lifecycle

/-- Who may write the status of a work unit. -/
def workUnitStatusWriters : List String := ["scheduler", "verifier_consumer"]

/-- Write the status of one work unit. -/
def setWorkUnitStatus (workUnitId : String) (status : WorkUnitStatus) (updatedAt : String)
    (db : Db) : Db :=
  { db with
    workUnits := db.workUnits.modify workUnitId
      (fun row => { row with status := status, updatedAt := updatedAt }) }

/-- The event of a status change. -/
def statusEvent (draws : Draws) (position : Nat) (workUnitId : String) (status : WorkUnitStatus)
    (actor : String) (eventType : Option String) : OutboxEventInput :=
  draws.event position "tokenbank.scheduler.lifecycle"
    (if Lease.given eventType then eventType.getD "" else "work_unit." ++ status.text)
    ("work_units/" ++ workUnitId) (some workUnitId) none none
    [("work_unit_id", .str workUnitId), ("status", .str status.text), ("actor", .str actor)]

/-- Change the status of a work unit and enqueue the event of the change. Clock
readings and identifiers are drawn from the given positions on. -/
def updateWorkUnitStatus (draws : Draws) (clock uuid : Nat) (workUnitId : String)
    (status : WorkUnitStatus) (actor : String) (eventType : Option String) :
    Store.Block Db Raised Unit := do
  if actor ∉ workUnitStatusWriters then
    .raise (.permissionError "worker/backend/host cannot update WorkUnit directly")
  else
    let _ ← .fetch (fun db => match db.workUnits.find? workUnitId with
      | some row => .ok row
      | none => .error (.keyError ("work_unit not found: " ++ workUnitId)))
    .put (fun db => .ok (setWorkUnitStatus workUnitId status (draws.utcText clock) db))
    let _ ← Outbox.enqueueEvent (statusEvent draws uuid workUnitId status actor eventType)
      (draws.utcText (clock + 1))
    return ()

/-- A status change by an allowed writer succeeds exactly when the work unit
exists and the event's id is new. -/
theorem updateWorkUnitStatus_ok_iff (draws : Draws) (clock uuid : Nat) (workUnitId : String)
    (status : WorkUnitStatus) (actor : String) (eventType : Option String) (value : Unit)
    (before after : Db) (allowed : actor ∈ workUnitStatusWriters) :
    (updateWorkUnitStatus draws clock uuid workUnitId status actor eventType).run before =
        .ok (value, after) ↔
      before.workUnits.find? workUnitId ≠ none ∧ ∃ outbox,
        Outbox.enqueueAll before.eventOutbox
          [(statusEvent draws uuid workUnitId status actor eventType, draws.utcText (clock + 1))] =
            some outbox ∧
        after = { setWorkUnitStatus workUnitId status (draws.utcText clock) before with
          eventOutbox := outbox } := by
  unfold updateWorkUnitStatus
  rw [if_neg (by simpa using allowed)]
  cases found : before.workUnits.find? workUnitId with
  | none => simp [found]
  | some row =>
    simp only [Store.Block.run_bind_ok, Store.Block.run_fetch_ok, Store.Block.run_put_ok,
      Outbox.enqueueEvent_ok_iff, Store.Block.run_pure_ok, found, Except.ok.injEq]
    constructor
    · rintro ⟨_, between, ⟨rfl, rfl⟩, _, changed, rfl, _, final, ⟨-, outbox, appended, rfl⟩, -, rfl⟩
      exact ⟨by simp, outbox, appended, rfl⟩
    · rintro ⟨-, outbox, appended, rfl⟩
      exact ⟨row, before, ⟨rfl, rfl⟩, (), _, rfl, _, _, ⟨rfl, outbox, appended, rfl⟩, trivial, rfl⟩

end Lifecycle

end TokenBank
