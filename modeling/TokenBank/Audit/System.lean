import TokenBank.Audit.Receipts
import TokenBank.Host.Effects
import TokenBank.Store.Abiding

/-!
# The ledger as a system

Any number of calls are in progress at once: calls that store a snapshot, record usage or ask
for a receipt, and others of which only is known that they leave the tables of the ledger
alone. A call that records usage or gives a receipt reads what it is about in several queries,
between which other calls write; so an entry and a receipt say of each document that it was
stored at some time of the run.
-/

namespace TokenBank

namespace Audit

open Ledger

/-- A call: one of the ledger, or any client of the other tables. -/
inductive LedgerOp : Type
  | other (client : Store.Client ResultsPlane Raised Unit)
  | upsertSnapshot (draws : Draws) (snapshot : AccountSnapshot)
  | recordUsage (draws : Draws) (workUnitId : String) (accountSnapshotId : Option String)
      (routebook : Except Raised Routebook)
  | createReceipt (draws : Draws) (request : ReceiptRequest)

/-- What a call returns. -/
inductive LedgerReply : Type
  | done
  | usage (answer : UsageAnswer)
  | receipt (answer : ReceiptAnswer)

/-- The program of a call. -/
def LedgerOp.program (platform : ResultsPlatform) :
    LedgerOp → Store.Client LedgerPlane Raised LedgerReply
  | .other client => (client >>= fun _ => pure .done).on LedgerPlane.resultsPart.read
      LedgerPlane.resultsPart.replace
  | .upsertSnapshot draws snapshot => do
    Ledger.upsertSnapshot platform draws snapshot
    return .done
  | .recordUsage draws workUnitId accountSnapshotId routebook => do
    let answer ← recordForWorkUnit platform draws workUnitId accountSnapshotId routebook
    return .usage answer
  | .createReceipt draws request => do
    let answer ← createForWorkUnit platform draws request
    return .receipt answer

/-- The calls of the ledger in progress. -/
abbrev LedgerPool := Store.Pool LedgerOp LedgerPlane Raised LedgerReply

/-- The calls after one move. -/
def move (platform : ResultsPlatform) (pool : LedgerPool) (move : Store.Move LedgerOp) :
    LedgerPool :=
  pool.move (LedgerOp.program platform) move

/-- The calls after some moves from idle tables. -/
def reached (platform : ResultsPlatform) (plane : LedgerPlane)
    (moves : List (Store.Move LedgerOp)) : LedgerPool :=
  Store.run (move platform) (Store.Pool.idle plane) moves

/-- The tables were passed by a run. -/
def Passed (platform : ResultsPlatform) (plane : LedgerPlane)
    (moves : List (Store.Move LedgerOp)) (passed : LedgerPlane) : Prop :=
  ∃ front, front <+: moves ∧ passed = (reached platform plane front).store

/-! ## What entries and receipts come from -/

section Provenance

variable (platform : ResultsPlatform) (passed : LedgerPlane → Prop)

/-- The documents of an entry were stored, each at some time. -/
structure CompletedFrom (workUnitId : String) (context : CompletedContext) : Prop where
  workUnit : ∃ plane row, passed plane ∧
    plane.results.host.workUnitDetails.find? workUnitId = some row ∧
    loads row.body = .ok context.workUnitBody
  result : ∃ plane row, passed plane ∧
    latestSucceeded plane workUnitId = some (context.resultEnvelopeId, row) ∧
    loads row.body = .ok context.resultBody
  route : ∃ plane row, passed plane ∧
    latestRoutePlan plane workUnitId = some (context.routePlanId, row) ∧
    loads row.body = .ok context.routeBody
  report : ∃ plane, passed plane ∧
    (latestReport plane context.resultEnvelopeId).map Prod.fst = context.verifierReportId ∧
    reportBody (latestReport plane context.resultEnvelopeId) = .ok context.verifierBody

/-- The documents of a receipt were stored, each at some time, and the report recommended to
accept the result. -/
structure AcceptedFrom (workUnitId : String) (context : AcceptedContext) : Prop where
  workUnit : ∃ plane row, passed plane ∧
    plane.results.host.workUnitDetails.find? workUnitId = some row ∧
    loads row.body = .ok context.workUnitBody
  result : ∃ plane row later assignment, passed plane ∧
    latestSucceeded plane workUnitId = some (context.resultEnvelopeId, row) ∧
    loads row.body = .ok context.resultBody ∧ passed later ∧
    later.db.assignments.find? row.assignmentId = some assignment ∧
    loads assignment.body = .ok context.assignmentBody
  report : ∃ plane key row members, passed plane ∧
    latestReport plane context.resultEnvelopeId = some (key, row) ∧
    loads row.body = .ok context.verifierBody ∧ context.verifierBody = .obj members ∧
    requireAccepted (Json.get members "recommendation") = .ok ()
  route : ∃ plane key row, passed plane ∧
    latestRoutePlan plane workUnitId = some (key, row) ∧ loads row.body = .ok context.routeBody

/-- An entry was built of stored documents. -/
def Recorded (entry : UsageLedgerEntry) : Prop :=
  ∃ now workUnitId context accountSnapshotId routebook, CompletedFrom passed workUnitId context ∧
    buildUsageEntry platform now context accountSnapshotId routebook = .ok entry

/-- A document is that of an entry, as it was written or as it is read back. -/
def DocumentOf (entry : UsageLedgerEntry) (document : Json) : Prop :=
  document = .obj entry.modelDump ∨ loads (.obj entry.modelDump) = .ok document

/-- A row is what recording two entries under its key left, the first and the last one. -/
def Booked (key : String) (row : UsageLedgerRow) : Prop :=
  ∃ first last, Recorded platform passed first ∧ Recorded platform passed last ∧
    first.usageLedgerEntryId = key ∧ last.usageLedgerEntryId = key ∧
    row = rewriteUsage last (usageRow first)

/-- The members of a receipt were put together from stored documents, an entry, and the hash
of a stored receipt. -/
structure Drafted (context : AcceptedContext) (usage : Json) (previous : Option String) :
    Prop where
  accepted : ∃ workUnitId, AcceptedFrom passed workUnitId context
  entry : ∃ entry, Recorded platform passed entry ∧ DocumentOf entry usage
  previous : ∃ plane, passed plane ∧ previous = previousReceiptHash plane context.resultEnvelopeId

/-- A row is that of a receipt built of stored documents. -/
def Attested (key : String) (row : AuditReceiptRow) : Prop :=
  ∃ now context usage previous routebook receipt, Drafted platform passed context usage previous ∧
    buildReceipt platform now context usage previous routebook = .ok receipt ∧
    key = receipt.auditReceiptId ∧ row = receiptRow receipt

end Provenance

/-! ## What transactions write -/

/-- Writing an entry files or rewrites its row. -/
theorem putUsageEntry_ok (entry : UsageLedgerEntry) (before after : LedgerPlane)
    (written : putUsageEntry entry before = .ok after) :
    after = { before with
      usageLedgerEntries := before.usageLedgerEntries.upsert entry.usageLedgerEntryId
        (usageRow entry) (rewriteUsage entry) } := by
  unfold putUsageEntry at written
  dsimp only at written
  split at written
  · cases written
  · cases found : before.usageLedgerEntries.find? entry.usageLedgerEntryId with
    | some row =>
      simp only [found, Option.isSome_some, if_true] at written
      split at written
      · rw [Store.Table.upsert_present _ _ _ _ (by simp [found])]
        exact (Except.ok.inj written).symm
      · cases written
    | none =>
      simp only [found, Option.isSome_none, Bool.false_eq_true, if_false] at written
      obtain ⟨entries, inserted, rfl⟩ := (Store.map_ok_iff _ _ _).mp written
      have stored := ((Db.inserting_ok_iff _ _ _ _ _ _).mp inserted).1
      have absent := Store.Table.upsert_absent before.usageLedgerEntries
        entry.usageLedgerEntryId (usageRow entry) (rewriteUsage entry) found
      rw [Option.some.inj (stored.symm.trans absent)]

/-- The transaction of an entry writes its row, and beside it only outside the ledger. -/
theorem upsertEntryWrites_ok (draws : Draws) (entry : UsageLedgerEntry)
    (before after : LedgerPlane) (value : Unit)
    (stored : (upsertEntryWrites draws entry).run before = .ok (value, after)) :
    ∃ outbox, after = { before with
      results := before.results.withEvents outbox
      usageLedgerEntries := before.usageLedgerEntries.upsert entry.usageLedgerEntryId
        (usageRow entry) (rewriteUsage entry) } := by
  simp only [upsertEntryWrites, Store.Block.run_bind_ok, Store.Block.run_put_ok] at stored
  obtain ⟨-, written, put, enqueued⟩ := stored
  have same_written := putUsageEntry_ok entry before written put
  subst same_written
  obtain ⟨outbox, rfl⟩ := Host.enqueueIn_ok LedgerPlane.dbPart _ _ _ _ _ enqueued
  exact ⟨outbox, rfl⟩

/-- The transaction of a snapshot writes its row, and beside it only outside the ledger. -/
theorem upsertSnapshotWrites_ok (platform : ResultsPlatform) (draws : Draws)
    (snapshot : AccountSnapshot) (before after : LedgerPlane) (value : Unit)
    (stored : (upsertSnapshotWrites platform draws snapshot).run before = .ok (value, after)) :
    ∃ results, after =
      { putAccountSnapshot platform snapshot before with results := results } := by
  simp only [upsertSnapshotWrites, Store.Block.run_bind_ok, Store.Block.run_put_ok] at stored
  obtain ⟨-, written, put, enqueued⟩ := stored
  obtain rfl := Except.ok.inj put
  obtain ⟨outbox, rfl⟩ := Host.enqueueIn_ok LedgerPlane.dbPart _ _ _ _ _ enqueued
  exact ⟨_, rfl⟩

/-- Inserting a receipt files its row under a new id and with a new hash. -/
theorem putReceipt_ok (receipt : AuditReceipt) (before after : LedgerPlane)
    (written : putReceipt receipt before = .ok after) :
    ∃ receipts, before.auditReceipts.insert receipt.auditReceiptId (receiptRow receipt) =
        some receipts ∧
      receiptHashUsed before receipt.receiptHash = false ∧
      after = { before with auditReceipts := receipts } := by
  unfold putReceipt at written
  split at written
  · cases written
  · split at written
    · cases written
    · rename_i unused
      obtain ⟨receipts, inserted, rfl⟩ := (Store.map_ok_iff _ _ _).mp written
      exact ⟨receipts, ((Db.inserting_ok_iff _ _ _ _ _ _).mp inserted).1, by simpa using unused,
        rfl⟩

/-- The transaction of a receipt files its row, and writes beside it only outside the ledger. -/
theorem insertReceiptWrites_ok (draws : Draws) (receipt : AuditReceipt)
    (before after : LedgerPlane) (value : Unit)
    (stored : (insertReceiptWrites draws receipt).run before = .ok (value, after)) :
    ∃ receipts outbox,
      before.auditReceipts.insert receipt.auditReceiptId (receiptRow receipt) = some receipts ∧
      receiptHashUsed before receipt.receiptHash = false ∧
      after = { before with
        results := before.results.withEvents outbox
        auditReceipts := receipts } := by
  simp only [insertReceiptWrites, Store.Block.run_bind_ok, Store.Block.run_put_ok] at stored
  obtain ⟨-, written, put, enqueued⟩ := stored
  obtain ⟨receipts, inserted, unused, rfl⟩ := putReceipt_ok receipt before written put
  obtain ⟨outbox, rfl⟩ := Host.enqueueIn_ok LedgerPlane.dbPart _ _ _ _ _ enqueued
  exact ⟨receipts, outbox, inserted, unused, rfl⟩

end Audit

end TokenBank
