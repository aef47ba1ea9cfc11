import TokenBank.Host.Results

/-!
# Accounts and the tables of the ledger

Next to the tables of the control plane stand three that only the ledger writes: snapshots of
accounts, entries of usage, and audit receipts. A snapshot is stored under its id, and a later
one under the same id replaces all of it but the time it was first stored at.
-/

namespace TokenBank

/-- A row of `account_snapshots`. -/
structure AccountSnapshotRow where
  provider : String
  accountLabel : String
  status : String
  secretRef : Option String
  snapshotHash : String
  body : Json
  createdAt : String
  updatedAt : String

/-- A row of `usage_ledger_entries`. -/
structure UsageLedgerRow where
  workUnitId : String
  runId : String
  routePlanId : String
  resultEnvelopeId : String
  verifierReportId : Option String
  accountSnapshotId : Option String
  usageSource : String
  costSource : String
  billableCostMicros : Nat
  entryHash : String
  body : Json
  createdAt : String

/-- A row of `audit_receipts`. -/
structure AuditReceiptRow where
  workUnitId : String
  runId : String
  routePlanId : String
  resultEnvelopeId : String
  verifierReportId : String
  usageLedgerEntryId : Option String
  receiptHash : String
  previousReceiptHash : Option String
  body : Json
  createdAt : String

/-- The control plane with the tables of the ledger. -/
structure LedgerPlane where
  results : ResultsPlane
  accountSnapshots : Store.Table String AccountSnapshotRow
  usageLedgerEntries : Store.Table String UsageLedgerRow
  auditReceipts : Store.Table String AuditReceiptRow

namespace LedgerPlane

/-- The tables of the control plane are a part. -/
def resultsPart : Store.Part LedgerPlane ResultsPlane where
  read := results
  replace plane results := { plane with results := results }
  read_replace _ _ := rfl
  replace_read _ := rfl
  replace_replace _ _ _ := rfl

/-- The scheduler's tables. -/
def db (plane : LedgerPlane) : Db := plane.results.db

/-- The scheduler's tables are a part. -/
def dbPart : Store.Part LedgerPlane Db where
  read := db
  replace plane db := resultsPart.replace plane (ResultsPlane.dbPart.replace plane.results db)
  read_replace _ _ := rfl
  replace_read _ := rfl
  replace_replace _ _ _ := rfl

end LedgerPlane

namespace Ledger

/-- A stored document as it is read back. -/
def loads (body : Json) : Except Raised Json :=
  match Canonical.jsonLoads (Canonical.canonicalJsonDumps body) with
  | some document => .ok document
  | none => .error (.valueError "Expecting value")

/-- The row of a query that has to find one. -/
def requiredRow {α : Type} (row : Option α) (message : String) : Except Raised α :=
  match row with
  | some row => .ok row
  | none => .error (.keyError message)

/-- A row can only refer to another one that is there. -/
def references {ν : Type} (table : Store.Table String ν) : Option String → Bool
  | none => true
  | some key => (table.find? key).isSome

/-! ## Snapshots of accounts -/

/-- A validated snapshot of an account, with its document. -/
structure AccountSnapshot where
  accountSnapshotId : String
  provider : String
  accountLabel : String
  status : String
  secretRef : Option String
  secretRefStatus : String
  capturedAt : String
  modelDump : JsonObject

/-- The hash of a snapshot. -/
def snapshotHash (platform : ResultsPlatform) (snapshot : AccountSnapshot) : String :=
  Canonical.canonicalJsonHash platform.scheduler.sha256 (.obj snapshot.modelDump)

/-- Write a snapshot, whether there is one under its id or not. -/
def putAccountSnapshot (platform : ResultsPlatform) (snapshot : AccountSnapshot)
    (plane : LedgerPlane) : LedgerPlane :=
  let row : AccountSnapshotRow := ⟨snapshot.provider, snapshot.accountLabel, snapshot.status,
    snapshot.secretRef, snapshotHash platform snapshot, .obj snapshot.modelDump,
    snapshot.capturedAt, snapshot.capturedAt⟩
  { plane with
    accountSnapshots := plane.accountSnapshots.upsert snapshot.accountSnapshotId row
      (fun stored => { row with createdAt := stored.createdAt }) }

/-- The event of a snapshot. -/
def snapshotEvent (platform : ResultsPlatform) (draws : Draws) (snapshot : AccountSnapshot) :
    OutboxEventInput :=
  draws.event 0 "tokenbank.accounts" "account_snapshot.upserted"
    ("account_snapshots/" ++ snapshot.accountSnapshotId) none none none
    [("account_snapshot_id", .str snapshot.accountSnapshotId),
      ("provider", .str snapshot.provider), ("account_label", .str snapshot.accountLabel),
      ("status", .str snapshot.status), ("secret_ref_status", .str snapshot.secretRefStatus),
      ("snapshot_hash", .str (snapshotHash platform snapshot))]

/-- The transaction of `upsertSnapshot`. -/
def upsertSnapshotWrites (platform : ResultsPlatform) (draws : Draws)
    (snapshot : AccountSnapshot) : Store.Block LedgerPlane Raised Unit := do
  .put (fun plane => .ok (putAccountSnapshot platform snapshot plane))
  Host.enqueueIn LedgerPlane.dbPart (snapshotEvent platform draws snapshot) (draws.utcText 0)

/-- Store a snapshot of an account. -/
def upsertSnapshot (platform : ResultsPlatform) (draws : Draws) (snapshot : AccountSnapshot) :
    Store.Client LedgerPlane Raised Unit :=
  .transaction Db.nestedTransaction (upsertSnapshotWrites platform draws snapshot)

end Ledger

end TokenBank
