import TokenBank.Ledger.Usage

/-!
# Audit receipts

A receipt is given for the newest succeeded result of a work unit once its newest report
recommends to accept it. It names the documents it is about by their ids and hashes, and the
receipt stored last for another result by its hash. Its id is drawn from the result and the
entry of the ledger; asked for the same ones again, the stored receipt is answered.
-/

namespace TokenBank

/-- Whether a result was accepted with a warning. -/
inductive AuditReceiptStatus : Type
  | accepted
  | acceptedWithWarning
deriving DecidableEq

/-- The text of a receipt's status. -/
def AuditReceiptStatus.text : AuditReceiptStatus → String
  | .accepted => "accepted"
  | .acceptedWithWarning => "accepted_with_warning"

/-- An audit receipt. -/
structure AuditReceipt where
  auditReceiptId : String
  workUnitId : String
  runId : String
  routePlanId : String
  assignmentId : String
  resultEnvelopeId : String
  verifierReportId : String
  usageLedgerEntryId : Option String
  routebookId : String
  routebookVersion : String
  status : AuditReceiptStatus
  workUnitHash : String
  routePlanHash : String
  assignmentHash : String
  resultHash : String
  resultEnvelopeHash : String
  verifierReportHash : String
  usageLedgerEntryHash : Option String
  taskAnalysisHash : Option String
  taskProfileHash : Option String
  previousReceiptHash : Option String
  receiptHash : String
  redactionProfile : String
  reasonCodes : List String
  createdAt : String

namespace AuditReceipt

open Validation

/-- The fields of a receipt. -/
def fieldNames : List String :=
  ["audit_receipt_id", "work_unit_id", "run_id", "route_plan_id", "assignment_id",
    "result_envelope_id", "verifier_report_id", "usage_ledger_entry_id", "routebook_id",
    "routebook_version", "status", "work_unit_hash", "route_plan_hash", "assignment_hash",
    "result_hash", "result_envelope_hash", "verifier_report_hash", "usage_ledger_entry_hash",
    "task_analysis_hash", "task_profile_hash", "previous_receipt_hash", "receipt_hash",
    "redaction_profile", "reason_codes", "created_at"]

/-- Validate the document of a receipt. -/
def modelValidate (library : ModelLibrary) (value : Json) : Option AuditReceipt := do
  let fields ← document fieldNames value
  let auditReceiptId ← required nonEmptyStr fields "audit_receipt_id"
  let workUnitId ← required nonEmptyStr fields "work_unit_id"
  let runId ← required nonEmptyStr fields "run_id"
  let routePlanId ← required nonEmptyStr fields "route_plan_id"
  let assignmentId ← required nonEmptyStr fields "assignment_id"
  let resultEnvelopeId ← required nonEmptyStr fields "result_envelope_id"
  let verifierReportId ← required nonEmptyStr fields "verifier_report_id"
  let usageLedgerEntryId ← defaulted none (optional nonEmptyStr) fields "usage_ledger_entry_id"
  let routebookId ← defaulted "tokenbank.base" nonEmptyStr fields "routebook_id"
  let routebookVersion ← defaulted "unknown" nonEmptyStr fields "routebook_version"
  let status ← required (literal [.accepted, .acceptedWithWarning] AuditReceiptStatus.text) fields
    "status"
  let workUnitHash ← required nonEmptyStr fields "work_unit_hash"
  let routePlanHash ← required nonEmptyStr fields "route_plan_hash"
  let assignmentHash ← required nonEmptyStr fields "assignment_hash"
  let resultHash ← required nonEmptyStr fields "result_hash"
  let resultEnvelopeHash ← required nonEmptyStr fields "result_envelope_hash"
  let verifierReportHash ← required nonEmptyStr fields "verifier_report_hash"
  let usageLedgerEntryHash ← defaulted none (optional nonEmptyStr) fields
    "usage_ledger_entry_hash"
  let taskAnalysisHash ← defaulted none (optional nonEmptyStr) fields "task_analysis_hash"
  let taskProfileHash ← defaulted none (optional nonEmptyStr) fields "task_profile_hash"
  let previousReceiptHash ← defaulted none (optional nonEmptyStr) fields "previous_receipt_hash"
  let receiptHash ← required nonEmptyStr fields "receipt_hash"
  let redactionProfile ← defaulted "ids_and_hashes_only" (literal ["ids_and_hashes_only"] id) fields
    "redaction_profile"
  let reasonCodes ← defaulted [] (listOf nonEmptyStr) fields "reason_codes"
  let createdAt ← defaulted library.now (datetime library) fields "created_at"
  return { auditReceiptId, workUnitId, runId, routePlanId, assignmentId, resultEnvelopeId,
           verifierReportId, usageLedgerEntryId, routebookId, routebookVersion, status,
           workUnitHash, routePlanHash, assignmentHash, resultHash, resultEnvelopeHash,
           verifierReportHash, usageLedgerEntryHash, taskAnalysisHash, taskProfileHash,
           previousReceiptHash, receiptHash, redactionProfile, reasonCodes, createdAt }

/-- The document of a receipt. -/
def modelDump (receipt : AuditReceipt) : JsonObject :=
  [schemaVersion, ("audit_receipt_id", .str receipt.auditReceiptId),
    ("work_unit_id", .str receipt.workUnitId), ("run_id", .str receipt.runId),
    ("route_plan_id", .str receipt.routePlanId), ("assignment_id", .str receipt.assignmentId),
    ("result_envelope_id", .str receipt.resultEnvelopeId),
    ("verifier_report_id", .str receipt.verifierReportId),
    ("usage_ledger_entry_id", .optional receipt.usageLedgerEntryId),
    ("routebook_id", .str receipt.routebookId),
    ("routebook_version", .str receipt.routebookVersion), ("status", .str receipt.status.text),
    ("work_unit_hash", .str receipt.workUnitHash),
    ("route_plan_hash", .str receipt.routePlanHash),
    ("assignment_hash", .str receipt.assignmentHash), ("result_hash", .str receipt.resultHash),
    ("result_envelope_hash", .str receipt.resultEnvelopeHash),
    ("verifier_report_hash", .str receipt.verifierReportHash),
    ("usage_ledger_entry_hash", .optional receipt.usageLedgerEntryHash),
    ("task_analysis_hash", .optional receipt.taskAnalysisHash),
    ("task_profile_hash", .optional receipt.taskProfileHash),
    ("previous_receipt_hash", .optional receipt.previousReceiptHash),
    ("receipt_hash", .str receipt.receiptHash),
    ("redaction_profile", .str receipt.redactionProfile),
    ("reason_codes", .arr (receipt.reasonCodes.map .str)), ("created_at", .str receipt.createdAt)]

end AuditReceipt

namespace Audit

open Ledger

/-! ## The context of a receipt -/

/-- What a receipt is about: the ids of a result and its report, and the documents that the
receipt names. -/
structure AcceptedContext where
  resultEnvelopeId : String
  workUnitBody : Json
  routeBody : Json
  assignmentBody : Json
  resultBody : Json
  verifierBody : Json

/-- The recommendations that a receipt can be given on. -/
def acceptedRecommendations : List String := ["accept", "accept_with_warning"]

/-- Refuse a recommendation that a receipt cannot be given on. -/
def requireAccepted (recommendation : Json) : Except Raised Unit :=
  match recommendation with
  | .arr _ | .obj _ => .error .typeError
  | .str text =>
    if text ∈ acceptedRecommendations then .ok ()
    else .error (.valueError
      "audit receipt requires verifier recommendation accept or accept_with_warning")
  | _ => .error (.valueError
      "audit receipt requires verifier recommendation accept or accept_with_warning")

/-- The newest report on a result, which has to be there. -/
def requiredReport (workUnitId resultEnvelopeId : String) (plane : LedgerPlane) :
    Except Raised (String × VerifierReportRow) :=
  requiredRow (latestReport plane resultEnvelopeId)
    ("verifier report not found for work_unit: " ++ workUnitId)

/-- The assignment of a result, which has to be there. -/
def requiredAssignment (workUnitId assignmentId : String) (plane : LedgerPlane) :
    Except Raised AssignmentRow :=
  requiredRow (plane.db.assignments.find? assignmentId)
    ("assignment not found for work_unit: " ++ workUnitId)

/-- The context of the receipt of a work unit. -/
def acceptedContext (workUnitId : String) : Store.Client LedgerPlane Raised AcceptedContext := do
  let workUnit ← .fetch (requiredWorkUnit workUnitId)
  let result ← .fetch (requiredResult workUnitId)
  let report ← .fetch (requiredReport workUnitId result.1)
  let verifierBody ← .ofExcept (loads report.2.body)
  let verifier ← .ofExcept (Json.asked verifierBody)
  .ofExcept (requireAccepted (Json.get verifier "recommendation"))
  let route ← .fetch (requiredRoutePlan workUnitId)
  let assignment ← .fetch (requiredAssignment workUnitId result.2.assignmentId)
  let workUnitBody ← .ofExcept (loads workUnit.body)
  let routeBody ← .ofExcept (loads route.2.body)
  let assignmentBody ← .ofExcept (loads assignment.body)
  let resultBody ← .ofExcept (loads result.2.body)
  return { resultEnvelopeId := result.1, workUnitBody, routeBody, assignmentBody, resultBody,
           verifierBody }

/-! ## The entry of the ledger -/

/-- The entry under an id, which has to be there. -/
def requiredEntry (usageLedgerEntryId : String) (plane : LedgerPlane) :
    Except Raised UsageAnswer := do
  match ← getEntry plane usageLedgerEntryId with
  | some entry => return entry
  | none => .error (.keyError ("usage ledger entry not found: " ++ usageLedgerEntryId))

/-- The entry listed first, if it can be used for an account. -/
def usableEntry (accountSnapshotId : Option String) (entries : List UsageAnswer) :
    Except Raised (Option UsageAnswer) :=
  match entries with
  | [] => .ok none
  | latest :: _ => do
    let body ← Json.asked latest.body
    let usable := accountSnapshotId.all (fun accountSnapshotId =>
      Json.same (Json.get body "account_snapshot_id") (.str accountSnapshotId))
    return if usable then some latest else none

/-- A receipt that is asked for. The routebook is read once for an entry and once for the
receipt. -/
structure ReceiptRequest where
  workUnitId : String
  usageLedgerEntryId : Option String
  accountSnapshotId : Option String
  entryRoutebook : Except Raised Routebook
  routebook : Except Raised Routebook

/-- The entry of a receipt: the one asked for, the newest one of the work unit if it can be
used, or a new one. -/
def ensureUsageEntry (platform : ResultsPlatform) (draws : Draws) (request : ReceiptRequest) :
    Store.Client LedgerPlane Raised UsageAnswer :=
  match request.usageLedgerEntryId with
  | some usageLedgerEntryId => .fetch (requiredEntry usageLedgerEntryId)
  | none => do
    let entries ← .fetch (fun plane => listEntries plane (some request.workUnitId) none)
    let usable ← .ofExcept (usableEntry request.accountSnapshotId entries)
    match usable with
    | some entry => return entry
    | none =>
      recordForWorkUnit platform draws request.workUnitId request.accountSnapshotId
        request.entryRoutebook

/-! ## Building a receipt -/

/-- The id of a receipt. -/
def receiptId (platform : ResultsPlatform) (resultEnvelopeId usageLedgerEntryId : Json) : String :=
  "ar_" ++ platform.shortHash (.obj [("result_envelope_id", resultEnvelopeId),
    ("usage_ledger_entry_id", usageLedgerEntryId)])

/-- The hash of the receipt stored last for another result. -/
def previousReceiptHash (plane : LedgerPlane) (resultEnvelopeId : String) : Option String :=
  (Store.newest (fun entry => entry.2.createdAt) (plane.auditReceipts.select (fun _ row =>
    decide (row.resultEnvelopeId ≠ resultEnvelopeId)))).map (fun entry => entry.2.receiptHash)

/-- The hash of a document. -/
def documentHash (platform : ResultsPlatform) (body : Json) : Json :=
  .str (Canonical.canonicalJsonHash platform.scheduler.sha256 body)

/-- The status that a recommendation gives a receipt. -/
def receiptStatus (recommendation : Json) : AuditReceiptStatus :=
  if Json.same recommendation (.str "accept") then .accepted else .acceptedWithWarning

/-- What a receipt takes from the documents it is about. -/
structure ReceiptParts where
  resultEnvelopeId : Json
  usageLedgerEntryId : Json
  recommendation : Json
  workUnitId : Json
  runId : Json
  routePlanId : Json
  assignmentId : Json
  verifierReportId : Json
  resultHash : Json
  entryHash : Json

/-- What a receipt takes from its documents, which must have it. -/
def receiptParts (context : AcceptedContext) (usage : Json) : Except Raised ReceiptParts := do
  let resultEnvelopeId ← Json.subscripted context.resultBody "result_envelope_id"
  let usageLedgerEntryId ← Json.subscripted usage "usage_ledger_entry_id"
  let recommendation ← Json.subscripted context.verifierBody "recommendation"
  let workUnitId ← Json.subscripted context.workUnitBody "work_unit_id"
  let runId ← Json.subscripted context.workUnitBody "run_id"
  let routePlanId ← Json.subscripted context.routeBody "route_plan_id"
  let assignmentId ← Json.subscripted context.assignmentBody "assignment_id"
  let verifierReportId ← Json.subscripted context.verifierBody "verifier_report_id"
  let resultHash ← Json.subscripted context.resultBody "result_hash"
  let entryHash ← Json.subscripted usage "entry_hash"
  return { resultEnvelopeId, usageLedgerEntryId, recommendation, workUnitId, runId, routePlanId,
           assignmentId, verifierReportId, resultHash, entryHash }

/-- The members of a receipt, without its hash. -/
def receiptPayload (platform : ResultsPlatform) (context : AcceptedContext) (parts : ReceiptParts)
    (previousReceiptHash : Option String) (routebook : Routebook) : JsonObject :=
  [("audit_receipt_id",
      .str (receiptId platform parts.resultEnvelopeId parts.usageLedgerEntryId)),
    ("work_unit_id", parts.workUnitId), ("run_id", parts.runId),
    ("route_plan_id", parts.routePlanId), ("assignment_id", parts.assignmentId),
    ("result_envelope_id", parts.resultEnvelopeId),
    ("verifier_report_id", parts.verifierReportId),
    ("usage_ledger_entry_id", parts.usageLedgerEntryId),
    ("routebook_id", .str routebook.routebookId), ("routebook_version", .str routebook.version),
    ("status", .str (receiptStatus parts.recommendation).text),
    ("work_unit_hash", documentHash platform context.workUnitBody),
    ("route_plan_hash", documentHash platform context.routeBody),
    ("assignment_hash", documentHash platform context.assignmentBody),
    ("result_hash", parts.resultHash),
    ("result_envelope_hash", documentHash platform context.resultBody),
    ("verifier_report_hash", documentHash platform context.verifierBody),
    ("usage_ledger_entry_hash", parts.entryHash), ("task_analysis_hash", .null),
    ("task_profile_hash", .null), ("previous_receipt_hash", .optional previousReceiptHash),
    ("redaction_profile", .str "ids_and_hashes_only"),
    ("reason_codes", .arr [.str "hash_chain_work_unit_to_verifier_report",
      .str "raw_input_output_and_credentials_excluded"])]

/-- The receipt of a context. Its hash is that of its members before they are validated. -/
def buildReceipt (platform : ResultsPlatform) (now : String) (context : AcceptedContext)
    (usage : Json) (previousReceiptHash : Option String) (routebook : Routebook) :
    Except Raised AuditReceipt := do
  let parts ← receiptParts context usage
  let payload := receiptPayload platform context parts previousReceiptHash routebook
  let receiptHash := Canonical.canonicalJsonHash platform.scheduler.sha256 (.obj payload)
  match AuditReceipt.modelValidate { platform.library with now := now }
      (.obj (payload ++ [("receipt_hash", .str receiptHash)])) with
  | some receipt => return receipt
  | none => .error .validationError

/-! ## Storing and reading receipts -/

/-- The row of a receipt. -/
def receiptRow (receipt : AuditReceipt) : AuditReceiptRow :=
  ⟨receipt.workUnitId, receipt.runId, receipt.routePlanId, receipt.resultEnvelopeId,
    receipt.verifierReportId, receipt.usageLedgerEntryId, receipt.receiptHash,
    receipt.previousReceiptHash, .obj receipt.modelDump, receipt.createdAt⟩

/-- A stored receipt has the hash. -/
def receiptHashUsed (plane : LedgerPlane) (receiptHash : String) : Bool :=
  plane.auditReceipts.entries.any (fun entry => decide (entry.2.receiptHash = receiptHash))

/-- Insert a receipt under a new id and with a new hash. What it refers to has to be there. -/
def putReceipt (receipt : AuditReceipt) (plane : LedgerPlane) : Except Raised LedgerPlane :=
  if (plane.auditReceipts.find? receipt.auditReceiptId).isSome then
    .error (Db.uniqueViolation "audit_receipts.audit_receipt_id")
  else if receiptHashUsed plane receipt.receiptHash then
    .error (Db.uniqueViolation "audit_receipts.receipt_hash")
  else
    (Db.inserting "audit_receipts.audit_receipt_id"
      ((plane.db.workUnits.find? receipt.workUnitId).isSome &&
        decide (receipt.routePlanId ∈ plane.db.routePlans) &&
        (plane.db.resultEnvelopes.find? receipt.resultEnvelopeId).isSome &&
        (plane.results.verifierReports.find? receipt.verifierReportId).isSome &&
        references plane.usageLedgerEntries receipt.usageLedgerEntryId)
      plane.auditReceipts receipt.auditReceiptId (receiptRow receipt)).map
        (fun receipts => { plane with auditReceipts := receipts })

/-- The event of a receipt. -/
def receiptEvent (draws : Draws) (receipt : AuditReceipt) : OutboxEventInput :=
  { draws.event 2 "tokenbank.audit" "audit_receipt.created"
      ("audit_receipts/" ++ receipt.auditReceiptId) (some receipt.workUnitId) none
      (some receipt.assignmentId)
      [("audit_receipt_id", .str receipt.auditReceiptId),
        ("work_unit_id", .str receipt.workUnitId), ("run_id", .str receipt.runId),
        ("route_plan_id", .str receipt.routePlanId),
        ("result_envelope_id", .str receipt.resultEnvelopeId),
        ("verifier_report_id", .str receipt.verifierReportId),
        ("usage_ledger_entry_id", .optional receipt.usageLedgerEntryId),
        ("receipt_hash", .str receipt.receiptHash),
        ("previous_receipt_hash", .optional receipt.previousReceiptHash),
        ("redaction_profile", .str receipt.redactionProfile)] with
    runId := some receipt.runId }

/-- The transaction of `insertReceipt`. -/
def insertReceiptWrites (draws : Draws) (receipt : AuditReceipt) :
    Store.Block LedgerPlane Raised Unit := do
  .put (putReceipt receipt)
  Host.enqueueIn LedgerPlane.dbPart (receiptEvent draws receipt) (draws.utcText 3)

/-- A receipt as it is answered: its document and its hash, and the time it was stored at if
it was read from its table. -/
structure ReceiptAnswer where
  body : Json
  receiptHash : String
  createdAt : Option String

/-- Store a receipt. -/
def insertReceipt (draws : Draws) (receipt : AuditReceipt) :
    Store.Client LedgerPlane Raised ReceiptAnswer := do
  .transaction Db.nestedTransaction (insertReceiptWrites draws receipt)
  return ⟨.obj receipt.modelDump, receipt.receiptHash, none⟩

/-- A stored receipt as it is answered. -/
def receiptAnswer (row : AuditReceiptRow) : Except Raised ReceiptAnswer := do
  let body ← loads row.body
  return ⟨body, row.receiptHash, some row.createdAt⟩

/-- The receipt under an id. -/
def getReceipt (plane : LedgerPlane) (auditReceiptId : String) :
    Except Raised (Option ReceiptAnswer) :=
  match plane.auditReceipts.find? auditReceiptId with
  | none => .ok none
  | some row => (receiptAnswer row).map some

/-- Give a receipt for the newest succeeded result of a work unit, or answer the one stored for
it and its entry. -/
def createForWorkUnit (platform : ResultsPlatform) (draws : Draws) (request : ReceiptRequest) :
    Store.Client LedgerPlane Raised ReceiptAnswer := do
  let context ← acceptedContext request.workUnitId
  let usage ← ensureUsageEntry platform draws request
  let routebook ← .ofExcept request.routebook
  let usageLedgerEntryId ← .ofExcept (Json.subscripted usage.body "usage_ledger_entry_id")
  let existing ← .fetch (fun plane =>
    getReceipt plane (receiptId platform (.str context.resultEnvelopeId) usageLedgerEntryId))
  match existing with
  | some receipt => return receipt
  | none =>
    let previous ← .fetch (fun plane => .ok (previousReceiptHash plane context.resultEnvelopeId))
    let receipt ← .ofExcept
      (buildReceipt platform (draws.utcText 2) context usage.body previous routebook)
    insertReceipt draws receipt

end Audit

end TokenBank
