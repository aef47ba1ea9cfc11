import TokenBank.Audit.Receipts
import TokenBank.Models.Documents

/-!
# The fields of a built receipt

A receipt that was built has the texts of its draft, each trimmed, and the hash of the draft.
Two drafts with one text make receipts that differ in nothing but the time of their making.
-/

namespace TokenBank

open Validation Canonical

/-- Every field of a receipt is read from a document. -/
structure AuditReceipt.Reads (library : ModelLibrary) (fields : JsonObject)
    (receipt : AuditReceipt) : Prop where
  auditReceiptId : required nonEmptyStr fields "audit_receipt_id" = some receipt.auditReceiptId
  workUnitId : required nonEmptyStr fields "work_unit_id" = some receipt.workUnitId
  runId : required nonEmptyStr fields "run_id" = some receipt.runId
  routePlanId : required nonEmptyStr fields "route_plan_id" = some receipt.routePlanId
  assignmentId : required nonEmptyStr fields "assignment_id" = some receipt.assignmentId
  resultEnvelopeId : required nonEmptyStr fields "result_envelope_id" =
    some receipt.resultEnvelopeId
  verifierReportId : required nonEmptyStr fields "verifier_report_id" =
    some receipt.verifierReportId
  usageLedgerEntryId : defaulted none (optional nonEmptyStr) fields "usage_ledger_entry_id" =
    some receipt.usageLedgerEntryId
  routebookId : defaulted "tokenbank.base" nonEmptyStr fields "routebook_id" =
    some receipt.routebookId
  routebookVersion : defaulted "unknown" nonEmptyStr fields "routebook_version" =
    some receipt.routebookVersion
  status : required (literal [.accepted, .acceptedWithWarning] AuditReceiptStatus.text) fields
    "status" = some receipt.status
  workUnitHash : required nonEmptyStr fields "work_unit_hash" = some receipt.workUnitHash
  routePlanHash : required nonEmptyStr fields "route_plan_hash" = some receipt.routePlanHash
  assignmentHash : required nonEmptyStr fields "assignment_hash" = some receipt.assignmentHash
  resultHash : required nonEmptyStr fields "result_hash" = some receipt.resultHash
  resultEnvelopeHash : required nonEmptyStr fields "result_envelope_hash" =
    some receipt.resultEnvelopeHash
  verifierReportHash : required nonEmptyStr fields "verifier_report_hash" =
    some receipt.verifierReportHash
  usageLedgerEntryHash : defaulted none (optional nonEmptyStr) fields "usage_ledger_entry_hash" =
    some receipt.usageLedgerEntryHash
  taskAnalysisHash : defaulted none (optional nonEmptyStr) fields "task_analysis_hash" =
    some receipt.taskAnalysisHash
  taskProfileHash : defaulted none (optional nonEmptyStr) fields "task_profile_hash" =
    some receipt.taskProfileHash
  previousReceiptHash : defaulted none (optional nonEmptyStr) fields "previous_receipt_hash" =
    some receipt.previousReceiptHash
  receiptHash : required nonEmptyStr fields "receipt_hash" = some receipt.receiptHash
  redactionProfile : defaulted "ids_and_hashes_only" (literal ["ids_and_hashes_only"] id) fields
    "redaction_profile" = some receipt.redactionProfile
  reasonCodes : defaulted [] (listOf nonEmptyStr) fields "reason_codes" = some receipt.reasonCodes
  createdAt : defaulted library.now (datetime library) fields "created_at" =
    some receipt.createdAt

/-- A validated receipt has its fields from the document. -/
theorem AuditReceipt.reads_of_validated {library : ModelLibrary} {fields : JsonObject}
    {receipt : AuditReceipt} (validated : modelValidate library (.obj fields) = some receipt) :
    Reads library fields receipt := by
  obtain ⟨members, read, rest⟩ := Option.bind_eq_some_iff.mp validated
  obtain ⟨auditReceiptId, receiptId, rest⟩ := Option.bind_eq_some_iff.mp rest
  obtain ⟨workUnitId, workUnit, rest⟩ := Option.bind_eq_some_iff.mp rest
  obtain ⟨runId, run, rest⟩ := Option.bind_eq_some_iff.mp rest
  obtain ⟨routePlanId, routePlan, rest⟩ := Option.bind_eq_some_iff.mp rest
  obtain ⟨assignmentId, assignment, rest⟩ := Option.bind_eq_some_iff.mp rest
  obtain ⟨resultEnvelopeId, result, rest⟩ := Option.bind_eq_some_iff.mp rest
  obtain ⟨verifierReportId, report, rest⟩ := Option.bind_eq_some_iff.mp rest
  obtain ⟨usageLedgerEntryId, entry, rest⟩ := Option.bind_eq_some_iff.mp rest
  obtain ⟨routebookId, routebook, rest⟩ := Option.bind_eq_some_iff.mp rest
  obtain ⟨routebookVersion, version, rest⟩ := Option.bind_eq_some_iff.mp rest
  obtain ⟨status, accepted, rest⟩ := Option.bind_eq_some_iff.mp rest
  obtain ⟨workUnitHash, workUnitHashed, rest⟩ := Option.bind_eq_some_iff.mp rest
  obtain ⟨routePlanHash, routePlanHashed, rest⟩ := Option.bind_eq_some_iff.mp rest
  obtain ⟨assignmentHash, assignmentHashed, rest⟩ := Option.bind_eq_some_iff.mp rest
  obtain ⟨resultHash, resultHashed, rest⟩ := Option.bind_eq_some_iff.mp rest
  obtain ⟨resultEnvelopeHash, envelopeHashed, rest⟩ := Option.bind_eq_some_iff.mp rest
  obtain ⟨verifierReportHash, reportHashed, rest⟩ := Option.bind_eq_some_iff.mp rest
  obtain ⟨usageLedgerEntryHash, entryHashed, rest⟩ := Option.bind_eq_some_iff.mp rest
  obtain ⟨taskAnalysisHash, analysisHashed, rest⟩ := Option.bind_eq_some_iff.mp rest
  obtain ⟨taskProfileHash, profileHashed, rest⟩ := Option.bind_eq_some_iff.mp rest
  obtain ⟨previousReceiptHash, previous, rest⟩ := Option.bind_eq_some_iff.mp rest
  obtain ⟨receiptHash, hashed, rest⟩ := Option.bind_eq_some_iff.mp rest
  obtain ⟨redactionProfile, profile, rest⟩ := Option.bind_eq_some_iff.mp rest
  obtain ⟨reasonCodes, reasons, rest⟩ := Option.bind_eq_some_iff.mp rest
  obtain ⟨createdAt, created, rest⟩ := Option.bind_eq_some_iff.mp rest
  obtain rfl := Option.some.inj rest
  obtain rfl := document_some read
  exact ⟨receiptId, workUnit, run, routePlan, assignment, result, report, entry, routebook, version,
    accepted, workUnitHashed, routePlanHashed, assignmentHashed, resultHashed, envelopeHashed,
    reportHashed, entryHashed, analysisHashed, profileHashed, previous, hashed, profile, reasons,
    created⟩

namespace Audit

/-! ## Ids that are drawn from a digest -/

/-- A text without blanks has a name's form. -/
theorem named_of_visible {text : String}
    (visible : ∀ character ∈ text.toList, BaseModel.whiteSpace character = false)
    (some : text ≠ "") : Named text := by
  refine ⟨trimmed_of_ends _ ?_ ?_, some⟩
  · rw [Option.all_eq_true]
    intro character first
    rw [visible character (List.mem_of_head? first)]
    rfl
  · rw [Option.all_eq_true]
    intro character last
    rw [visible character (List.mem_of_getLast? last)]
    rfl

/-- An id that is drawn from a digest without blanks has a name's form. -/
theorem drawn_named (platform : ResultsPlatform)
    (visible : ∀ text, ∀ character ∈ (platform.scheduler.sha256 text).toList,
      BaseModel.whiteSpace character = false) (opening : String) (some : opening ≠ "")
    (shown : opening.toList.all (fun character => !BaseModel.whiteSpace character) = true)
    (value : Json) : Named (opening ++ platform.shortHash value) := by
  apply named_of_visible
  · intro character inId
    rw [String.toList_append, List.mem_append] at inId
    rcases inId with first | later
    · exact Bool.not_eq_true' _ ▸ List.all_eq_true.mp shown character first
    · rw [ResultsPlatform.shortHash, String.toList_ofList] at later
      exact visible _ character (List.mem_of_mem_take later)
  · intro empty
    exact some (String.append_eq_empty_iff.mp empty).1

/-! ## Receipts -/

variable {platform : ResultsPlatform} {now : String} {context : AcceptedContext} {usage : Json}
  {previous : Option String} {routebook : Routebook} {receipt : AuditReceipt}

/-- The hash of a draft. -/
def draftHash (platform : ResultsPlatform) (draft : JsonObject) : String :=
  canonicalJsonHash platform.scheduler.sha256 (.obj draft)

/-- The document that a receipt is validated from. -/
def hashedDraft (platform : ResultsPlatform) (draft : JsonObject) : JsonObject :=
  draft ++ [("receipt_hash", .str (draftHash platform draft))]

/-- A built receipt is read from its draft and the hash of that. -/
theorem buildReceipt_ok
    (built : buildReceipt platform now context usage previous routebook = .ok receipt) :
    ∃ parts, receiptParts context usage = .ok parts ∧
      receipt.Reads { platform.library with now := now }
        (hashedDraft platform (receiptPayload platform context parts previous routebook)) := by
  obtain ⟨parts, taken, rest⟩ := (Store.bind_ok_iff _ _ _).mp built
  refine ⟨parts, taken, AuditReceipt.reads_of_validated ?_⟩
  dsimp only at rest
  split at rest
  · rename_i validated found
    obtain rfl := Except.ok.inj rest
    exact found
  · cases rest

/-- What a receipt takes from its documents is there. -/
structure ReceiptParts.TakenFrom (parts : ReceiptParts) (context : AcceptedContext)
    (usage : Json) : Prop where
  resultEnvelopeId : Json.subscripted context.resultBody "result_envelope_id" =
    .ok parts.resultEnvelopeId
  usageLedgerEntryId : Json.subscripted usage "usage_ledger_entry_id" =
    .ok parts.usageLedgerEntryId
  recommendation : Json.subscripted context.verifierBody "recommendation" =
    .ok parts.recommendation
  workUnitId : Json.subscripted context.workUnitBody "work_unit_id" = .ok parts.workUnitId
  runId : Json.subscripted context.workUnitBody "run_id" = .ok parts.runId
  routePlanId : Json.subscripted context.routeBody "route_plan_id" = .ok parts.routePlanId
  assignmentId : Json.subscripted context.assignmentBody "assignment_id" = .ok parts.assignmentId
  verifierReportId : Json.subscripted context.verifierBody "verifier_report_id" =
    .ok parts.verifierReportId
  resultHash : Json.subscripted context.resultBody "result_hash" = .ok parts.resultHash
  entryHash : Json.subscripted usage "entry_hash" = .ok parts.entryHash

theorem receiptParts_ok {parts : ReceiptParts} (taken : receiptParts context usage = .ok parts) :
    parts.TakenFrom context usage := by
  obtain ⟨resultEnvelopeId, result, rest⟩ := (Store.bind_ok_iff _ _ _).mp taken
  obtain ⟨usageLedgerEntryId, entry, rest⟩ := (Store.bind_ok_iff _ _ _).mp rest
  obtain ⟨recommendation, recommended, rest⟩ := (Store.bind_ok_iff _ _ _).mp rest
  obtain ⟨workUnitId, workUnit, rest⟩ := (Store.bind_ok_iff _ _ _).mp rest
  obtain ⟨runId, run, rest⟩ := (Store.bind_ok_iff _ _ _).mp rest
  obtain ⟨routePlanId, routePlan, rest⟩ := (Store.bind_ok_iff _ _ _).mp rest
  obtain ⟨assignmentId, assignment, rest⟩ := (Store.bind_ok_iff _ _ _).mp rest
  obtain ⟨verifierReportId, report, rest⟩ := (Store.bind_ok_iff _ _ _).mp rest
  obtain ⟨resultHash, hashed, rest⟩ := (Store.bind_ok_iff _ _ _).mp rest
  obtain ⟨entryHash, entryHashed, rest⟩ := (Store.bind_ok_iff _ _ _).mp rest
  obtain rfl := Except.ok.inj rest
  exact ⟨result, entry, recommended, workUnit, run, routePlan, assignment, report, hashed,
    entryHashed⟩

/-- The status of a receipt is read from its text. -/
theorem literal_receiptStatus (status : AuditReceiptStatus) :
    literal [.accepted, .acceptedWithWarning] AuditReceiptStatus.text (.str status.text) =
      some status := by
  cases status <;> simp [literal, AuditReceiptStatus.text]

/-- The hash of a built receipt has a name's form. -/
theorem receiptHash_named
    (built : buildReceipt platform now context usage previous routebook = .ok receipt) :
    Named receipt.receiptHash := by
  obtain ⟨parts, -, reads⟩ := buildReceipt_ok built
  exact (nonEmptyStr_some (required_member rfl reads.receiptHash)).2

/-- A built receipt names the hash of its draft, if digests have a name's form. -/
theorem receiptHash_built (digests : ∀ text, Named (platform.scheduler.sha256 text))
    {parts : ReceiptParts} {library : ModelLibrary}
    (reads : receipt.Reads library
      (hashedDraft platform (receiptPayload platform context parts previous routebook))) :
    receipt.receiptHash =
      draftHash platform (receiptPayload platform context parts previous routebook) := by
  have read := required_member rfl reads.receiptHash
  have same := nonEmptyStr_of_named (digests (canonicalJsonDumps
    (.obj (receiptPayload platform context parts previous routebook))))
  exact Option.some.inj (read.symm.trans same)

/-- A built receipt names the receipt before it by the hash it was given. -/
theorem previousReceiptHash_built (named : ∀ text ∈ previous, Named text)
    (built : buildReceipt platform now context usage previous routebook = .ok receipt) :
    receipt.previousReceiptHash = previous := by
  obtain ⟨parts, -, reads⟩ := buildReceipt_ok built
  exact optional_named named (defaulted_member rfl reads.previousReceiptHash)

/-- The document of a receipt is plain. -/
theorem plain_receipt (receipt : AuditReceipt) : plain (.obj receipt.modelDump) = true := by
  apply plain_obj _ ("schema_version" :: AuditReceipt.fieldNames) rfl (by decide)
  have reasons : plain (.arr (receipt.reasonCodes.map .str)) = true :=
    plain_arr Json.str receipt.reasonCodes (fun _ _ => rfl)
  simp [AuditReceipt.modelDump, plainFields, schemaVersion, reasons]

section Drafts

variable {library : ModelLibrary} {parts : ReceiptParts}

/-- The names of the members of a draft. -/
def draftNames : List String :=
  ["audit_receipt_id", "work_unit_id", "run_id", "route_plan_id", "assignment_id",
    "result_envelope_id", "verifier_report_id", "usage_ledger_entry_id", "routebook_id",
    "routebook_version", "status", "work_unit_hash", "route_plan_hash", "assignment_hash",
    "result_hash", "result_envelope_hash", "verifier_report_hash", "usage_ledger_entry_hash",
    "task_analysis_hash", "task_profile_hash", "previous_receipt_hash", "redaction_profile",
    "reason_codes"]

/-- The draft of a receipt is plain: what it takes from documents are texts. -/
theorem plain_draft (reads : receipt.Reads library
      (hashedDraft platform (receiptPayload platform context parts previous routebook))) :
    plain (.obj (receiptPayload platform context parts previous routebook)) = true := by
  have workUnitId : plain parts.workUnitId = true :=
    plain_of_nonEmptyStr (required_member rfl reads.workUnitId)
  have runId : plain parts.runId = true :=
    plain_of_nonEmptyStr (required_member rfl reads.runId)
  have routePlanId : plain parts.routePlanId = true :=
    plain_of_nonEmptyStr (required_member rfl reads.routePlanId)
  have assignmentId : plain parts.assignmentId = true :=
    plain_of_nonEmptyStr (required_member rfl reads.assignmentId)
  have resultEnvelopeId : plain parts.resultEnvelopeId = true :=
    plain_of_nonEmptyStr (required_member rfl reads.resultEnvelopeId)
  have verifierReportId : plain parts.verifierReportId = true :=
    plain_of_nonEmptyStr (required_member rfl reads.verifierReportId)
  have resultHash : plain parts.resultHash = true :=
    plain_of_nonEmptyStr (required_member rfl reads.resultHash)
  have usageLedgerEntryId : plain parts.usageLedgerEntryId = true :=
    plain_of_optional (defaulted_member rfl reads.usageLedgerEntryId)
  have entryHash : plain parts.entryHash = true :=
    plain_of_optional (defaulted_member rfl reads.usageLedgerEntryHash)
  apply plain_obj _ draftNames rfl (by decide)
  simp [receiptPayload, plainFields, documentHash, workUnitId, runId, routePlanId, assignmentId,
    resultEnvelopeId, verifierReportId, resultHash, usageLedgerEntryId, entryHash, plainItems,
    plain]

end Drafts

/-- A receipt without the time of its making. -/
def timeless (receipt : AuditReceipt) : AuditReceipt := { receipt with createdAt := "" }

/-- Receipts whose drafts have one text differ in nothing but the time of their making. -/
theorem timeless_of_same_draft {other : AuditReceipt} {library libraryOther : ModelLibrary}
    {draft draftOther : JsonObject} (plainDraft : plain (.obj draft) = true)
    (plainOther : plain (.obj draftOther) = true)
    (same : canonicalJsonDumps (.obj draft) = canonicalJsonDumps (.obj draftOther))
    (reads : receipt.Reads library (hashedDraft platform draft))
    (readsOther : other.Reads libraryOther (hashedDraft platform draftOther)) :
    timeless receipt = timeless other := by
  have sameHash : draftHash platform draft = draftHash platform draftOther := by
    rw [draftHash, draftHash, canonicalJsonHash, canonicalJsonHash, same]
  have alike (name : String) : (member (hashedDraft platform draft) name).map ordered =
      (member (hashedDraft platform draftOther) name).map ordered := by
    have drafts := members_alike draft draftOther plainDraft plainOther same name
    rw [hashedDraft, hashedDraft, member_append, member_append, sameHash, Option.map_or,
      Option.map_or, drafts]
  have texts := blind_nonEmptyStr
  have optionals : Blind (Validation.optional nonEmptyStr) := texts.optional
  simp only [timeless, AuditReceipt.mk.injEq]
  exact ⟨required_agrees texts (alike _) reads.auditReceiptId readsOther.auditReceiptId,
    required_agrees texts (alike _) reads.workUnitId readsOther.workUnitId,
    required_agrees texts (alike _) reads.runId readsOther.runId,
    required_agrees texts (alike _) reads.routePlanId readsOther.routePlanId,
    required_agrees texts (alike _) reads.assignmentId readsOther.assignmentId,
    required_agrees texts (alike _) reads.resultEnvelopeId readsOther.resultEnvelopeId,
    required_agrees texts (alike _) reads.verifierReportId readsOther.verifierReportId,
    defaulted_agrees optionals (alike _) reads.usageLedgerEntryId readsOther.usageLedgerEntryId,
    defaulted_agrees texts (alike _) reads.routebookId readsOther.routebookId,
    defaulted_agrees texts (alike _) reads.routebookVersion readsOther.routebookVersion,
    required_agrees (blind_literal _ _) (alike _) reads.status readsOther.status,
    required_agrees texts (alike _) reads.workUnitHash readsOther.workUnitHash,
    required_agrees texts (alike _) reads.routePlanHash readsOther.routePlanHash,
    required_agrees texts (alike _) reads.assignmentHash readsOther.assignmentHash,
    required_agrees texts (alike _) reads.resultHash readsOther.resultHash,
    required_agrees texts (alike _) reads.resultEnvelopeHash readsOther.resultEnvelopeHash,
    required_agrees texts (alike _) reads.verifierReportHash readsOther.verifierReportHash,
    defaulted_agrees optionals (alike _) reads.usageLedgerEntryHash
      readsOther.usageLedgerEntryHash,
    defaulted_agrees optionals (alike _) reads.taskAnalysisHash readsOther.taskAnalysisHash,
    defaulted_agrees optionals (alike _) reads.taskProfileHash readsOther.taskProfileHash,
    defaulted_agrees optionals (alike _) reads.previousReceiptHash
      readsOther.previousReceiptHash,
    required_agrees texts (alike _) reads.receiptHash readsOther.receiptHash,
    defaulted_agrees (blind_literal _ _) (alike _) reads.redactionProfile
      readsOther.redactionProfile,
    defaulted_agrees texts.listOf (alike _) reads.reasonCodes readsOther.reasonCodes, trivial⟩

end Audit

end TokenBank
