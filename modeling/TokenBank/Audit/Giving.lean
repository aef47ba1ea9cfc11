import TokenBank.Audit.Fields
import TokenBank.Audit.System
import TokenBank.Ledger.Fields
import TokenBank.Store.Postconditions

/-!
# Giving a receipt

Where the documents of a receipt are texts, its entry can be recorded and its id and its hash are
in no use, a receipt that is asked for is given: it is built, stored and answered.
-/

namespace TokenBank

open Validation Canonical

/-! ## Validation -/

/-- What is read is what the rest goes on with. -/
theorem goes_on {μ : Type → Type} [Monad μ] [LawfulMonad μ] {α β : Type} {read : μ α} {value : α}
    {rest : α → μ β} {result : μ β} (found : read = pure value) (goes : rest value = result) :
    (read >>= rest) = result := by
  rw [found, pure_bind]
  exact goes

section Members

variable {α : Type} {read : Json → Option α} {fields : JsonObject} {name : String} {value : Json}
  {result : α}

/-- A required field is what its member is read as. -/
theorem required_read (here : member fields name = some value) (reads : read value = some result) :
    required read fields name = some result := by
  rw [required, here]
  exact reads

/-- A field with a default is what its member is read as, if there is one. -/
theorem defaulted_read {default : α} (here : member fields name = some value)
    (reads : read value = some result) : defaulted default read fields name = some result := by
  rw [defaulted, here]
  exact reads

end Members

/-- A document with the fields of an entry is that of the entry. -/
theorem UsageLedgerEntry.validated_of_reads {library : ModelLibrary} {fields : JsonObject}
    {entry : UsageLedgerEntry} (read : document fieldNames (.obj fields) = some fields)
    (reads : Reads library fields entry) : modelValidate library (.obj fields) = some entry := by
  unfold modelValidate
  exact goes_on read <| goes_on reads.usageLedgerEntryId <| goes_on reads.workUnitId <|
    goes_on reads.runId <| goes_on reads.routePlanId <| goes_on reads.resultEnvelopeId <|
    goes_on reads.verifierReportId <| goes_on reads.accountSnapshotId <|
    goes_on reads.routebookId <| goes_on reads.routebookVersion <| goes_on reads.capacityNodeId <|
    goes_on reads.capacityProfileId <| goes_on reads.backendId <| goes_on reads.providerId <|
    goes_on reads.modelId <| goes_on reads.estimatedInputTokens <|
    goes_on reads.estimatedOutputTokens <| goes_on reads.estimatedTotalTokens <|
    goes_on reads.reportedInputTokens <| goes_on reads.reportedOutputTokens <|
    goes_on reads.reportedTotalTokens <| goes_on reads.estimatedCostMicros <|
    goes_on reads.reportedCostMicros <| goes_on reads.billableCostMicros <|
    goes_on reads.usageSource <| goes_on reads.costSource <|
    goes_on reads.verifierRecommendation <| goes_on reads.entryHash <|
    goes_on reads.createdAt rfl

/-- A document with the fields of a receipt is that of the receipt. -/
theorem AuditReceipt.validated_of_reads {library : ModelLibrary} {fields : JsonObject}
    {receipt : AuditReceipt} (read : document fieldNames (.obj fields) = some fields)
    (reads : Reads library fields receipt) :
    modelValidate library (.obj fields) = some receipt := by
  unfold modelValidate
  exact goes_on read <| goes_on reads.auditReceiptId <| goes_on reads.workUnitId <|
    goes_on reads.runId <| goes_on reads.routePlanId <| goes_on reads.assignmentId <|
    goes_on reads.resultEnvelopeId <| goes_on reads.verifierReportId <|
    goes_on reads.usageLedgerEntryId <| goes_on reads.routebookId <|
    goes_on reads.routebookVersion <| goes_on reads.status <| goes_on reads.workUnitHash <|
    goes_on reads.routePlanHash <| goes_on reads.assignmentHash <| goes_on reads.resultHash <|
    goes_on reads.resultEnvelopeHash <| goes_on reads.verifierReportHash <|
    goes_on reads.usageLedgerEntryHash <| goes_on reads.taskAnalysisHash <|
    goes_on reads.taskProfileHash <| goes_on reads.previousReceiptHash <|
    goes_on reads.receiptHash <| goes_on reads.redactionProfile <| goes_on reads.reasonCodes <|
    goes_on reads.createdAt rfl

/-- A document without forbidden keys whose members are named after fields is read. -/
theorem document_of_names {names : List String} (fields : JsonObject)
    (named : (fields.map Prod.fst).all (fun name => names.contains name) = true)
    (absent : member fields "schema_version" = none)
    (allowed : BaseModel.hasForbiddenKey (.obj fields) = false) :
    document names (.obj fields) = some fields := by
  have known : ∀ field ∈ fields, field.1 = "schema_version" ∨ field.1 ∈ names := by
    intro field listed
    have here := List.all_eq_true.mp named field.1 (List.mem_map_of_mem listed)
    exact .inr (by simpa using here)
  rw [document, if_pos]
  exact ⟨allowed, known, by rw [defaulted, absent]; rfl⟩

namespace Audit

open Ledger Store.Client

/-! ## What calls read -/

/-- The context of an entry, from what is stored. -/
def completedContextOf (plane : LedgerPlane) (workUnitId : String) :
    Except Raised CompletedContext := do
  let workUnit ← requiredWorkUnit workUnitId plane
  let result ← requiredResult workUnitId plane
  let route ← requiredRoutePlan workUnitId plane
  let report ← .ok (latestReport plane result.1)
  let workUnitBody ← loads workUnit.body
  let routeBody ← loads route.2.body
  let resultBody ← loads result.2.body
  let verifierBody ← reportBody report
  return { workUnitBody, routePlanId := route.1, routeBody, resultEnvelopeId := result.1,
           resultBody, verifierReportId := report.map Prod.fst, verifierBody }

theorem reads_completedContext (plane : LedgerPlane) (workUnitId : String) :
    Reads (completedContext workUnitId) plane (completedContextOf plane workUnitId) :=
  (reads_fetch _).bind fun _ => (reads_fetch _).bind fun _ => (reads_fetch _).bind fun _ =>
    (reads_fetch _).bind fun _ => (reads_ofExcept _).bind fun _ => (reads_ofExcept _).bind fun _ =>
      (reads_ofExcept _).bind fun _ => (reads_ofExcept _).bind fun _ => reads_pure _

/-- The context of a receipt, from what is stored. -/
def acceptedContextOf (plane : LedgerPlane) (workUnitId : String) :
    Except Raised AcceptedContext := do
  let workUnit ← requiredWorkUnit workUnitId plane
  let result ← requiredResult workUnitId plane
  let report ← requiredReport workUnitId result.1 plane
  let verifierBody ← loads report.2.body
  let verifier ← Json.asked verifierBody
  requireAccepted (Json.get verifier "recommendation")
  let route ← requiredRoutePlan workUnitId plane
  let assignment ← requiredAssignment workUnitId result.2.assignmentId plane
  let workUnitBody ← loads workUnit.body
  let routeBody ← loads route.2.body
  let assignmentBody ← loads assignment.body
  let resultBody ← loads result.2.body
  return { resultEnvelopeId := result.1, workUnitBody, routeBody, assignmentBody, resultBody,
           verifierBody }

theorem reads_acceptedContext (plane : LedgerPlane) (workUnitId : String) :
    Reads (acceptedContext workUnitId) plane (acceptedContextOf plane workUnitId) :=
  (reads_fetch _).bind fun _ => (reads_fetch _).bind fun _ => (reads_fetch _).bind fun _ =>
    (reads_ofExcept _).bind fun _ => (reads_ofExcept _).bind fun _ => (reads_ofExcept _).bind fun _ =>
      (reads_fetch _).bind fun _ => (reads_fetch _).bind fun _ => (reads_ofExcept _).bind fun _ =>
        (reads_ofExcept _).bind fun _ => (reads_ofExcept _).bind fun _ =>
          (reads_ofExcept _).bind fun _ => reads_pure _

/-- The entry that a receipt can use without recording one. -/
def foundEntry (plane : LedgerPlane) (request : ReceiptRequest) :
    Except Raised (Option UsageAnswer) :=
  match request.usageLedgerEntryId with
  | some usageLedgerEntryId => (requiredEntry usageLedgerEntryId plane).map some
  | none => do
    let entries ← listEntries plane (some request.workUnitId) none
    usableEntry request.accountSnapshotId entries

/-- The documents of two stores are the same: at most events were enqueued. -/
def SameDocuments (before after : LedgerPlane) : Prop :=
  ∃ outbox, after.results = before.results.withEvents outbox

variable {before after : LedgerPlane}

/-- The contexts of a work unit are the same where the documents are. -/
theorem SameDocuments.contexts (same : SameDocuments before after) (workUnitId : String) :
    completedContextOf after workUnitId = completedContextOf before workUnitId ∧
      acceptedContextOf after workUnitId = acceptedContextOf before workUnitId := by
  obtain ⟨outbox, documents⟩ := same
  obtain ⟨results, accountSnapshots, usageLedgerEntries, auditReceipts⟩ := after
  obtain rfl : results = before.results.withEvents outbox := documents
  exact ⟨rfl, rfl⟩

/-! ## Building an entry -/

section Entries

variable {platform : ResultsPlatform} {context : CompletedContext} {parts : UsageParts}
  {accountSnapshotId : Option String} {workUnitId runId recommendation : String}
  {routebook : Routebook}

/-- The entry that is built of some parts, where the result names neither a node, a backend, a
provider nor a model. -/
def bareEntry (platform : ResultsPlatform) (now : String) (context : CompletedContext)
    (parts : UsageParts) (workUnitId runId : String) (accountSnapshotId : Option String)
    (routebook : Routebook) (recommendation : String) : UsageLedgerEntry where
  usageLedgerEntryId := "ule_" ++ platform.shortHash (entrySeed parts.workUnitId
    context.resultEnvelopeId context.verifierReportId accountSnapshotId)
  workUnitId := workUnitId
  runId := runId
  routePlanId := context.routePlanId
  resultEnvelopeId := context.resultEnvelopeId
  verifierReportId := context.verifierReportId
  accountSnapshotId := accountSnapshotId
  routebookId := routebook.routebookId
  routebookVersion := routebook.version
  capacityNodeId := none
  capacityProfileId := none
  backendId := none
  providerId := none
  modelId := none
  estimatedInputTokens := parts.amounts.inputUnits
  estimatedOutputTokens := parts.amounts.outputUnits
  estimatedTotalTokens := parts.amounts.inputUnits + parts.amounts.outputUnits
  reportedInputTokens := parts.amounts.reported parts.amounts.inputUnits
  reportedOutputTokens := parts.amounts.reported parts.amounts.outputUnits
  reportedTotalTokens :=
    parts.amounts.reported (parts.amounts.inputUnits + parts.amounts.outputUnits)
  estimatedCostMicros := parts.amounts.estimatedCost
  reportedCostMicros := parts.amounts.reported parts.amounts.actualCost
  billableCostMicros := parts.amounts.billable
  usageSource := parts.amounts.usageSource
  costSource := parts.amounts.costSource
  verifierRecommendation := some recommendation
  entryHash := canonicalJsonHash platform.scheduler.sha256
    (.obj (usagePayload platform context parts accountSnapshotId routebook))
  createdAt := now

/-- An entry can be built of some parts: they are texts, the recommendation is one of those an
entry may have, and the result names neither a node, a backend, a provider nor a model. -/
structure Bare (platform : ResultsPlatform) (context : CompletedContext) (parts : UsageParts)
    (workUnitId runId : String) (accountSnapshotId : Option String) (routebook : Routebook)
    (recommendation : String) : Prop where
  usageLedgerEntryId : Named ("ule_" ++ platform.shortHash (entrySeed parts.workUnitId
    context.resultEnvelopeId context.verifierReportId accountSnapshotId))
  workUnit : parts.workUnitId = .str workUnitId
  workUnitId : Named workUnitId
  run : parts.runId = .str runId
  runId : Named runId
  routePlanId : Named context.routePlanId
  resultEnvelopeId : Named context.resultEnvelopeId
  verifierReportId : ∀ text ∈ context.verifierReportId, Named text
  accountSnapshotId : ∀ text ∈ accountSnapshotId, Named text
  routebookId : Named routebook.routebookId
  routebookVersion : Named routebook.version
  capacityProfileId : parts.capacityProfileId = .null
  capacityNodeId : Json.get parts.resultBody "capacity_node_id" = .null
  backendId : Json.get parts.resultBody "backend_id" = .null
  providerId : Json.get parts.resultBody "provider_id" = .null
  modelId : Json.get parts.resultBody "model_id" = .null
  recommends : Json.get (Host.jsonObject context.verifierBody) "recommendation" =
    .str recommendation
  recommendation : literal recommendationTexts id (.str recommendation) = some recommendation

/-- The document of such an entry is read. -/
theorem document_bare (bare : Bare platform context parts workUnitId runId accountSnapshotId
      routebook recommendation) :
    document UsageLedgerEntry.fieldNames (.obj (hashedPayload platform
      (usagePayload platform context parts accountSnapshotId routebook))) =
      some (hashedPayload platform
        (usagePayload platform context parts accountSnapshotId routebook)) := by
  have nullable (value : Option Nat) :
      BaseModel.hasForbiddenKey (.optionalNat value) = false := by
    cases value <;> rfl
  refine document_of_names _ (by rfl) rfl ?_
  rw [hasForbiddenKey_named _ (UsageLedgerEntry.fieldNames.filter (· ≠ "created_at")) rfl
    (by decide +kernel)]
  simp [hashedPayload, usagePayload, bare.workUnit, bare.run, bare.capacityProfileId,
    bare.capacityNodeId, bare.backendId, bare.providerId, bare.modelId, bare.recommends, nullable,
    show BaseModel.hasForbiddenKey .null = false from rfl]

/-- An optional text that has a name's form is read as it is. -/
theorem optional_given {given : Option String} (named : ∀ text ∈ given, Named text) :
    Validation.optional nonEmptyStr (.optional given) = some given :=
  optional_text nonEmptyStr given (fun text found => nonEmptyStr_of_named (named text found))

/-- The document of such an entry has its fields. -/
theorem reads_bare (digests : ∀ text, Named (platform.scheduler.sha256 text)) (now : String)
    (bare : Bare platform context parts workUnitId runId accountSnapshotId routebook
      recommendation) :
    (bareEntry platform now context parts workUnitId runId accountSnapshotId routebook
      recommendation).Reads { platform.library with now := now } (hashedPayload platform
        (usagePayload platform context parts accountSnapshotId routebook)) := by
  have missing {read : Json → Option String} {value : Json} (null : value = .null) :
      Validation.optional read value = some none := by
    rw [null, Validation.optional]
  constructor
  · exact required_read rfl (nonEmptyStr_of_named bare.usageLedgerEntryId)
  · exact required_read rfl (bare.workUnit ▸ nonEmptyStr_of_named bare.workUnitId)
  · exact required_read rfl (bare.run ▸ nonEmptyStr_of_named bare.runId)
  · exact required_read rfl (nonEmptyStr_of_named bare.routePlanId)
  · exact required_read rfl (nonEmptyStr_of_named bare.resultEnvelopeId)
  · exact defaulted_read rfl (optional_given bare.verifierReportId)
  · exact defaulted_read rfl (optional_given bare.accountSnapshotId)
  · exact defaulted_read rfl (nonEmptyStr_of_named bare.routebookId)
  · exact defaulted_read rfl (nonEmptyStr_of_named bare.routebookVersion)
  · exact defaulted_read rfl (missing bare.capacityNodeId)
  · exact defaulted_read rfl (missing bare.capacityProfileId)
  · exact defaulted_read rfl (missing bare.backendId)
  · exact defaulted_read rfl (missing bare.providerId)
  · exact defaulted_read rfl (missing bare.modelId)
  · exact defaulted_read rfl (nonNegativeInt_nat _)
  · exact defaulted_read rfl (nonNegativeInt_nat _)
  · exact defaulted_read rfl (nonNegativeInt_nat _)
  · exact defaulted_read rfl (optional_nat _)
  · exact defaulted_read rfl (optional_nat _)
  · exact defaulted_read rfl (optional_nat _)
  · exact defaulted_read rfl (nonNegativeInt_nat _)
  · exact defaulted_read rfl (optional_nat _)
  · exact defaulted_read rfl (nonNegativeInt_nat _)
  · exact defaulted_read rfl (literal_usageSource _)
  · exact defaulted_read rfl (literal_usageCostSource _)
  · refine defaulted_read rfl ?_
    rw [bare.recommends]
    exact congrArg (Option.map some) bare.recommendation
  · exact required_read rfl (nonEmptyStr_of_named (digests _))
  · rfl

/-- Such an entry is built. -/
theorem buildUsageEntry_bare (digests : ∀ text, Named (platform.scheduler.sha256 text))
    (now : String) (taken : usageParts platform context = .ok parts)
    (bare : Bare platform context parts workUnitId runId accountSnapshotId routebook
      recommendation) :
    buildUsageEntry platform now context accountSnapshotId routebook =
      .ok (bareEntry platform now context parts workUnitId runId accountSnapshotId routebook
        recommendation) := by
  have validated := UsageLedgerEntry.validated_of_reads (document_bare bare)
    (reads_bare digests now bare)
  refine (Store.bind_ok_iff _ _ _).mpr ⟨parts, taken, ?_⟩
  unfold hashedPayload at validated
  dsimp only at validated ⊢
  rw [validated]
  rfl

end Entries

/-! ## Building a receipt -/

/-- What a receipt takes from documents in which it is texts. -/
structure ReceiptTexts where
  resultEnvelopeId : String
  usageLedgerEntryId : String
  recommendation : String
  workUnitId : String
  runId : String
  routePlanId : String
  assignmentId : String
  verifierReportId : String
  resultHash : String
  entryHash : String

namespace ReceiptTexts

/-- The texts as they are taken from documents. -/
def parts (texts : ReceiptTexts) : ReceiptParts where
  resultEnvelopeId := .str texts.resultEnvelopeId
  usageLedgerEntryId := .str texts.usageLedgerEntryId
  recommendation := .str texts.recommendation
  workUnitId := .str texts.workUnitId
  runId := .str texts.runId
  routePlanId := .str texts.routePlanId
  assignmentId := .str texts.assignmentId
  verifierReportId := .str texts.verifierReportId
  resultHash := .str texts.resultHash
  entryHash := .str texts.entryHash

/-- The texts that a receipt names have a name's form. -/
structure AllNamed (texts : ReceiptTexts) : Prop where
  resultEnvelopeId : Named texts.resultEnvelopeId
  usageLedgerEntryId : Named texts.usageLedgerEntryId
  workUnitId : Named texts.workUnitId
  runId : Named texts.runId
  routePlanId : Named texts.routePlanId
  assignmentId : Named texts.assignmentId
  verifierReportId : Named texts.verifierReportId
  resultHash : Named texts.resultHash
  entryHash : Named texts.entryHash

variable {platform : ResultsPlatform} {context : AcceptedContext} {texts : ReceiptTexts}
  {previous : Option String} {routebook : Routebook}

/-- The receipt of some texts. -/
def receipt (texts : ReceiptTexts) (platform : ResultsPlatform) (now : String)
    (context : AcceptedContext) (previous : Option String) (routebook : Routebook) :
    AuditReceipt where
  auditReceiptId := receiptId platform (.str texts.resultEnvelopeId) (.str texts.usageLedgerEntryId)
  workUnitId := texts.workUnitId
  runId := texts.runId
  routePlanId := texts.routePlanId
  assignmentId := texts.assignmentId
  resultEnvelopeId := texts.resultEnvelopeId
  verifierReportId := texts.verifierReportId
  usageLedgerEntryId := some texts.usageLedgerEntryId
  routebookId := routebook.routebookId
  routebookVersion := routebook.version
  status := receiptStatus (.str texts.recommendation)
  workUnitHash := canonicalJsonHash platform.scheduler.sha256 context.workUnitBody
  routePlanHash := canonicalJsonHash platform.scheduler.sha256 context.routeBody
  assignmentHash := canonicalJsonHash platform.scheduler.sha256 context.assignmentBody
  resultHash := texts.resultHash
  resultEnvelopeHash := canonicalJsonHash platform.scheduler.sha256 context.resultBody
  verifierReportHash := canonicalJsonHash platform.scheduler.sha256 context.verifierBody
  usageLedgerEntryHash := some texts.entryHash
  taskAnalysisHash := none
  taskProfileHash := none
  previousReceiptHash := previous
  receiptHash := draftHash platform (receiptPayload platform context texts.parts previous routebook)
  redactionProfile := "ids_and_hashes_only"
  reasonCodes := ["hash_chain_work_unit_to_verifier_report",
    "raw_input_output_and_credentials_excluded"]
  createdAt := now

/-- The document of such a receipt is read. -/
theorem document_receipt :
    document AuditReceipt.fieldNames (.obj (hashedDraft platform
      (receiptPayload platform context texts.parts previous routebook))) =
      some (hashedDraft platform
        (receiptPayload platform context texts.parts previous routebook)) := by
  refine document_of_names _ (by rfl) rfl ?_
  rw [hasForbiddenKey_named _ (draftNames ++ ["receipt_hash"]) rfl (by decide +kernel)]
  have reasons (first second : String) :
      BaseModel.hasForbiddenKey (.arr [.str first, .str second]) = false := by rfl
  simp [hashedDraft, receiptPayload, documentHash, parts, reasons,
    show BaseModel.hasForbiddenKey .null = false from rfl]

/-- The document of such a receipt has its fields. -/
theorem reads_receipt (digests : ∀ text, Named (platform.scheduler.sha256 text)) (now : String)
    (named : texts.AllNamed)
    (receiptIdNamed : Named (receiptId platform (.str texts.resultEnvelopeId)
      (.str texts.usageLedgerEntryId)))
    (previousNamed : ∀ text ∈ previous, Named text) (routebookId : Named routebook.routebookId)
    (routebookVersion : Named routebook.version) :
    (texts.receipt platform now context previous routebook).Reads
      { platform.library with now := now } (hashedDraft platform
        (receiptPayload platform context texts.parts previous routebook)) := by
  have given {text : String} (named : Named text) :
      Validation.optional nonEmptyStr (.str text) = some (some text) :=
    congrArg (Option.map some) (nonEmptyStr_of_named named)
  have reasons : listOf nonEmptyStr (.arr [.str "hash_chain_work_unit_to_verifier_report",
      .str "raw_input_output_and_credentials_excluded"]) =
      some ["hash_chain_work_unit_to_verifier_report",
        "raw_input_output_and_credentials_excluded"] := by
    decide +kernel
  constructor
  · exact required_read rfl (nonEmptyStr_of_named receiptIdNamed)
  · exact required_read rfl (nonEmptyStr_of_named named.workUnitId)
  · exact required_read rfl (nonEmptyStr_of_named named.runId)
  · exact required_read rfl (nonEmptyStr_of_named named.routePlanId)
  · exact required_read rfl (nonEmptyStr_of_named named.assignmentId)
  · exact required_read rfl (nonEmptyStr_of_named named.resultEnvelopeId)
  · exact required_read rfl (nonEmptyStr_of_named named.verifierReportId)
  · exact defaulted_read rfl (given named.usageLedgerEntryId)
  · exact defaulted_read rfl (nonEmptyStr_of_named routebookId)
  · exact defaulted_read rfl (nonEmptyStr_of_named routebookVersion)
  · exact required_read rfl (literal_receiptStatus _)
  · exact required_read rfl (nonEmptyStr_of_named (digests _))
  · exact required_read rfl (nonEmptyStr_of_named (digests _))
  · exact required_read rfl (nonEmptyStr_of_named (digests _))
  · exact required_read rfl (nonEmptyStr_of_named named.resultHash)
  · exact required_read rfl (nonEmptyStr_of_named (digests _))
  · exact required_read rfl (nonEmptyStr_of_named (digests _))
  · exact defaulted_read rfl (given named.entryHash)
  · rfl
  · rfl
  · exact defaulted_read rfl (optional_given previousNamed)
  · exact required_read rfl (nonEmptyStr_of_named (digests _))
  · rfl
  · exact defaulted_read rfl reasons
  · rfl

/-- Such a receipt is built. -/
theorem buildReceipt_texts (digests : ∀ text, Named (platform.scheduler.sha256 text)) (now : String)
    {usage : Json} (taken : receiptParts context usage = .ok texts.parts) (named : texts.AllNamed)
    (receiptIdNamed : Named (receiptId platform (.str texts.resultEnvelopeId)
      (.str texts.usageLedgerEntryId)))
    (previousNamed : ∀ text ∈ previous, Named text) (routebookId : Named routebook.routebookId)
    (routebookVersion : Named routebook.version) :
    buildReceipt platform now context usage previous routebook =
      .ok (texts.receipt platform now context previous routebook) := by
  have reads : (texts.receipt platform now context previous routebook).Reads
      { platform.library with now := now } (hashedDraft platform
        (receiptPayload platform context texts.parts previous routebook)) :=
    reads_receipt digests now named receiptIdNamed previousNamed routebookId routebookVersion
  have validated := AuditReceipt.validated_of_reads document_receipt reads
  refine (Store.bind_ok_iff _ _ _).mpr ⟨texts.parts, taken, ?_⟩
  unfold hashedDraft draftHash at validated
  dsimp only at validated ⊢
  rw [validated]
  rfl

end ReceiptTexts

/-! ## Recording an entry -/

/-- An entry can be filed under a new id: what it refers to is there. -/
structure Recordable (entry : UsageLedgerEntry) (plane : LedgerPlane) : Prop where
  unused : plane.usageLedgerEntries.find? entry.usageLedgerEntryId = none
  bindable : Db.bindable entry.billableCostMicros = true
  workUnit : (plane.db.workUnits.find? entry.workUnitId).isSome = true
  routePlan : entry.routePlanId ∈ plane.db.routePlans
  result : (plane.db.resultEnvelopes.find? entry.resultEnvelopeId).isSome = true
  report : references plane.results.verifierReports entry.verifierReportId = true
  account : references plane.accountSnapshots entry.accountSnapshotId = true

/-- The tables with an entry recorded. -/
def withEntry (plane : LedgerPlane) (entry : UsageLedgerEntry)
    (outbox : Store.Table String EventRow) : LedgerPlane :=
  { plane with
    results := plane.results.withEvents outbox
    usageLedgerEntries := plane.usageLedgerEntries.upsert entry.usageLedgerEntryId
      (usageRow entry) (rewriteUsage entry) }

/-- An entry that can be filed is recorded, if its event is new. No other event is touched. -/
theorem upsertEntryWrites_returns (draws : Draws) {entry : UsageLedgerEntry} {plane : LedgerPlane}
    (recordable : Recordable entry plane)
    (fresh : plane.db.eventOutbox.find? ("evt_" ++ draws.uuid 1) = none) :
    ∃ outbox, (upsertEntryWrites draws entry).run plane = .ok ((), withEntry plane entry outbox) ∧
      ∀ eventId, eventId ≠ "evt_" ++ draws.uuid 1 →
        outbox.find? eventId = plane.db.eventOutbox.find? eventId := by
  let written : LedgerPlane := { plane with
    usageLedgerEntries := plane.usageLedgerEntries.upsert entry.usageLedgerEntryId
      (usageRow entry) (rewriteUsage entry) }
  have put : putUsageEntry entry plane = .ok written := by
    have inserted := Store.Table.upsert_absent plane.usageLedgerEntries entry.usageLedgerEntryId
      (usageRow entry) (rewriteUsage entry) recordable.unused
    rw [putUsageEntry]
    simp only [recordable.bindable, Bool.true_eq_false, if_false, recordable.unused,
      Option.isSome_none, Bool.false_eq_true]
    refine (Store.map_ok_iff _ _ _).mpr ⟨_, (Db.inserting_ok_iff _ _ _ _ _ _).mpr ⟨inserted, ?_⟩, rfl⟩
    simp [recordable.workUnit, recordable.routePlan, recordable.result, recordable.report,
      recordable.account]
  obtain ⟨outbox, enqueued, others⟩ := Host.enqueueIn_returns LedgerPlane.dbPart
    (usageEvent draws entry) (draws.utcText 1) written fresh
  refine ⟨outbox, ?_, others⟩
  simp only [upsertEntryWrites, Store.Block.run_bind_ok, Store.Block.run_put_ok]
  exact ⟨(), written, put, enqueued⟩

/-- An entry is recorded where none can be used and one can be built and filed. -/
theorem ensureUsageEntry_records (platform : ResultsPlatform) (draws : Draws)
    (request : ReceiptRequest) {plane : LedgerPlane} {context : CompletedContext}
    {routebook : Routebook} {entry : UsageLedgerEntry}
    (anonymous : request.usageLedgerEntryId = none)
    (unfound : foundEntry plane request = .ok none)
    (completed : completedContextOf plane request.workUnitId = .ok context)
    (loaded : request.entryRoutebook = .ok routebook)
    (built : buildUsageEntry platform (draws.utcText 0) context request.accountSnapshotId routebook =
      .ok entry)
    (recordable : Recordable entry plane)
    (fresh : plane.db.eventOutbox.find? ("evt_" ++ draws.uuid 1) = none) :
    ∃ outbox, Ensures (ensureUsageEntry platform draws request) plane (fun result left =>
        result = .ok ⟨.obj entry.modelDump, entry.entryHash, none⟩ ∧
          left = withEntry plane entry outbox) ∧
      ∀ eventId, eventId ≠ "evt_" ++ draws.uuid 1 →
        outbox.find? eventId = plane.db.eventOutbox.find? eventId := by
  obtain ⟨outbox, recorded, others⟩ := upsertEntryWrites_returns draws recordable fresh
  refine ⟨outbox, ?_, others⟩
  rw [foundEntry, anonymous] at unfound
  obtain ⟨entries, listed, chosen⟩ := (Store.bind_ok_iff _ _ _).mp unfound
  simp only [ensureUsageEntry, anonymous]
  refine (reads_fetch _).goesOn listed ?_
  refine (reads_ofExcept _).goesOn chosen ?_
  refine (reads_completedContext _ _).goesOn completed ?_
  refine (reads_ofExcept _).goesOn loaded ?_
  refine (reads_ofExcept _).goesOn built ?_
  refine Ensures.bind (ensures_transaction _ _ ?_ ?_)
  · intro value changed ran
    obtain ⟨rfl, rfl⟩ := Prod.mk.inj (Except.ok.inj (recorded.symm.trans ran))
    exact ensures_pure _ ⟨rfl, rfl⟩
  · intro error raised
    rw [recorded] at raised
    cases raised

/-! ## Giving a receipt -/

/-- Under an id that is not used no receipt is found. -/
theorem getReceipt_unused {plane : LedgerPlane} {auditReceiptId : String}
    (unused : plane.auditReceipts.find? auditReceiptId = none) :
    getReceipt plane auditReceiptId = .ok none := by
  rw [getReceipt, unused]

/-- A receipt can be filed: its id and its hash are new, and what it refers to is there. -/
structure Insertable (receipt : AuditReceipt) (plane : LedgerPlane) : Prop where
  unusedId : plane.auditReceipts.find? receipt.auditReceiptId = none
  unusedHash : receiptHashUsed plane receipt.receiptHash = false
  workUnit : (plane.db.workUnits.find? receipt.workUnitId).isSome = true
  routePlan : receipt.routePlanId ∈ plane.db.routePlans
  result : (plane.db.resultEnvelopes.find? receipt.resultEnvelopeId).isSome = true
  report : (plane.results.verifierReports.find? receipt.verifierReportId).isSome = true
  entry : references plane.usageLedgerEntries receipt.usageLedgerEntryId = true

/-- A receipt that can be filed is stored after all others, if its event is new. No other event
is touched. -/
theorem insertReceiptWrites_returns (draws : Draws) {receipt : AuditReceipt} {plane : LedgerPlane}
    (insertable : Insertable receipt plane)
    (fresh : plane.db.eventOutbox.find? ("evt_" ++ draws.uuid 3) = none) :
    ∃ receipts outbox, receipts.entries =
        plane.auditReceipts.entries ++ [(receipt.auditReceiptId, receiptRow receipt)] ∧
      (insertReceiptWrites draws receipt).run plane = .ok ((), { plane with
        results := plane.results.withEvents outbox
        auditReceipts := receipts }) ∧
      ∀ eventId, eventId ≠ "evt_" ++ draws.uuid 3 →
        outbox.find? eventId = plane.db.eventOutbox.find? eventId := by
  have inserted := Store.Table.upsert_absent plane.auditReceipts receipt.auditReceiptId
    (receiptRow receipt) id insertable.unusedId
  let written : LedgerPlane := { plane with
    auditReceipts := plane.auditReceipts.upsert receipt.auditReceiptId (receiptRow receipt) id }
  have put : putReceipt receipt plane = .ok written := by
    rw [putReceipt]
    simp only [insertable.unusedId, insertable.unusedHash, Option.isSome_none, Bool.false_eq_true,
      if_false]
    refine (Store.map_ok_iff _ _ _).mpr ⟨_, (Db.inserting_ok_iff _ _ _ _ _ _).mpr ⟨inserted, ?_⟩, rfl⟩
    simp [insertable.workUnit, insertable.routePlan, insertable.result, insertable.report,
      insertable.entry]
  obtain ⟨outbox, enqueued, others⟩ := Host.enqueueIn_returns LedgerPlane.dbPart
    (receiptEvent draws receipt) (draws.utcText 3) written fresh
  refine ⟨written.auditReceipts, outbox, ((Store.Table.insert_some_iff _ _ _ _).mp inserted).2, ?_,
    others⟩
  simp only [insertReceiptWrites, Store.Block.run_bind_ok, Store.Block.run_put_ok]
  exact ⟨(), written, put, enqueued⟩

/-- A receipt is given for an accepted result where its entry is there and it can be built and
filed. -/
theorem createForWorkUnit_gives (platform : ResultsPlatform) (draws : Draws)
    (request : ReceiptRequest) {plane between : LedgerPlane} {context : AcceptedContext}
    {usage : UsageAnswer} {usageLedgerEntryId : Json} {routebook : Routebook}
    {receipt : AuditReceipt}
    (accepted : acceptedContextOf plane request.workUnitId = .ok context)
    (ensured : Ensures (ensureUsageEntry platform draws request) plane
      (fun result left => result = .ok usage ∧ left = between))
    (loaded : request.routebook = .ok routebook)
    (named : Json.subscripted usage.body "usage_ledger_entry_id" = .ok usageLedgerEntryId)
    (unanswered : getReceipt between
      (receiptId platform (.str context.resultEnvelopeId) usageLedgerEntryId) = .ok none)
    (built : buildReceipt platform (draws.utcText 2) context usage.body
      (previousReceiptHash between context.resultEnvelopeId) routebook = .ok receipt)
    (insertable : Insertable receipt between)
    (fresh : between.db.eventOutbox.find? ("evt_" ++ draws.uuid 3) = none) :
    ∃ receipts outbox, receipts.entries =
        between.auditReceipts.entries ++ [(receipt.auditReceiptId, receiptRow receipt)] ∧
      (Ensures (createForWorkUnit platform draws request) plane (fun result left =>
        result = .ok ⟨.obj receipt.modelDump, receipt.receiptHash, none⟩ ∧
          left = { between with
            results := between.results.withEvents outbox
            auditReceipts := receipts })) ∧
      ∀ eventId, eventId ≠ "evt_" ++ draws.uuid 3 →
        outbox.find? eventId = between.db.eventOutbox.find? eventId := by
  obtain ⟨receipts, outbox, appended, stored, others⟩ :=
    insertReceiptWrites_returns draws insertable fresh
  refine ⟨receipts, outbox, appended, ?_, others⟩
  refine (reads_acceptedContext _ _).goesOn accepted ?_
  refine Ensures.bind (ensured.mono ?_)
  rintro result left ⟨rfl, rfl⟩
  refine (reads_ofExcept _).goesOn loaded ?_
  refine (reads_ofExcept _).goesOn named ?_
  refine (reads_fetch _).goesOn unanswered ?_
  refine (reads_fetch _).goesOn rfl ?_
  refine (reads_ofExcept _).goesOn built ?_
  refine Ensures.bind (ensures_transaction _ _ ?_ ?_)
  · intro value changed ran
    obtain ⟨rfl, rfl⟩ := Prod.mk.inj (Except.ok.inj (stored.symm.trans ran))
    exact ensures_pure _ ⟨rfl, rfl⟩
  · intro error raised
    rw [stored] at raised
    cases raised

/-- Asking for a receipt is one way to go on from any run. -/
theorem asked_reached (platform : ResultsPlatform) (plane : LedgerPlane)
    (moves : List (Store.Move LedgerOp)) {left : LedgerPlane} {draws : Draws}
    {request : ReceiptRequest} {answer : ReceiptAnswer}
    (given : Ensures (createForWorkUnit platform draws request) (reached platform plane moves).store
      (fun result after => result = .ok answer ∧ after = left)) :
    ∃ more, (reached platform plane (moves ++ more)).store = left := by
  obtain ⟨more, ends⟩ := Store.Pool.alone_reached (LedgerOp.program platform)
    (reached platform plane moves) (.createReceipt draws request)
  have asked : Ensures ((LedgerOp.createReceipt draws request).program platform)
      (reached platform plane moves).store (fun _ after => after = left) := by
    refine Ensures.bind (given.mono ?_)
    rintro result after ⟨rfl, rfl⟩
    exact ensures_pure _ rfl
  refine ⟨more, ?_⟩
  rw [reached, Store.run_append]
  exact ends.trans asked.run

end Audit

end TokenBank
