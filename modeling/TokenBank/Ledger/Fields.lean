import TokenBank.Core.Members
import TokenBank.Ledger.Usage
import TokenBank.Models.Documents

/-!
# The fields of a built entry

An entry that was built has the texts of its payload, each trimmed, and its numbers. Of these
the reported ones are there exactly if a provider reported them, and what is billed is the
reported cost if there is one, and else the estimated one.
-/

namespace TokenBank

open Validation Canonical

/-- Every field of an entry is read from a document. -/
structure UsageLedgerEntry.Reads (library : ModelLibrary) (fields : JsonObject)
    (entry : UsageLedgerEntry) : Prop where
  usageLedgerEntryId : required nonEmptyStr fields "usage_ledger_entry_id" =
    some entry.usageLedgerEntryId
  workUnitId : required nonEmptyStr fields "work_unit_id" = some entry.workUnitId
  runId : required nonEmptyStr fields "run_id" = some entry.runId
  routePlanId : required nonEmptyStr fields "route_plan_id" = some entry.routePlanId
  resultEnvelopeId : required nonEmptyStr fields "result_envelope_id" = some entry.resultEnvelopeId
  verifierReportId : defaulted none (optional nonEmptyStr) fields "verifier_report_id" =
    some entry.verifierReportId
  accountSnapshotId : defaulted none (optional nonEmptyStr) fields "account_snapshot_id" =
    some entry.accountSnapshotId
  routebookId : defaulted "tokenbank.base" nonEmptyStr fields "routebook_id" =
    some entry.routebookId
  routebookVersion : defaulted "unknown" nonEmptyStr fields "routebook_version" =
    some entry.routebookVersion
  capacityNodeId : defaulted none (optional nonEmptyStr) fields "capacity_node_id" =
    some entry.capacityNodeId
  capacityProfileId : defaulted none (optional nonEmptyStr) fields "capacity_profile_id" =
    some entry.capacityProfileId
  backendId : defaulted none (optional nonEmptyStr) fields "backend_id" = some entry.backendId
  providerId : defaulted none (optional str) fields "provider_id" = some entry.providerId
  modelId : defaulted none (optional str) fields "model_id" = some entry.modelId
  estimatedInputTokens : defaulted 0 nonNegativeInt fields "estimated_input_tokens" =
    some entry.estimatedInputTokens
  estimatedOutputTokens : defaulted 0 nonNegativeInt fields "estimated_output_tokens" =
    some entry.estimatedOutputTokens
  estimatedTotalTokens : defaulted 0 nonNegativeInt fields "estimated_total_tokens" =
    some entry.estimatedTotalTokens
  reportedInputTokens : defaulted none (optional nonNegativeInt) fields "reported_input_tokens" =
    some entry.reportedInputTokens
  reportedOutputTokens : defaulted none (optional nonNegativeInt) fields "reported_output_tokens" =
    some entry.reportedOutputTokens
  reportedTotalTokens : defaulted none (optional nonNegativeInt) fields "reported_total_tokens" =
    some entry.reportedTotalTokens
  estimatedCostMicros : defaulted 0 nonNegativeInt fields "estimated_cost_micros" =
    some entry.estimatedCostMicros
  reportedCostMicros : defaulted none (optional nonNegativeInt) fields "reported_cost_micros" =
    some entry.reportedCostMicros
  billableCostMicros : defaulted 0 nonNegativeInt fields "billable_cost_micros" =
    some entry.billableCostMicros
  usageSource : defaulted .estimate (literal [.estimate, .providerResponse, .manual]
    UsageLedgerSource.text) fields "usage_source" = some entry.usageSource
  costSource : defaulted .estimated (literal [.estimated, .providerReported, .manual,
    .notApplicable] UsageCostSource.text) fields "cost_source" = some entry.costSource
  verifierRecommendation : defaulted none (optional (literal recommendationTexts id)) fields
    "verifier_recommendation" = some entry.verifierRecommendation
  entryHash : required nonEmptyStr fields "entry_hash" = some entry.entryHash
  createdAt : defaulted library.now (datetime library) fields "created_at" = some entry.createdAt

/-- A validated entry has its fields from the document. -/
theorem UsageLedgerEntry.reads_of_validated {library : ModelLibrary} {fields : JsonObject}
    {entry : UsageLedgerEntry} (validated : modelValidate library (.obj fields) = some entry) :
    Reads library fields entry := by
  obtain ⟨members, read, rest⟩ := Option.bind_eq_some_iff.mp validated
  obtain ⟨usageLedgerEntryId, usageLedgerEntryIdRead, rest⟩ := Option.bind_eq_some_iff.mp rest
  obtain ⟨workUnitId, workUnitIdRead, rest⟩ := Option.bind_eq_some_iff.mp rest
  obtain ⟨runId, runIdRead, rest⟩ := Option.bind_eq_some_iff.mp rest
  obtain ⟨routePlanId, routePlanIdRead, rest⟩ := Option.bind_eq_some_iff.mp rest
  obtain ⟨resultEnvelopeId, resultEnvelopeIdRead, rest⟩ := Option.bind_eq_some_iff.mp rest
  obtain ⟨verifierReportId, verifierReportIdRead, rest⟩ := Option.bind_eq_some_iff.mp rest
  obtain ⟨accountSnapshotId, accountSnapshotIdRead, rest⟩ := Option.bind_eq_some_iff.mp rest
  obtain ⟨routebookId, routebookIdRead, rest⟩ := Option.bind_eq_some_iff.mp rest
  obtain ⟨routebookVersion, routebookVersionRead, rest⟩ := Option.bind_eq_some_iff.mp rest
  obtain ⟨capacityNodeId, capacityNodeIdRead, rest⟩ := Option.bind_eq_some_iff.mp rest
  obtain ⟨capacityProfileId, capacityProfileIdRead, rest⟩ := Option.bind_eq_some_iff.mp rest
  obtain ⟨backendId, backendIdRead, rest⟩ := Option.bind_eq_some_iff.mp rest
  obtain ⟨providerId, providerIdRead, rest⟩ := Option.bind_eq_some_iff.mp rest
  obtain ⟨modelId, modelIdRead, rest⟩ := Option.bind_eq_some_iff.mp rest
  obtain ⟨estimatedInputTokens, estimatedInputTokensRead, rest⟩ := Option.bind_eq_some_iff.mp rest
  obtain ⟨estimatedOutputTokens, estimatedOutputTokensRead, rest⟩ := Option.bind_eq_some_iff.mp rest
  obtain ⟨estimatedTotalTokens, estimatedTotalTokensRead, rest⟩ := Option.bind_eq_some_iff.mp rest
  obtain ⟨reportedInputTokens, reportedInputTokensRead, rest⟩ := Option.bind_eq_some_iff.mp rest
  obtain ⟨reportedOutputTokens, reportedOutputTokensRead, rest⟩ := Option.bind_eq_some_iff.mp rest
  obtain ⟨reportedTotalTokens, reportedTotalTokensRead, rest⟩ := Option.bind_eq_some_iff.mp rest
  obtain ⟨estimatedCostMicros, estimatedCostMicrosRead, rest⟩ := Option.bind_eq_some_iff.mp rest
  obtain ⟨reportedCostMicros, reportedCostMicrosRead, rest⟩ := Option.bind_eq_some_iff.mp rest
  obtain ⟨billableCostMicros, billableCostMicrosRead, rest⟩ := Option.bind_eq_some_iff.mp rest
  obtain ⟨usageSource, usageSourceRead, rest⟩ := Option.bind_eq_some_iff.mp rest
  obtain ⟨costSource, costSourceRead, rest⟩ := Option.bind_eq_some_iff.mp rest
  obtain ⟨verifierRecommendation, verifierRecommendationRead, rest⟩ :=
    Option.bind_eq_some_iff.mp rest
  obtain ⟨entryHash, entryHashRead, rest⟩ := Option.bind_eq_some_iff.mp rest
  obtain ⟨createdAt, createdAtRead, rest⟩ := Option.bind_eq_some_iff.mp rest
  obtain rfl := Option.some.inj rest
  obtain rfl := document_some read
  exact ⟨usageLedgerEntryIdRead, workUnitIdRead, runIdRead, routePlanIdRead, resultEnvelopeIdRead,
    verifierReportIdRead, accountSnapshotIdRead, routebookIdRead, routebookVersionRead,
    capacityNodeIdRead, capacityProfileIdRead, backendIdRead, providerIdRead, modelIdRead,
    estimatedInputTokensRead, estimatedOutputTokensRead, estimatedTotalTokensRead,
    reportedInputTokensRead, reportedOutputTokensRead, reportedTotalTokensRead,
    estimatedCostMicrosRead, reportedCostMicrosRead, billableCostMicrosRead, usageSourceRead,
    costSourceRead, verifierRecommendationRead, entryHashRead, createdAtRead⟩

namespace Ledger

variable {platform : ResultsPlatform} {now : String} {context : CompletedContext}
  {accountSnapshotId : Option String} {routebook : Routebook} {entry : UsageLedgerEntry}

/-- The document that an entry is validated from. -/
def hashedPayload (platform : ResultsPlatform) (payload : JsonObject) : JsonObject :=
  payload ++
    [("entry_hash", .str (canonicalJsonHash platform.scheduler.sha256 (.obj payload)))]

/-- A built entry is read from its payload and the hash of that. -/
theorem buildUsageEntry_ok
    (built : buildUsageEntry platform now context accountSnapshotId routebook = .ok entry) :
    ∃ parts, usageParts platform context = .ok parts ∧
      entry.Reads { platform.library with now := now } (hashedPayload platform
        (usagePayload platform context parts accountSnapshotId routebook)) := by
  obtain ⟨parts, taken, rest⟩ := (Store.bind_ok_iff _ _ _).mp built
  refine ⟨parts, taken, UsageLedgerEntry.reads_of_validated ?_⟩
  dsimp only at rest
  split at rest
  · rename_i validated found
    obtain rfl := Except.ok.inj rest
    exact found
  · cases rest

/-- The figures of an entry agree with each other. -/
structure Coherent (entry : UsageLedgerEntry) : Prop where
  total : entry.estimatedTotalTokens = entry.estimatedInputTokens + entry.estimatedOutputTokens
  billed : entry.billableCostMicros = entry.reportedCostMicros.getD entry.estimatedCostMicros
  sources : (entry.usageSource = .providerResponse ∧ entry.costSource = .providerReported ∧
      entry.reportedCostMicros.isSome ∧
      entry.reportedInputTokens = some entry.estimatedInputTokens ∧
      entry.reportedOutputTokens = some entry.estimatedOutputTokens ∧
      entry.reportedTotalTokens = some entry.estimatedTotalTokens) ∨
    (entry.usageSource = .estimate ∧
      entry.costSource = (if 0 < entry.estimatedCostMicros then .estimated else .notApplicable) ∧
      entry.reportedCostMicros = none ∧ entry.reportedInputTokens = none ∧
      entry.reportedOutputTokens = none ∧ entry.reportedTotalTokens = none)

/-- A source of figures is read from its text. -/
theorem literal_usageSource (source : UsageLedgerSource) :
    literal [.estimate, .providerResponse, .manual] UsageLedgerSource.text (.str source.text) =
      some source := by
  cases source <;> simp [literal, UsageLedgerSource.text]

/-- A source of costs is read from its text. -/
theorem literal_usageCostSource (source : UsageCostSource) :
    literal [.estimated, .providerReported, .manual, .notApplicable] UsageCostSource.text
      (.str source.text) = some source := by
  cases source <;> simp [literal, UsageCostSource.text]

/-- The figures of a built entry are those of the amounts, and agree with each other. -/
theorem coherent_built
    (built : buildUsageEntry platform now context accountSnapshotId routebook = .ok entry) :
    Coherent entry := by
  obtain ⟨parts, -, reads⟩ := buildUsageEntry_ok built
  have number (value read : Nat) (same : nonNegativeInt (.nat value) = some read) : read = value :=
    Option.some.inj (same.symm.trans (nonNegativeInt_nat value))
  have reported (value read : Option Nat)
      (same : Validation.optional nonNegativeInt (.optionalNat value) = some read) : read = value :=
    Option.some.inj (same.symm.trans (optional_nat value))
  have input := number _ _ (defaulted_member rfl reads.estimatedInputTokens)
  have output := number _ _ (defaulted_member rfl reads.estimatedOutputTokens)
  have total := number _ _ (defaulted_member rfl reads.estimatedTotalTokens)
  have estimated := number _ _ (defaulted_member rfl reads.estimatedCostMicros)
  have billable := number _ _ (defaulted_member rfl reads.billableCostMicros)
  have reportedInput := reported _ _ (defaulted_member rfl reads.reportedInputTokens)
  have reportedOutput := reported _ _ (defaulted_member rfl reads.reportedOutputTokens)
  have reportedTotal := reported _ _ (defaulted_member rfl reads.reportedTotalTokens)
  have reportedCost := reported _ _ (defaulted_member rfl reads.reportedCostMicros)
  have source : entry.usageSource = parts.amounts.usageSource := by
    have read := defaulted_member rfl reads.usageSource
    exact Option.some.inj (read.symm.trans (literal_usageSource _))
  have costs : entry.costSource = parts.amounts.costSource := by
    have read := defaulted_member rfl reads.costSource
    exact Option.some.inj (read.symm.trans (literal_usageCostSource _))
  refine ⟨by rw [total, input, output], ?_, ?_⟩
  · rw [billable, reportedCost, estimated, UsageAmounts.billable, UsageAmounts.reported]
    split <;> rfl
  · rw [source, costs, reportedCost, reportedInput, reportedOutput, reportedTotal, estimated,
      input, output, total]
    unfold UsageAmounts.usageSource UsageAmounts.costSource UsageAmounts.reported
    cases parts.amounts.providerReported with
    | true => exact .inl ⟨rfl, rfl, rfl, rfl, rfl, rfl⟩
    | false => exact .inr ⟨rfl, rfl, rfl, rfl, rfl, rfl⟩

/-! ## Documents of entries -/

/-- A plain document is loaded with its members in the order of their keys. -/
theorem loads_plain {body : Json} (written : plain body = true) :
    loads body = .ok (ordered body) := by
  rw [loads, jsonLoads_canonicalJsonDumps _ written]

/-- A member that is there can be subscripted. -/
theorem subscripted_of_member {fields : JsonObject} {key : String} {value : Json}
    (here : member fields key = some value) : Json.subscripted (.obj fields) key = .ok value := by
  obtain ⟨field, found, rfl⟩ := Option.map_eq_some_iff.mp here
  have named : decide (field.1 = key) = true :=
    @List.find?_some _ (fun field : String × Json => decide (field.1 = key)) _ _ found
  have present : Json.has fields key = true :=
    List.any_eq_true.mpr ⟨field, List.mem_of_find?_eq_some found, named⟩
  rw [Json.subscripted, Json.item, if_pos present, Json.get, found]
  rfl

/-- The text of a member of a document, also when the document is read back. -/
theorem subscripted_loaded {fields : JsonObject} (written : plain (.obj fields) = true)
    {key text : String} (here : member fields key = some (.str text)) {document : Json}
    (loaded : loads (.obj fields) = .ok document) :
    Json.subscripted document key = .ok (.str text) := by
  have distinct := plain_distinct written
  rw [loads_plain written] at loaded
  obtain rfl := Except.ok.inj loaded
  rw [ordered_obj]
  refine subscripted_of_member ((member_ordered fields distinct key).trans ?_)
  rw [here]
  rfl

/-- The id and the hash of a built entry have a name's form. -/
theorem entry_named
    (built : buildUsageEntry platform now context accountSnapshotId routebook = .ok entry) :
    Named entry.usageLedgerEntryId ∧ Named entry.entryHash := by
  obtain ⟨parts, -, reads⟩ := buildUsageEntry_ok built
  obtain ⟨value, -, read⟩ := Option.bind_eq_some_iff.mp reads.usageLedgerEntryId
  obtain ⟨hash, -, hashRead⟩ := Option.bind_eq_some_iff.mp reads.entryHash
  exact ⟨(nonEmptyStr_some read).2, (nonEmptyStr_some hashRead).2⟩

/-- The document of an entry is plain. -/
theorem plain_entry (entry : UsageLedgerEntry) : plain (.obj entry.modelDump) = true := by
  apply plain_obj _ ("schema_version" :: UsageLedgerEntry.fieldNames) rfl (by decide)
  have numbers (value : Option Nat) : plain (.optionalNat value) = true := by cases value <;> rfl
  simp [UsageLedgerEntry.modelDump, plainFields, schemaVersion, numbers, plain]

end Ledger

end TokenBank
