import TokenBank.Backends.Execution
import TokenBank.Guarantees.Hashes
import TokenBank.Store.Transactions

/-!
# What executions return

An envelope is built exactly if the ids of its context are not blank, its status is a known
one and its output has no forbidden key. It has the output and the status it was built with.
A usage record is made exactly if its ids are not blank, and an error exactly if its texts
are not and its details have no forbidden key.
-/

namespace TokenBank

namespace Backends

/-- A text that must not be empty is taken exactly if something is left of it. -/
theorem nonEmptyStr_ok_iff (text result : String) : BaseModel.nonEmptyStr text = .ok result ↔
    BaseModel.stripped text ≠ "" ∧ BaseModel.stripped text = result := by
  rw [BaseModel.nonEmptyStr]
  split_ifs with blank
  · simp [blank]
  · simp [blank]

/-- A usage record is made exactly if its ids are not blank. -/
theorem makeUsageRecord_returns_iff (sha256 : String → String)
    (recordedAt workUnitId attemptId backendId : String) (costSource : CostSource)
    (costConfidence : CostConfidence) (estimatedCostMicros actualCostMicros : Nat)
    (inputUnits outputUnits : Nat) :
    (∃ usage, makeUsageRecord sha256 recordedAt workUnitId attemptId backendId costSource
      costConfidence estimatedCostMicros actualCostMicros inputUnits outputUnits = .ok usage) ↔
      BaseModel.stripped workUnitId ≠ "" ∧ BaseModel.stripped attemptId ≠ "" ∧
        BaseModel.stripped backendId ≠ "" := by
  have identifier (text : String) : BaseModel.stripped ("usage_" ++ text) ≠ "" :=
    stripped_filled _ 'u' (by simp) (by decide)
  simp only [makeUsageRecord, Store.bind_ok_iff, nonEmptyStr_ok_iff]
  constructor
  · rintro ⟨-, -, -, -, ⟨unit, -⟩, -, ⟨attempt, -⟩, -, ⟨backend, -⟩, -⟩
    exact ⟨unit, attempt, backend⟩
  · rintro ⟨unit, attempt, backend⟩
    exact ⟨_, _, ⟨identifier _, rfl⟩, _, ⟨unit, rfl⟩, _, ⟨attempt, rfl⟩, _, ⟨backend, rfl⟩, rfl⟩

section Building

variable (library : ModelLibrary) (sha256 : String → String) (context : BackendExecutionContext)
  (output : JsonObject) (usageRecords : List UsageRecord) (startedAt completedAt : Datetime)
  (status : ResultEnvelopeStatus) (errors : List BackendError) (redactedLogs : List String)
  (providerId modelId : Option String)

/-- The status with the text of a status is that status. -/
theorem status_found : ResultEnvelopeStatus.literals.find?
    (fun literal => literal.text = status.text) = some status := by
  cases status <;> rfl

/-- A built envelope has the output and the status it was built with. Neither is the output
refused, nor is one of the ids blank. -/
theorem built_output (envelope : WorkUnitResultEnvelope)
    (built : Adapter.buildResultEnvelope library sha256 context output usageRecords startedAt
      completedAt status.text errors redactedLogs providerId modelId = .ok envelope) :
    envelope.output = library.mapping output ∧ envelope.status = status ∧
      BaseModel.hasForbiddenKey (.obj output) = false ∧
      ∀ id ∈ [context.workUnitId, context.runId, context.attemptId, context.assignmentId,
        context.backendId], BaseModel.stripped id ≠ "" := by
  unfold Adapter.buildResultEnvelope at built
  simp only [status_found] at built
  split at built
  · cases built
  · rename_i fine
    rw [not_or, Bool.not_eq_true] at fine
    have same_envelope := Except.ok.inj built
    subst same_envelope
    refine ⟨rfl, rfl, fine.1, ?_⟩
    intro id listed blank
    exact fine.2 ⟨id, List.mem_cons_of_mem _ (List.mem_append_left [_, _] listed), blank⟩

/-- An envelope is built from an allowed output if the ids of its context are not blank. -/
theorem builds (platform : VerifierPlatform) (named : ∀ text, Named (platform.sha256 text))
    (allowed : BaseModel.hasForbiddenKey (.obj output) = false)
    (filled : ∀ id ∈ [context.workUnitId, context.runId, context.attemptId,
      context.assignmentId, context.backendId], BaseModel.stripped id ≠ "") :
    ∃ envelope, Adapter.buildResultEnvelope library platform.sha256 context output usageRecords
      startedAt completedAt status.text errors redactedLogs providerId modelId = .ok envelope :=
  Hashes.buildResultEnvelope_ok status named (status_found status) allowed filled

/-- An envelope is built exactly if its output is allowed and its ids are not blank. -/
theorem built_returns_iff (named : ∀ text, Named (sha256 text)) :
    (∃ envelope, Adapter.buildResultEnvelope library sha256 context output usageRecords startedAt
      completedAt status.text errors redactedLogs providerId modelId = .ok envelope) ↔
      BaseModel.hasForbiddenKey (.obj output) = false ∧
      ∀ id ∈ [context.workUnitId, context.runId, context.attemptId, context.assignmentId,
        context.backendId], BaseModel.stripped id ≠ "" := by
  constructor
  · rintro ⟨envelope, built⟩
    exact (built_output library sha256 context output usageRecords startedAt completedAt status
      errors redactedLogs providerId modelId envelope built).2.2
  · rintro ⟨allowed, filled⟩
    exact builds library context output usageRecords startedAt completedAt status errors
      redactedLogs providerId modelId ⟨sha256, fun _ _ => .ok none⟩ named allowed filled

end Building

/-! ## Keys of adapters -/

/-- The keys of the outputs of adapters and of the details of their errors. -/
def adapterKeys : List String :=
  ["ok", "reason", "tool", "url", "scheme", "host", "network_checked", "local_tool_stub",
    "phase0_local_stub", "task_type", "script_hash", "extracted", "prompt_injection_detected",
    "fetched", "untrusted_content", "browser_fetch_scaffold", "source", "title", "text_preview",
    "redirect_host", "label", "confidence", "allowed_labels", "gateway", "provider_call_executed",
    "control_plane_only", "deterministic_stub", "claims", "source_ids", "allowed_claim_types",
    "claim_text", "entity", "claim_type", "source_post_refs", "evidence_hint", "structured_output",
    "worker_id", "capacity_node_id", "provider_id"]

/-- No key of an adapter is one that no document may have. -/
theorem adapterKeys_allowed :
    adapterKeys.all (fun name => !BaseModel.forbiddenKey name) = true := by
  decide +kernel

/-- A key of an adapter is allowed. -/
theorem adapterKey_allowed (key : String) (listed : adapterKeys.contains key = true) :
    BaseModel.forbiddenKey key = false := by
  have allowed := List.all_eq_true.mp adapterKeys_allowed key (List.contains_iff_mem.mp listed)
  simpa using allowed

/-- Whether members under keys of adapters have a forbidden key depends on their values. -/
theorem hasForbiddenKey_adapter (fields : JsonObject) (names : List String)
    (keys : fields.map Prod.fst = names) (listed : names.all adapterKeys.contains = true) :
    BaseModel.hasForbiddenKey (.obj fields) =
      (fields.map Prod.snd).any BaseModel.hasForbiddenKey := by
  apply hasForbiddenKey_named fields names keys
  rw [List.all_eq_true] at listed ⊢
  intro name member
  rw [adapterKey_allowed name (listed name member)]
  rfl

/-! ## Computations that return -/

/-- A computation returns a value, and raises no exception. -/
def Returns {α : Type} (computed : Except Raised α) : Prop := ∃ value, computed = .ok value

/-- A sequence of computations returns exactly through its first one. -/
theorem returns_bind_iff {α β : Type} (computed : Except Raised α) (rest : α → Except Raised β) :
    Returns (computed >>= rest) ↔ ∃ value, computed = .ok value ∧ Returns (rest value) := by
  simp only [Returns, Store.bind_ok_iff]
  constructor
  · rintro ⟨result, value, first, later⟩
    exact ⟨value, first, result, later⟩
  · rintro ⟨value, first, result, later⟩
    exact ⟨result, value, first, later⟩

/-- What decides whether computations behind one that returns do so too, decides it for all. -/
theorem returns_bind_settled {α β : Type} {computed : Except Raised α}
    {rest : α → Except Raised β} {property : Prop} (returns : Returns computed)
    (settled : ∀ value, Returns (rest value) ↔ property) :
    Returns (computed >>= rest) ↔ property := by
  obtain ⟨value, first⟩ := returns
  rw [first]
  exact settled value

mutual
/-- What looks like a secret is replaced by a text without keys. -/
theorem redactBackendValue_allowed (value : Json) (allowed : BaseModel.hasForbiddenKey value = false) :
    BaseModel.hasForbiddenKey (redactBackendValue value) = false := by
  cases value with
  | obj fields => exact redactBackendFields_allowed fields allowed
  | arr items => exact redactBackendItems_allowed items allowed
  | _ => rfl

/-- Items without forbidden keys are replaced by such items. -/
theorem redactBackendItems_allowed (items : List Json)
    (allowed : BaseModel.itemsForbidden items = false) :
    BaseModel.itemsForbidden (redactBackendItems items) = false := by
  cases items with
  | nil => rfl
  | cons item rest =>
    rw [BaseModel.itemsForbidden, Bool.or_eq_false_iff] at allowed
    rw [redactBackendItems, BaseModel.itemsForbidden, redactBackendValue_allowed item allowed.1,
      redactBackendItems_allowed rest allowed.2]
    rfl

/-- Members keep their keys. -/
theorem redactBackendFields_allowed (fields : List (String × Json))
    (allowed : BaseModel.fieldsForbidden fields = false) :
    BaseModel.fieldsForbidden (redactBackendFields fields) = false := by
  cases fields with
  | nil => rfl
  | cons field rest =>
    obtain ⟨key, value⟩ := field
    rw [BaseModel.fieldsForbidden, Bool.or_eq_false_iff, Bool.or_eq_false_iff] at allowed
    rw [redactBackendFields, BaseModel.fieldsForbidden, allowed.1.1,
      redactBackendFields_allowed rest allowed.2]
    split_ifs
    · rfl
    · rw [redactBackendValue_allowed value allowed.1.2]
      rfl
end

/-- An error is made if its texts are not blank and its details are allowed. -/
theorem normalizeBackendError_returns (library : ModelLibrary)
    (occurredAt errorCode errorMessage : String) (retryable fallbackable : Bool)
    (details : JsonObject) (coded : BaseModel.stripped errorCode ≠ "")
    (worded : BaseModel.stripped errorMessage ≠ "")
    (allowed : BaseModel.hasForbiddenKey (.obj details) = false) :
    Returns (normalizeBackendError library occurredAt errorCode errorMessage retryable fallbackable
      details) := by
  have kept : BaseModel.hasForbiddenKey (.obj (redactBackendFields details)) = false :=
    redactBackendFields_allowed details allowed
  simp only [Returns, normalizeBackendError, Store.bind_ok_iff, nonEmptyStr_ok_iff,
    BaseModel.rejectForbiddenKeys, kept]
  exact ⟨_, (), rfl, _, ⟨coded, rfl⟩, _, ⟨worded, rfl⟩, rfl⟩

section Executions

variable (platform : BackendPlatform) (context : ExecutionContext)

/-- An envelope with an allowed output is built exactly if the ids of its context are not
blank. -/
theorem envelope_returns_iff (output : JsonObject) (usageRecords : List UsageRecord)
    (startedAt completedAt : Datetime) (status : ResultEnvelopeStatus)
    (errors : List BackendError) (redactedLogs : List String) (providerId modelId : Option String)
    (allowed : BaseModel.hasForbiddenKey (.obj output) = false) :
    Returns (Adapter.buildResultEnvelope platform.library platform.sha256
      context.toBackendExecutionContext output usageRecords startedAt completedAt status.text errors
      redactedLogs providerId modelId) ↔ context.Identified := by
  rw [Returns, built_returns_iff platform.library platform.sha256
    context.toBackendExecutionContext output usageRecords startedAt completedAt status errors
    redactedLogs providerId modelId platform.named]
  exact and_iff_right allowed

/-- An execution whose rest returns exactly if the ids are not blank and something else holds,
returns exactly then. -/
theorem execution_returns_iff (recordedAt : String) (costSource : CostSource)
    (costConfidence : CostConfidence) (estimatedCostMicros actualCostMicros : Nat)
    (rest : UsageRecord → Except Raised WorkUnitResultEnvelope) (property : Prop)
    (settled : ∀ usage, Returns (rest usage) ↔ context.Identified ∧ property) :
    Returns (makeUsageRecord platform.sha256 recordedAt context.workUnitId context.attemptId
      context.backendId costSource costConfidence estimatedCostMicros actualCostMicros >>= rest) ↔
      context.Identified ∧ property := by
  constructor
  · intro returns
    obtain ⟨usage, -, later⟩ := (returns_bind_iff _ rest).mp returns
    exact (settled usage).mp later
  · rintro ⟨identified, holds⟩
    have used : Returns (makeUsageRecord platform.sha256 recordedAt context.workUnitId
        context.attemptId context.backendId costSource costConfidence estimatedCostMicros
        actualCostMicros) :=
      (makeUsageRecord_returns_iff platform.sha256 recordedAt context.workUnitId context.attemptId
        context.backendId costSource costConfidence estimatedCostMicros actualCostMicros 0 0).mpr
        ⟨identified _ (by simp), identified _ (by simp), identified _ (by simp)⟩
    exact (returns_bind_settled used settled).mpr ⟨identified, holds⟩

end Executions

end Backends

end TokenBank
