import TokenBank.Backends.Adapter
import TokenBank.Models.Revalidation
import TokenBank.Verifier.Checks

/-!
# Hashes built and hashes checked

The builder of an envelope hashes the context it is given. The verifier hashes the envelope
it receives, which a model has trimmed, whose backend class is a known one or none, and
which has been written as canonical JSON, parsed and validated in between. The two agree
exactly on contexts and outputs that the model leaves as they are.
-/

namespace TokenBank

open Canonical

namespace Hashes

/-- A digest tells two texts apart. -/
def Separates (sha256 : String → String) (left right : String) : Prop :=
  sha256 left = sha256 right → left = right

/-- The text that an output hash is the digest of. -/
def outputText (output : Json) : String :=
  canonicalJsonDumps (.obj [("kind", .str "tokenbank.output.v1"), ("output", output)])

/-- The text that a result hash is the digest of. -/
def resultText (result : Json) : String :=
  canonicalJsonDumps (.obj [("kind", .str "tokenbank.result.v1"), ("result", result)])

/-- The verifier reports both hashes as valid. -/
def HashesPass (platform : VerifierPlatform) (envelope : WorkUnitResultEnvelope) : Prop :=
  (Checks.checkHashes platform envelope).map (fun check => (check.name, check.status)) =
    [("output_hash_valid", .passed), ("result_hash_valid", .passed)]
  deriving Decidable

/-! ## Texts of payloads -/

/-- Objects with one canonical text have the same members, up to their order. -/
theorem get_of_same_text (left right : JsonObject) (plainLeft : plain (.obj left) = true)
    (plainRight : plain (.obj right) = true)
    (same : canonicalJsonDumps (.obj left) = canonicalJsonDumps (.obj right)) (key : String) :
    ordered (Json.get left key) = ordered (Json.get right key) := by
  have same_ordered := ordered_of_same_text _ _ plainLeft plainRight same
  rw [ordered_obj, ordered_obj, Json.obj.injEq] at same_ordered
  rw [plain, Bool.and_eq_true, decide_eq_true_eq] at plainLeft plainRight
  rw [← get_ordered left plainLeft.1, ← get_ordered right plainRight.1, same_ordered]

/-- A value under a kind is plain. -/
theorem plain_kind (kind key : String) (value : Json) (apart : "kind" ≠ key)
    (written : plain value = true) : plain (.obj [("kind", .str kind), (key, value)]) = true := by
  simp [plain, plainFields, apart, written]

/-- Values under one kind have one text exactly if they have one text. -/
theorem kind_text_iff (kind key : String) (left right : Json) (apart : "kind" ≠ key)
    (plainLeft : plain left = true) (plainRight : plain right = true) :
    canonicalJsonDumps (.obj [("kind", .str kind), (key, left)]) =
        canonicalJsonDumps (.obj [("kind", .str kind), (key, right)]) ↔
      canonicalJsonDumps left = canonicalJsonDumps right := by
  constructor
  · intro same
    have same_ordered := get_of_same_text _ _ (plain_kind kind key left apart plainLeft)
      (plain_kind kind key right apart plainRight) same key
    simp only [Json.get, List.find?, apart, decide_false, decide_true, Option.map_some,
      Option.getD_some] at same_ordered
    rw [← canonicalJsonDumps_ordered left, same_ordered, canonicalJsonDumps_ordered]
  · intro same
    simp only [canonicalJsonDumps, dumpsFields, same]

/-- A digest tells the texts of two payloads apart, and hence their members. -/
theorem fields_of_same_hash (sha256 : String → String) (left right : JsonObject)
    (plainLeft : plain (.obj left) = true) (plainRight : plain (.obj right) = true)
    (separates : Separates sha256 (resultText (.obj left)) (resultText (.obj right)))
    (same : resultHash sha256 (.obj left) = resultHash sha256 (.obj right)) (key : String) :
    ordered (Json.get left key) = ordered (Json.get right key) := by
  have same_text := separates same
  rw [resultText, resultText, kind_text_iff _ _ _ _ (by decide) plainLeft plainRight] at same_text
  exact get_of_same_text left right plainLeft plainRight same_text key

/-! ## Checking hashes -/

section Checking

variable (platform : VerifierPlatform) (envelope : WorkUnitResultEnvelope)

/-- A hash is reported as valid exactly if it is the expected one. -/
theorem checkHash_status (name message expected observed : String) :
    (Checks.checkHash name message expected observed).name = name ∧
      ((Checks.checkHash name message expected observed).status = .passed ↔ expected = observed) := by
  unfold Checks.checkHash
  split <;> simp [Checks.passedCheck, Checks.failedCheck, *]

/-- Both hashes are reported as valid exactly if there is an output hash and both are the
expected ones. -/
theorem hashesPass_iff : HashesPass platform envelope ↔ envelope.outputHash ≠ "" ∧
    Checks.expectedOutputHash platform envelope = envelope.outputHash ∧
    Checks.expectedEnvelopeResultHash platform envelope = envelope.resultHash := by
  unfold HashesPass Checks.checkHashes
  split
  · rename_i missing
    simp [missing]
  · rename_i present
    have output := checkHash_status "output_hash_valid" "output_hash does not match output"
      (Checks.expectedOutputHash platform envelope) envelope.outputHash
    have result := checkHash_status "result_hash_valid" "result_hash does not match result envelope"
      (Checks.expectedEnvelopeResultHash platform envelope) envelope.resultHash
    simp [present, output, result]

/-- The order of members in free-form mappings does not matter to the expected hashes. -/
theorem expectedHashes_reordered : Checks.expectedOutputHash platform envelope.reordered =
      Checks.expectedOutputHash platform envelope ∧
    Checks.expectedEnvelopeResultHash platform envelope.reordered =
      Checks.expectedEnvelopeResultHash platform envelope := by
  constructor
  · have same_text : canonicalJsonDumps (.obj (orderedMembers envelope.output)) =
        canonicalJsonDumps (.obj envelope.output) := by
      rw [orderedMembers, ← ordered_obj, canonicalJsonDumps_ordered]
    unfold Checks.expectedOutputHash outputHash canonicalJsonHash
    simp only [canonicalJsonDumps, dumpsFields, WorkUnitResultEnvelope.reordered] at same_text ⊢
    rw [same_text]
  · simp [Checks.expectedEnvelopeResultHash, Checks.resultPayload, WorkUnitResultEnvelope.reordered,
      BackendError.reordered, Function.comp_def]

/-- The order of members in free-form mappings does not matter to the checks. -/
theorem hashesPass_reordered :
    HashesPass platform envelope.reordered ↔ HashesPass platform envelope := by
  obtain ⟨output, result⟩ := expectedHashes_reordered platform envelope
  rw [hashesPass_iff, hashesPass_iff, output, result]
  rfl

/-- The payload of a result hash is plain. -/
theorem plain_resultPayload : plain (Checks.resultPayload envelope) = true := by
  have usages := plain_arr (fun usage : UsageRecord => Json.str usage.usageRecordId)
    envelope.usageRecords (fun _ _ => rfl)
  have errors := plain_arr (fun error : BackendError => Json.str error.errorCode)
    envelope.errors (fun _ _ => rfl)
  refine plain_obj _ ["work_unit_id", "attempt_id", "assignment_id", "backend_id", "backend_class",
    "output_hash", "status", "usage_record_ids", "error_codes"] rfl (by decide) ?_
  simp only [plainFields, plain_str, plain_optional, usages, errors, Bool.and_true]

end Checking

/-! ## Building an envelope -/

/-- Validation leaves a context, an output and errors as they are: the class is known, the
identifiers that are hashed have no blanks around them, nor has a key of the output where
such keys are trimmed, and no trimmed key of an error's details is a forbidden one. -/
structure Unchanged (library : ModelLibrary) (context : BackendExecutionContext)
    (output : JsonObject) (errors : List BackendError) : Prop where
  backendClass : context.backendClass ∈ Adapter.knownBackendClasses
  workUnitId : Trimmed context.workUnitId
  attemptId : Trimmed context.attemptId
  assignmentId : Trimmed context.assignmentId
  backendId : Trimmed context.backendId
  output : ∀ field ∈ output, library.key field.1 = field.1
  errors : ∀ error ∈ errors, BaseModel.hasForbiddenKey (.obj error.redactedDetails) = false

/-- The text of a backend class that is known is kept, and that of another one is lost. -/
theorem backendClassOrNone_text (value : String) :
    (Adapter.backendClassOrNone value).map BackendClass.text = some value ↔
      value ∈ Adapter.knownBackendClasses := by
  unfold Adapter.backendClassOrNone
  split
  · rename_i known
    simp only [Adapter.knownBackendClasses, List.mem_cons, List.not_mem_nil, or_false] at known
    rcases known with rfl | rfl | rfl | rfl | rfl | rfl <;> decide
  · rename_i unknown
    simpa using unknown

section Building

variable {library : ModelLibrary} {platform : VerifierPlatform}
  {context : BackendExecutionContext} {output : JsonObject} {usageRecords : List UsageRecord}
  {startedAt completedAt : Datetime} {status : String} {errors : List BackendError}
  {redactedLogs : List String} {providerId modelId : Option String}
  {envelope : WorkUnitResultEnvelope}

/-- The members of a built envelope that its hashes depend on. -/
structure Built (library : ModelLibrary) (platform : VerifierPlatform)
    (context : BackendExecutionContext) (raw : JsonObject) (usages : List UsageRecord)
    (given : String) (failures : List BackendError) (envelope : WorkUnitResultEnvelope) : Prop where
  workUnitId : envelope.workUnitId = BaseModel.stripped context.workUnitId
  attemptId : envelope.attemptId = BaseModel.stripped context.attemptId
  assignmentId : envelope.assignmentId = BaseModel.stripped context.assignmentId
  backendId : envelope.backendId = some (BaseModel.stripped context.backendId)
  backendClass : envelope.backendClass = Adapter.backendClassOrNone context.backendClass
  output : envelope.output = library.mapping raw
  outputHash : envelope.outputHash = outputHash platform.sha256 (.obj raw)
  resultHash : envelope.resultHash = resultHash platform.sha256 (Adapter.resultPayload context
    given (Canonical.outputHash platform.sha256 (.obj raw)) usages failures)
  status : envelope.status.text = given
  usageRecords : envelope.usageRecords = usages
  errors : envelope.errors = failures
  artifactRefs : envelope.artifactRefs = []
  backendError : envelope.backendError = failures.head?
  allowed : BaseModel.hasForbiddenKey (.obj raw) = false

/-- What the builder returns is a valid envelope with the hashes of the raw context. -/
theorem built_envelope (digests : ∀ text, Named (platform.sha256 text))
    (written : plain (.obj output) = true)
    (usages : ∀ usage ∈ usageRecords, usage.Valid library)
    (failures : ∀ error ∈ errors, error.Valid library)
    (started : library.Dated startedAt.text) (completed : library.Dated completedAt.text)
    (built : Adapter.buildResultEnvelope library platform.sha256 context output usageRecords
      startedAt completedAt status errors redactedLogs providerId modelId = .ok envelope) :
    envelope.Valid library ∧
      Built library platform context output usageRecords status errors envelope := by
  unfold Adapter.buildResultEnvelope at built
  simp only at built
  split at built
  · cases built
  · rename_i literal found
    split at built
    · cases built
    · rename_i fine
      rw [not_or, Bool.not_eq_true] at fine
      obtain ⟨allowed, filled⟩ := fine
      have named (text : String) (listed : BaseModel.stripped text ≠ "") :
          Named (BaseModel.stripped text) := ⟨trimmed_stripped text, listed⟩
      have same_envelope := Except.ok.inj built
      subst same_envelope
      simp only [List.mem_cons, List.not_mem_nil, or_false, exists_eq_or_imp, exists_eq_left,
        not_or] at filled
      obtain ⟨resultEnvelopeId, workUnitId, runId, attemptId, assignmentId, backendId, outHash,
        resHash⟩ := filled
      have trimmed_output : BaseModel.stripped (outputHash platform.sha256 (.obj output)) =
          outputHash platform.sha256 (.obj output) := (digests (outputText (.obj output))).1
      have trimmed_result (payload : Json) : BaseModel.stripped (resultHash platform.sha256 payload) =
          resultHash platform.sha256 payload := (digests (resultText payload)).1
      have status_text := List.find?_some found
      simp only [decide_eq_true_eq] at status_text
      constructor
      · exact
          { resultEnvelopeId := named _ resultEnvelopeId
            workUnitId := named _ workUnitId
            runId := named _ runId
            attemptId := named _ attemptId
            assignmentId := named _ assignmentId
            backendId := fun text same => Option.some.inj same ▸ named _ backendId
            providerId := by simp +contextual [trimmed_stripped, eq_comm]
            modelId := by simp +contextual [trimmed_stripped, eq_comm]
            workerId := by simp +contextual [trimmed_stripped, eq_comm]
            capacityNodeId := by simp +contextual [trimmed_stripped, eq_comm]
            output := library.settled_mapping output written
            outputHash := named _ outHash
            resultHash := named _ resHash
            artifactRefs := fun _ inNone => absurd inNone List.not_mem_nil
            usageRecords := usages
            redactedLogs := by simp +contextual [trimmed_stripped, eq_comm]
            errors := failures
            backendError := fun error first => failures error (List.mem_of_mem_head? first)
            startedAt := fun text same => Option.some.inj same ▸ started
            completedAt := completed }
      · exact
          { workUnitId := rfl
            attemptId := rfl
            assignmentId := rfl
            backendId := rfl
            backendClass := rfl
            output := rfl
            outputHash := trimmed_output
            resultHash := trimmed_result _
            status := status_text
            usageRecords := rfl
            errors := rfl
            artifactRefs := rfl
            backendError := rfl
            allowed := allowed }

/-- Where the class is known and the hashed identifiers have no blanks around them, the verifier
hashes the payload that the builder hashed. -/
theorem resultPayload_built
    (built : Built library platform context output usageRecords status errors envelope)
    (backendClass : context.backendClass ∈ Adapter.knownBackendClasses)
    (workUnitId : Trimmed context.workUnitId) (attemptId : Trimmed context.attemptId)
    (assignmentId : Trimmed context.assignmentId) (backendId : Trimmed context.backendId) :
    Checks.resultPayload envelope = Adapter.resultPayload context status
      (outputHash platform.sha256 (.obj output)) usageRecords errors := by
  rw [Checks.resultPayload, Adapter.resultPayload, built.workUnitId, built.attemptId,
    built.assignmentId, built.backendId, built.backendClass,
    (backendClassOrNone_text context.backendClass).mpr backendClass, built.outputHash,
    built.status, built.usageRecords, built.errors, workUnitId, attemptId, assignmentId, backendId]
  rfl

/-- The result hash of a built envelope is the expected one exactly if the class is known and
the hashed identifiers have no blanks around them. -/
theorem resultHash_expected_iff
    (built : Built library platform context output usageRecords status errors envelope)
    (apart : Separates platform.sha256 (resultText (Checks.resultPayload envelope))
      (resultText (Adapter.resultPayload context status (outputHash platform.sha256 (.obj output))
        usageRecords errors))) :
    Checks.expectedEnvelopeResultHash platform envelope = envelope.resultHash ↔
      context.backendClass ∈ Adapter.knownBackendClasses ∧ Trimmed context.workUnitId ∧
        Trimmed context.attemptId ∧ Trimmed context.assignmentId ∧ Trimmed context.backendId := by
  rw [built.resultHash, Checks.expectedEnvelopeResultHash,
    ← backendClassOrNone_text context.backendClass]
  have plainBuilt : plain (Adapter.resultPayload context status
      (outputHash platform.sha256 (.obj output)) usageRecords errors) = true := by
    have usages := plain_arr (fun usage : UsageRecord => Json.str usage.usageRecordId)
      usageRecords (fun _ _ => rfl)
    have failures := plain_arr (fun error : BackendError => Json.str error.errorCode)
      errors (fun _ _ => rfl)
    refine plain_obj _ ["work_unit_id", "attempt_id", "assignment_id", "backend_id",
      "backend_class", "output_hash", "status", "usage_record_ids", "error_codes"] rfl
      (by decide) ?_
    simp only [plainFields, plain_str, usages, failures, Bool.and_true]
  constructor
  · intro same
    have members := fields_of_same_hash platform.sha256 _ _ (plain_resultPayload envelope)
      plainBuilt apart same
    have workUnitId : Json.str envelope.workUnitId = .str context.workUnitId :=
      members "work_unit_id"
    have attemptId : Json.str envelope.attemptId = .str context.attemptId := members "attempt_id"
    have assignmentId : Json.str envelope.assignmentId = .str context.assignmentId :=
      members "assignment_id"
    have backendId : ordered (.optional envelope.backendId) = .str context.backendId :=
      members "backend_id"
    have backendClass : ordered (.optional (envelope.backendClass.map BackendClass.text)) =
        .str context.backendClass := members "backend_class"
    rw [built.workUnitId, Json.str.injEq] at workUnitId
    rw [built.attemptId, Json.str.injEq] at attemptId
    rw [built.assignmentId, Json.str.injEq] at assignmentId
    rw [built.backendId, Json.optional, ordered, Json.str.injEq] at backendId
    rw [built.backendClass] at backendClass
    refine ⟨?_, workUnitId, attemptId, assignmentId, backendId⟩
    cases kept : (Adapter.backendClassOrNone context.backendClass).map BackendClass.text with
    | none =>
      rw [kept] at backendClass
      cases backendClass
    | some text =>
      rw [kept, Json.optional, ordered, Json.str.injEq] at backendClass
      rw [backendClass]
  · rintro ⟨backendClass, workUnitId, attemptId, assignmentId, backendId⟩
    rw [resultPayload_built built ((backendClassOrNone_text _).mp backendClass) workUnitId attemptId
      assignmentId backendId]

/-- The output hash of a built envelope is the expected one exactly if validation leaves the
keys of the output alone. -/
theorem outputHash_expected_iff
    (built : Built library platform context output usageRecords status errors envelope)
    (written : plain (.obj output) = true)
    (apart : Separates platform.sha256 (outputText (.obj (library.mapping output)))
      (outputText (.obj output))) :
    Checks.expectedOutputHash platform envelope = envelope.outputHash ↔
      ∀ field ∈ output, library.key field.1 = field.1 := by
  rw [built.outputHash, Checks.expectedOutputHash, built.output]
  constructor
  · intro same
    have same_text := apart same
    rw [outputText, outputText, kind_text_iff _ _ _ _ (by decide)
      (library.settled_mapping output written).plain written] at same_text
    exact (library.mapping_text_iff output written).mp same_text.symm
  · intro keys
    rw [library.mapping_of_keys output written keys]

/-- The builder returns an envelope when it is given a status there is, an allowed output, and
identifiers that are not blank. -/
theorem buildResultEnvelope_ok (literal : ResultEnvelopeStatus)
    (digests : ∀ text, Named (platform.sha256 text))
    (found : ResultEnvelopeStatus.literals.find? (fun literal => literal.text = status) =
      some literal)
    (allowed : BaseModel.hasForbiddenKey (.obj output) = false)
    (filled : ∀ text ∈ [context.workUnitId, context.runId, context.attemptId,
      context.assignmentId, context.backendId], BaseModel.stripped text ≠ "") :
    ∃ envelope, Adapter.buildResultEnvelope library platform.sha256 context output usageRecords
      startedAt completedAt status errors redactedLogs providerId modelId = .ok envelope := by
  have digest (text : String) : BaseModel.stripped (platform.sha256 text) ≠ "" := by
    rw [(digests text).1]
    exact (digests text).2
  have identifier (text : String) : BaseModel.stripped ("res_" ++ text) ≠ "" :=
    stripped_filled _ 'r' (by simp) (by decide)
  unfold Adapter.buildResultEnvelope
  simp only [found]
  rw [if_neg]
  · exact ⟨_, rfl⟩
  · rintro (forbidden | ⟨text, listed, blank⟩)
    · exact Bool.noConfusion (allowed.symm.trans forbidden)
    · simp only [List.mem_cons, List.not_mem_nil, or_false] at listed
      rcases listed with rfl | rfl | rfl | rfl | rfl | rfl | rfl | rfl
      · exact identifier _ blank
      · exact filled _ (by simp) blank
      · exact filled _ (by simp) blank
      · exact filled _ (by simp) blank
      · exact filled _ (by simp) blank
      · exact filled _ (by simp) blank
      · exact digest _ blank
      · exact digest _ blank

end Building

/-! ## A sample execution -/

/-- The output of an unsupported backend. -/
def sampleOutput : JsonObject := [("ok", .bool false), ("reason", .str "unsupported_backend")]

/-- The usage of an unsupported backend. -/
def sampleUsage : UsageRecord :=
  { usageRecordId := "usage_8ea4f0e0de711ef9b23c8a55", workUnitId := "wu_a",
    attemptId := "attempt_a_1", backendId := "backend:a", recordedAt := "2026-01-01T00:00:00Z" }

/-- The error of an unsupported backend. -/
def sampleError : BackendError :=
  { errorCode := "backend.unsupported", errorMessage := "unsupported backend_class",
    fallbackable := true, redactedDetails := [("backend_id", .str "backend:a")],
    occurredAt := "2026-01-01T00:00:00Z" }

/-- An execution on a backend of some class. -/
def sampleContext (backendClass : String) : BackendExecutionContext :=
  { workUnitId := "wu_a", runId := "run_a", attemptId := "attempt_a_1",
    assignmentId := "assign_a", backendId := "backend:a", backendClass := backendClass }

/-- The members of the hashed payload of the sample result. -/
def samplePayload (backendClass : Json) : JsonObject :=
  [("work_unit_id", .str "wu_a"), ("attempt_id", .str "attempt_a_1"),
    ("assignment_id", .str "assign_a"), ("backend_id", .str "backend:a"),
    ("backend_class", backendClass),
    ("output_hash", .str "bac9c83d4717a3c85dad8a760f87459cd83e00baddba868e973626fa2051f656"),
    ("status", .str "failed"),
    ("usage_record_ids", .arr [.str "usage_8ea4f0e0de711ef9b23c8a55"]),
    ("error_codes", .arr [.str "backend.unsupported"])]

/-- The texts that the sample hashes, with their digests. -/
def sampleDigests : List (String × String) :=
  [(outputText (.obj sampleOutput),
      "bac9c83d4717a3c85dad8a760f87459cd83e00baddba868e973626fa2051f656"),
    (resultText (.obj (samplePayload (.str "unknown_backend"))),
      "95c68afc25d92888375939436588c508430eb6ddcdea0d0818e8b739cb21f5c1"),
    (resultText (.obj (samplePayload .null)),
      "627db62086d1daba4ad44c9d1b4c12e8c8c156de472fa8d871711f2a16787556"),
    (resultText (.obj (samplePayload (.str "local_tool"))),
      "23c5481ea92f71c7f7ad3b98866ec1a7133f3e8a2dc08fab6d94b604f1860492"),
    (canonicalJsonDumps (.obj (samplePayload (.str "unknown_backend"))),
      "ad518b11a4ca106489b49e228e1784686dda8c08a912278955928e11c55eadbe"),
    (canonicalJsonDumps (.obj (samplePayload (.str "local_tool"))),
      "0f33690744b9efdd07cc925de9a05ea0b36fec62a5d32ee59d6eeb5ea48a11b2")]

/-- The digests of the sample texts. -/
def samplePlatform : VerifierPlatform where
  sha256 := fun text =>
    ((sampleDigests.find? (fun entry => entry.1 = text)).map Prod.snd).getD
      "e3b0c44298fc1c149afbf4c8996fb92427ae41e4649b934ca495991b7852b855"
  validate := fun _ _ => .ok none

/-- A library that trims keys and dumps datetimes as they are written here. -/
def sampleLibrary : ModelLibrary :=
  { trimsKeys := true, datetime := some, now := "2026-01-01T00:00:00Z" }

/-- The time at which the sample execution starts and ends. -/
def sampleTime : Datetime := ⟨1767225600000000, "2026-01-01T00:00:00Z"⟩

/-- The envelope of the sample execution. -/
def sampleBuilt (backendClass : String) : Except Raised WorkUnitResultEnvelope :=
  Adapter.buildResultEnvelope sampleLibrary samplePlatform.sha256 (sampleContext backendClass)
    sampleOutput [sampleUsage] sampleTime sampleTime "failed" [sampleError]

/-- What is looked up among names is a name. -/
theorem named_found (entries : List (String × String)) (other text : String)
    (each : ∀ entry ∈ entries, Named entry.2) (named : Named other) :
    Named (((entries.find? (fun entry => entry.1 = text)).map Prod.snd).getD other) := by
  cases found : entries.find? (fun entry => entry.1 = text) with
  | none => exact named
  | some entry => exact each entry (List.mem_of_find?_eq_some found)

/-- Sample digests are names. -/
theorem sample_digests (text : String) : Named (samplePlatform.sha256 text) := by
  have visible : ∀ digest ∈ "e3b0c44298fc1c149afbf4c8996fb92427ae41e4649b934ca495991b7852b855" ::
      sampleDigests.map Prod.snd, (digest.toList.head?.all
        (fun character => !BaseModel.whiteSpace character)) = true ∧ (digest.toList.getLast?.all
          (fun character => !BaseModel.whiteSpace character)) = true ∧ digest ≠ "" := by
    decide
  have named (digest : String) (listed : digest ∈
      "e3b0c44298fc1c149afbf4c8996fb92427ae41e4649b934ca495991b7852b855" ::
        sampleDigests.map Prod.snd) : Named digest := by
    obtain ⟨starts, ends, filled⟩ := visible digest listed
    exact ⟨trimmed_of_ends digest starts ends, filled⟩
  refine named_found sampleDigests _ text (fun entry inTable => ?_) (named _ List.mem_cons_self)
  exact named entry.2 (List.mem_cons_of_mem _ (List.mem_map.mpr ⟨entry, inTable, rfl⟩))

/-- The sample error is validated. -/
theorem sample_error (error : BackendError) (listed : error ∈ [sampleError]) :
    error.Valid sampleLibrary := by
  rw [List.mem_singleton] at listed
  subst listed
  exact ⟨by decide, by decide, ⟨by decide, by decide⟩, rfl⟩

/-- The sample usage is validated. -/
theorem sample_usage (usage : UsageRecord) (listed : usage ∈ [sampleUsage]) :
    usage.Valid sampleLibrary := by
  rw [List.mem_singleton] at listed
  subst listed
  exact ⟨by decide, by decide, by decide, by decide, rfl⟩

/-- The builder returns an envelope of the sample execution. -/
theorem sample_built (backendClass : String) :
    ∃ envelope, sampleBuilt backendClass = .ok envelope :=
  buildResultEnvelope_ok .failed sample_digests rfl (by decide)
    (by simp only [sampleContext]; decide)

/-- The hash of the sample output. -/
theorem sample_outputHash : outputHash samplePlatform.sha256 (.obj sampleOutput) =
    "bac9c83d4717a3c85dad8a760f87459cd83e00baddba868e973626fa2051f656" := by
  change samplePlatform.sha256 (outputText (.obj sampleOutput)) = _
  simp [samplePlatform, sampleDigests]

/-- The payload that the builder hashes in the sample execution. -/
theorem sample_payload (backendClass : String) : Adapter.resultPayload (sampleContext backendClass)
    "failed" (outputHash samplePlatform.sha256 (.obj sampleOutput)) [sampleUsage] [sampleError] =
      .obj (samplePayload (.str backendClass)) := by
  rw [sample_outputHash]
  rfl

/-- The payload that the verifier hashes where the class is not known. -/
theorem sample_received {envelope : WorkUnitResultEnvelope}
    (spec : Built sampleLibrary samplePlatform (sampleContext "unknown_backend") sampleOutput
      [sampleUsage] "failed" [sampleError] envelope) :
    Checks.resultPayload envelope = .obj (samplePayload .null) := by
  have unknown : Adapter.backendClassOrNone "unknown_backend" = none := by decide
  have workUnitId : BaseModel.stripped "wu_a" = "wu_a" := by decide
  have attemptId : BaseModel.stripped "attempt_a_1" = "attempt_a_1" := by decide
  have assignmentId : BaseModel.stripped "assign_a" = "assign_a" := by decide
  have backendId : BaseModel.stripped "backend:a" = "backend:a" := by decide
  rw [Checks.resultPayload, spec.workUnitId, spec.attemptId, spec.assignmentId, spec.backendId,
    spec.backendClass, spec.outputHash, spec.status, spec.usageRecords, spec.errors,
    sample_outputHash]
  simp only [sampleContext, unknown, workUnitId, attemptId, assignmentId, backendId]
  rfl

/-- An output and a result are hashed from different texts. -/
theorem outputText_ne_resultText (output result : Json) (plainOutput : plain output = true)
    (plainResult : plain result = true) : outputText output ≠ resultText result := by
  intro same
  have same_kind := get_of_same_text _ _ (plain_kind _ "output" output (by decide) plainOutput)
    (plain_kind _ "result" result (by decide) plainResult) same "kind"
  have same_text : Json.str "tokenbank.output.v1" = .str "tokenbank.result.v1" := same_kind
  simp at same_text

/-- Results of two classes are hashed from different texts. -/
theorem samplePayload_class (left right : Json) (plainLeft : plain left = true)
    (plainRight : plain right = true)
    (same : resultText (.obj (samplePayload left)) = resultText (.obj (samplePayload right))) :
    ordered left = ordered right := by
  have written (value : Json) (plainValue : plain value = true) :
      plain (.obj (samplePayload value)) = true := by
    refine plain_obj _ ["work_unit_id", "attempt_id", "assignment_id", "backend_id",
      "backend_class", "output_hash", "status", "usage_record_ids", "error_codes"] rfl
      (by decide) ?_
    simp [samplePayload, plainFields, plainItems, plain, plainValue]
  rw [resultText, resultText, kind_text_iff _ _ _ _ (by decide) (written left plainLeft)
    (written right plainRight)] at same
  exact get_of_same_text _ _ (written left plainLeft) (written right plainRight) same
    "backend_class"

/-- The envelope built for an execution, dumped, written as canonical JSON, parsed and
validated, passes both hash checks exactly if validation changes nothing that is hashed and
refuses nothing. -/
theorem built_envelope_verifies_iff (library : ModelLibrary) (platform : VerifierPlatform)
    (context : BackendExecutionContext) (output : JsonObject) (usageRecords : List UsageRecord)
    (startedAt completedAt : Datetime) (status : String) (errors : List BackendError)
    (redactedLogs : List String) (providerId modelId : Option String)
    (envelope : WorkUnitResultEnvelope)
    (digests : ∀ text, Named (platform.sha256 text)) (written : plain (.obj output) = true)
    (usages : ∀ usage ∈ usageRecords, usage.Valid library)
    (failures : ∀ error ∈ errors, error.Valid library)
    (started : library.Dated startedAt.text) (completed : library.Dated completedAt.text)
    (built : Adapter.buildResultEnvelope library platform.sha256 context output usageRecords
      startedAt completedAt status errors redactedLogs providerId modelId = .ok envelope)
    (outputsApart : Separates platform.sha256 (outputText (.obj (library.mapping output)))
      (outputText (.obj output)))
    (resultsApart : Separates platform.sha256 (resultText (Checks.resultPayload envelope))
      (resultText (Adapter.resultPayload context status (outputHash platform.sha256 (.obj output))
        usageRecords errors))) :
    (∃ document received, jsonLoads (canonicalJsonDumps envelope.modelDump) = some document ∧
        WorkUnitResultEnvelope.modelValidate library document = some received ∧
        HashesPass platform received) ↔
      Unchanged library context output errors := by
  obtain ⟨valid, spec⟩ := built_envelope digests written usages failures started completed built
  have outHash : envelope.outputHash ≠ "" := valid.outputHash.2
  rw [WorkUnitResultEnvelope.revalidated_iff valid (HashesPass platform)
      (hashesPass_reordered platform envelope), hashesPass_iff,
    outputHash_expected_iff spec written outputsApart, resultHash_expected_iff spec resultsApart,
    envelope.allowed_dump_iff, spec.output, spec.artifactRefs, spec.errors, spec.backendError]
  constructor
  · rintro ⟨⟨-, -, details, -⟩, -, keys, backendClass, workUnitId, attemptId, assignmentId,
      backendId⟩
    exact ⟨backendClass, workUnitId, attemptId, assignmentId, backendId, keys, details⟩
  · intro unchanged
    rw [library.mapping_of_keys output written unchanged.output]
    exact ⟨⟨spec.allowed, fun _ inNone => absurd inNone List.not_mem_nil, unchanged.errors,
      fun error first => unchanged.errors error (List.mem_of_mem_head? first)⟩, outHash,
      unchanged.output, unchanged.backendClass, unchanged.workUnitId, unchanged.attemptId,
      unchanged.assignmentId, unchanged.backendId⟩

/-- The result of an execution on a local tool passes both hash checks. -/
theorem built_envelope_verifies_local_tool : ∃ envelope, sampleBuilt "local_tool" = .ok envelope ∧
    ∃ document received, jsonLoads (canonicalJsonDumps envelope.modelDump) = some document ∧
      WorkUnitResultEnvelope.modelValidate sampleLibrary document = some received ∧
      HashesPass samplePlatform received := by
  obtain ⟨envelope, built⟩ := sample_built "local_tool"
  obtain ⟨-, spec⟩ := built_envelope sample_digests (by decide) sample_usage sample_error
    rfl rfl built
  have unchanged : Unchanged sampleLibrary (sampleContext "local_tool") sampleOutput [sampleError] :=
    { backendClass := by decide
      workUnitId := by decide
      attemptId := by decide
      assignmentId := by decide
      backendId := by decide
      output := by decide
      errors := by decide }
  refine ⟨envelope, built, (built_envelope_verifies_iff sampleLibrary samplePlatform
    (sampleContext "local_tool") sampleOutput [sampleUsage] sampleTime sampleTime "failed"
    [sampleError] [] none none envelope sample_digests (by decide) sample_usage
    sample_error rfl rfl built (fun _ => by decide) (fun _ => ?_)).mpr unchanged⟩
  rw [resultPayload_built spec (by decide) (by decide) (by decide)
    (by decide) (by decide)]

/-- The verifier reports the honest result of an unknown backend as tampered with. -/
theorem unknown_backend_fails : ∃ envelope, sampleBuilt "unknown_backend" = .ok envelope ∧
    ¬ ∃ document received, jsonLoads (canonicalJsonDumps envelope.modelDump) = some document ∧
        WorkUnitResultEnvelope.modelValidate sampleLibrary document = some received ∧
        HashesPass samplePlatform received := by
  obtain ⟨envelope, built⟩ := sample_built "unknown_backend"
  obtain ⟨valid, spec⟩ := built_envelope sample_digests (by decide) sample_usage sample_error
    rfl rfl built
  refine ⟨envelope, built, ?_⟩
  rw [WorkUnitResultEnvelope.revalidated_iff valid (HashesPass samplePlatform)
    (hashesPass_reordered samplePlatform envelope), hashesPass_iff]
  rintro ⟨-, -, -, same⟩
  rw [spec.resultHash, sample_payload, Checks.expectedEnvelopeResultHash, sample_received spec]
    at same
  have notOutput (value : Json) (plainValue : plain (.obj (samplePayload value)) = true) :
      outputText (.obj sampleOutput) ≠ resultText (.obj (samplePayload value)) :=
    outputText_ne_resultText _ _ (by decide) plainValue
  have classes : resultText (.obj (samplePayload (.str "unknown_backend"))) ≠
      resultText (.obj (samplePayload .null)) := by
    intro same_text
    have same_class := samplePayload_class _ _ rfl rfl same_text
    simp [ordered] at same_class
  change samplePlatform.sha256 (resultText (.obj (samplePayload .null))) =
    samplePlatform.sha256 (resultText (.obj (samplePayload (.str "unknown_backend")))) at same
  simp [samplePlatform, sampleDigests, notOutput .null (by decide),
    notOutput (.str "unknown_backend") (by decide), classes] at same

end Hashes

end TokenBank
