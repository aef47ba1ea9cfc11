import TokenBank.Guarantees.Hashes
import TokenBank.Scheduler.System

/-!
# Hashes of stored results

A submission stores a body for its result. Without an envelope the body has fewer members
than an envelope must have, and so is none. With an envelope it is the envelope, under
another status when the result is late: the result hash is kept, and is that of the new
status only if the envelope was quarantined before.
-/

namespace TokenBank

open Canonical Validation Hashes

namespace StoredHashes

/-- The hashes of an envelope are those recomputed from it. -/
def Recomputed (verifier : VerifierPlatform) (envelope : WorkUnitResultEnvelope) : Prop :=
  envelope.outputHash = Checks.expectedOutputHash verifier envelope ∧
    envelope.resultHash = Checks.expectedEnvelopeResultHash verifier envelope
  deriving Decidable

/-- The body stored for a result is a valid envelope whose hashes are those recomputed from
the stored body. -/
def StoredVerifies (library : ModelLibrary) (verifier : VerifierPlatform) (db : Db)
    (resultEnvelopeId : String) : Prop :=
  ∃ row document received, db.resultEnvelopes.find? resultEnvelopeId = some row ∧
    jsonLoads (canonicalJsonDumps row.body) = some document ∧
    WorkUnitResultEnvelope.modelValidate library document = some received ∧
    Recomputed verifier received

/-- A submission brings an envelope without a forbidden key, and one that is quarantined
already if there is a newer attempt. -/
def BringsVerifiable (platform : Platform) (db : Db) (submission : Scheduler.Submission) : Prop :=
  ∀ row ∈ db.assignments.find? submission.assignmentId,
    ∀ attempt ∈ db.executionAttempts.find? row.attemptId,
    ∃ envelope ∈
        (Scheduler.coerceResultEnvelope platform submission.resultEnvelope).toOption.join,
      BaseModel.hasForbiddenKey envelope.modelDump = false ∧
      (Scheduler.newerAttemptExists db attempt.workUnitId attempt.attemptNumber = true →
        envelope.status = .quarantined)
  deriving Decidable

/-! ## Bodies without an envelope -/

section Raw

variable (library : ModelLibrary)

/-- A validated document has a run id. -/
theorem runId_of_validated (names : List (String × Json)) (value : Json)
    (received : WorkUnitResultEnvelope)
    (validated : WorkUnitResultEnvelope.modelValidate library value = some received)
    (isObject : value = .obj names) : (member names "run_id").isSome := by
  subst isObject
  obtain ⟨fields, read, rest⟩ := Option.bind_eq_some_iff.mp validated
  obtain ⟨resultEnvelopeId, -, rest⟩ := Option.bind_eq_some_iff.mp rest
  obtain ⟨workUnitId, -, rest⟩ := Option.bind_eq_some_iff.mp rest
  obtain ⟨runId, found, -⟩ := Option.bind_eq_some_iff.mp rest
  have same_fields : fields = names := by
    unfold document at read
    simp only [Option.ite_none_right_eq_some, Option.some.injEq] at read
    exact read.2.symm
  subst same_fields
  obtain ⟨value, present, -⟩ := Option.bind_eq_some_iff.mp found
  rw [present]
  rfl

/-- The body stored for raw output is plain. -/
theorem plain_rawResult (platform : Platform) (draws : Draws) (assignmentId : String)
    (assignment : AssignmentRow) (output : JsonObject) (late : Bool)
    (written : plain (.obj output) = true) :
    plain (.obj (Scheduler.rawResult platform draws assignmentId assignment output late).body) =
      true := by
  refine plain_obj _ ["result_envelope_id", "work_unit_id", "attempt_id", "assignment_id",
    "status", "output", "output_hash", "result_hash"] rfl (by decide) ?_
  simp [Scheduler.rawResult, plainFields, written]

/-- The body stored for raw output is no valid envelope. -/
theorem rawResult_invalid (platform : Platform) (draws : Draws) (assignmentId : String)
    (assignment : AssignmentRow) (output : JsonObject) (late : Bool)
    (written : plain (.obj output) = true) (document : Json) (received : WorkUnitResultEnvelope)
    (parsed : jsonLoads (canonicalJsonDumps (.obj
      (Scheduler.rawResult platform draws assignmentId assignment output late).body)) =
        some document) :
    WorkUnitResultEnvelope.modelValidate library document ≠ some received := by
  intro validated
  let body := (Scheduler.rawResult platform draws assignmentId assignment output late).body
  have distinct : (body.map Prod.fst).Nodup := by
    change ["result_envelope_id", "work_unit_id", "attempt_id", "assignment_id", "status",
      "output", "output_hash", "result_hash"].Nodup
    decide
  rw [jsonLoads_canonicalJsonDumps _
    (plain_rawResult platform draws assignmentId assignment output late written)] at parsed
  have same_document := Option.some.inj parsed
  have present := runId_of_validated library (orderedMembers body) document received validated
    (same_document.symm.trans (ordered_obj body))
  rw [member_ordered body distinct] at present
  have absent : member body "run_id" = none := rfl
  rw [absent] at present
  cases present

end Raw

/-! ## Bodies with an envelope -/

section Enveloped

variable {library : ModelLibrary} {verifier : VerifierPlatform} {envelope : WorkUnitResultEnvelope}

/-- A valid envelope is valid under another status. -/
theorem valid_withStatus (valid : envelope.Valid library) (status : ResultEnvelopeStatus) :
    { envelope with status := status }.Valid library :=
  { resultEnvelopeId := valid.resultEnvelopeId
    workUnitId := valid.workUnitId
    runId := valid.runId
    attemptId := valid.attemptId
    assignmentId := valid.assignmentId
    backendId := valid.backendId
    providerId := valid.providerId
    modelId := valid.modelId
    workerId := valid.workerId
    capacityNodeId := valid.capacityNodeId
    output := valid.output
    outputHash := valid.outputHash
    resultHash := valid.resultHash
    artifactRefs := valid.artifactRefs
    usageRecords := valid.usageRecords
    redactedLogs := valid.redactedLogs
    errors := valid.errors
    backendError := valid.backendError
    startedAt := valid.startedAt
    completedAt := valid.completedAt }

/-- The order of members in free-form mappings does not matter to the recomputed hashes. -/
theorem recomputed_reordered :
    Recomputed verifier envelope.reordered ↔ Recomputed verifier envelope := by
  obtain ⟨output, result⟩ := expectedHashes_reordered verifier envelope
  rw [Recomputed, Recomputed, output, result]
  rfl

/-- Correct hashes are correct under another status exactly if it is the same status. -/
theorem recomputed_withStatus_iff (recomputed : Recomputed verifier envelope)
    (status : ResultEnvelopeStatus)
    (apart : Separates verifier.sha256 (resultText (Checks.resultPayload envelope))
      (resultText (Checks.resultPayload { envelope with status := status }))) :
    Recomputed verifier { envelope with status := status } ↔ envelope.status = status := by
  constructor
  · rintro ⟨-, same_hash⟩
    have same_status := fields_of_same_hash verifier.sha256 _ _ (plain_resultPayload envelope)
      (plain_resultPayload { envelope with status := status }) apart
      (recomputed.2.symm.trans same_hash) "status"
    have same_text : Json.str envelope.status.text = .str status.text := same_status
    rw [Json.str.injEq] at same_text
    generalize envelope.status = before at same_text
    cases before <;> cases status <;> first | rfl | (simp [ResultEnvelopeStatus.text] at same_text)
  · intro same_status
    subst same_status
    exact recomputed

/-- The body stored for an envelope, late or not, verifies exactly if it has no forbidden key
and a late envelope was quarantined before. -/
theorem envelopeResult_verifies_iff (valid : envelope.Valid library)
    (recomputed : Recomputed verifier envelope) (late : Bool)
    (apart : Separates verifier.sha256 (resultText (Checks.resultPayload envelope))
      (resultText (Checks.resultPayload { envelope with status := .quarantined }))) :
    (∃ document received, jsonLoads (canonicalJsonDumps
          (.obj (Scheduler.envelopeResult envelope late).body)) = some document ∧
        WorkUnitResultEnvelope.modelValidate library document = some received ∧
        Recomputed verifier received) ↔
      BaseModel.hasForbiddenKey envelope.modelDump = false ∧
        (late = true → envelope.status = .quarantined) := by
  have stored : ∀ status, Json.obj (envelope.dumpWithStatus status) =
      WorkUnitResultEnvelope.modelDump { envelope with status := status } := fun _ => rfl
  have allowed : ∀ status, BaseModel.hasForbiddenKey
      (WorkUnitResultEnvelope.modelDump { envelope with status := status }) = false ↔
        BaseModel.hasForbiddenKey envelope.modelDump = false := by
    intro status
    rw [WorkUnitResultEnvelope.allowed_dump_iff, WorkUnitResultEnvelope.allowed_dump_iff]
  simp only [Scheduler.envelopeResult, stored]
  rw [WorkUnitResultEnvelope.revalidated_iff (valid_withStatus valid _) (Recomputed verifier)
    recomputed_reordered, allowed]
  apply and_congr_right
  intro _
  cases late with
  | false => exact iff_of_true recomputed (fun late => Bool.noConfusion late)
  | true =>
    simp only [if_true, true_implies]
    exact recomputed_withStatus_iff recomputed .quarantined apart

end Enveloped

/-! ## Submissions -/

/-- The row that a successful submission files. -/
theorem submission_files (platform : Platform) (db : Db) (wellFormed : WellFormed db)
    (draws : Draws) (submission : Scheduler.Submission) (reply : Scheduler.SubmissionReply)
    (returned : (Scheduler.runAlone platform (.submitResult draws submission) db).1 =
      .ok (.submission reply)) :
    ∃ assignment attempt envelope,
      SchedulerOp.Admitted platform submission db db assignment attempt envelope ∧
      (Scheduler.step platform db (.submitResult draws submission)).resultEnvelopes.find?
          reply.resultEnvelopeId =
        some (Scheduler.resultEnvelopeRow draws submission.assignmentId assignment
          (Scheduler.submittedResult platform draws submission.assignmentId assignment
            submission.output (Scheduler.newerAttemptExists db attempt.workUnitId
              attempt.attemptNumber) envelope)) := by
  obtain ⟨plan, planned, performed⟩ := (Scheduler.runAlone_ok_iff platform _ db
    (Scheduler.step platform db (.submitResult draws submission)) _ wellFormed).mp
      (Prod.ext returned rfl)
  generalize Scheduler.step platform db (.submitResult draws submission) = after at performed ⊢
  obtain ⟨read, attempted, looked, assignment, attempt, envelope, saw, admitted, rfl⟩ :=
    (SchedulerOp.submitPlan_some_iff platform draws submission [db, db, db] plan).mp planned
  obtain ⟨rfl, rfl, rfl⟩ : db = read ∧ db = attempted ∧ db = looked := by simpa using saw
  refine ⟨assignment, attempt, envelope, admitted, ?_⟩
  have filed := performed.resultEnvelopes reply.resultEnvelopeId
  cases performed
  rw [filed]
  simp [Plan.newResult, Scheduler.SubmittedResult.reply]

/-- A successful submission of an envelope stores it, under its own status or another one. -/
theorem submission_stores (platform : Platform) (db : Db) (wellFormed : WellFormed db)
    (draws : Draws) (submission : Scheduler.Submission) (reply : Scheduler.SubmissionReply)
    (returned : (Scheduler.runAlone platform (.submitResult draws submission) db).1 =
      .ok (.submission reply)) (envelope : WorkUnitResultEnvelope)
    (coerced : Scheduler.coerceResultEnvelope platform submission.resultEnvelope =
      .ok (some envelope)) :
    ∃ row status,
      (Scheduler.step platform db (.submitResult draws submission)).resultEnvelopes.find?
        reply.resultEnvelopeId = some row ∧ row.body = .obj (envelope.dumpWithStatus status) := by
  obtain ⟨assignment, attempt, given, admitted, stored⟩ :=
    submission_files platform db wellFormed draws submission reply returned
  have given_eq := Scheduler.coerced_of_accepted _ _ _ _ _ admitted.accepted
  have same_given := Except.ok.inj (coerced.symm.trans given_eq)
  subst same_given
  exact ⟨_, _, stored, rfl⟩

/-- For an admitted submission the condition speaks of what it was admitted with. -/
theorem bringsVerifiable_iff {platform : Platform} {db : Db} {submission : Scheduler.Submission}
    {row : AssignmentRow} {attempt : AttemptRow} {envelope : Option WorkUnitResultEnvelope}
    (admitted : SchedulerOp.Admitted platform submission db db row attempt envelope) :
    BringsVerifiable platform db submission ↔ ∃ given, envelope = some given ∧
      BaseModel.hasForbiddenKey given.modelDump = false ∧
      (Scheduler.newerAttemptExists db attempt.workUnitId attempt.attemptNumber = true →
        given.status = .quarantined) := by
  have found := ((Scheduler.assignmentForWorker_ok_iff _ _ _ _).mp admitted.found).1
  have attempted := (Scheduler.attempt_ok_iff _ _ _).mp admitted.attempt
  have coerced := Scheduler.coerced_of_accepted _ _ _ _ _ admitted.accepted
  simp only [BringsVerifiable, found, Option.mem_def, Option.some.injEq, forall_eq', attempted,
    coerced, Except.toOption, Option.join_some]

/-! ## A sample submission -/

/-- An envelope for the scenario's assignment with correct hashes. -/
def sampleEnvelope : WorkUnitResultEnvelope :=
  { Scenario.envelope "res_a" 0 1 .succeeded with
    outputHash := "e4de7dfb1bbd41588741faf90130b45a6e6ec00072c16169b47edbbe756439f2"
    resultHash := "865a2fb30c3a9bc5bbf9a17a7493264ef166ba629369161b5393311637d2d9ff" }

/-- The digests of the texts that the sample hashes. -/
def sampleVerifier : VerifierPlatform where
  sha256 := fun text =>
    if text = resultText (Checks.resultPayload sampleEnvelope) then sampleEnvelope.resultHash
    else if text = outputText (.obj sampleEnvelope.output) then sampleEnvelope.outputHash
    else "4aee954d795e27a2868e8e1fcc7a108f740230e6d1a93585da8db5245725653f"
  validate := fun _ _ => .ok none

/-- The calls up to an accepted assignment. -/
def accepting : List SchedulerOp :=
  [Scenario.createAttempt 0, Scenario.assignNextWork 1, Scenario.accept 2 1 0]

/-- The database with an accepted assignment. -/
def acceptedDb : Db := Store.run (Scheduler.step Scenario.platform) Scenario.db accepting

/-- The database with an accepted assignment is reachable. -/
theorem acceptedDb_reachable : Reachable Scenario.platform acceptedDb :=
  (Reachable.fresh Scenario.db_fresh).run accepting

/-- Hand the sample envelope in. -/
def sampleSubmission : Scheduler.Submission :=
  { assignmentId := Scenario.assignmentId 1
    workerId := "wrk_1"
    leaseToken := some (Lease.newLeaseToken (Scenario.draws 2))
    output := sampleEnvelope.output
    resultEnvelope := .model sampleEnvelope }

/-- The sample envelope is valid. -/
theorem sampleEnvelope_valid : sampleEnvelope.Valid sampleLibrary :=
  { resultEnvelopeId := by decide
    workUnitId := by decide
    runId := by decide
    attemptId := by decide
    assignmentId := by decide
    backendId := fun _ absent => by cases absent
    providerId := fun _ absent => by cases absent
    modelId := fun _ absent => by cases absent
    workerId := fun _ absent => by cases absent
    capacityNodeId := fun _ absent => by cases absent
    output := ⟨by decide, by decide⟩
    outputHash := by decide
    resultHash := by decide
    artifactRefs := fun _ inNone => absurd inNone List.not_mem_nil
    usageRecords := fun _ inNone => absurd inNone List.not_mem_nil
    redactedLogs := fun _ inNone => absurd inNone List.not_mem_nil
    errors := fun _ inNone => absurd inNone List.not_mem_nil
    backendError := fun _ absent => by cases absent
    startedAt := fun _ absent => by cases absent
    completedAt := rfl }

/-- The hashes of the sample envelope are correct. -/
theorem sampleEnvelope_recomputed : Recomputed sampleVerifier sampleEnvelope := by
  have apart := outputText_ne_resultText (.obj sampleEnvelope.output)
    (Checks.resultPayload sampleEnvelope) (by decide) (plain_resultPayload sampleEnvelope)
  constructor
  · change sampleEnvelope.outputHash =
      sampleVerifier.sha256 (outputText (.obj sampleEnvelope.output))
    simp only [sampleVerifier, apart, if_false, if_true]
  · change sampleEnvelope.resultHash =
      sampleVerifier.sha256 (resultText (Checks.resultPayload sampleEnvelope))
    simp only [sampleVerifier, if_true]

/-- The digest of any other text. -/
theorem sampleVerifier_other (text : String) (notOutput : outputText (.obj sampleEnvelope.output) ≠
    text) (notResult : resultText (Checks.resultPayload sampleEnvelope) ≠ text) :
    sampleVerifier.sha256 text =
      "4aee954d795e27a2868e8e1fcc7a108f740230e6d1a93585da8db5245725653f" := by
  simp only [sampleVerifier, notOutput.symm, notResult.symm, if_false]

/-- The result hash of the sample envelope is not that of a quarantined one. -/
theorem sampleEnvelope_separates : Separates sampleVerifier.sha256
    (resultText (Checks.resultPayload sampleEnvelope))
    (resultText (Checks.resultPayload { sampleEnvelope with status := .quarantined })) := by
  intro same
  have notOutput := outputText_ne_resultText (.obj sampleEnvelope.output)
    (Checks.resultPayload { sampleEnvelope with status := .quarantined }) (by decide)
    (plain_resultPayload _)
  by_contra apart
  rw [sampleVerifier_other _ notOutput apart] at same
  exact absurd (sampleEnvelope_recomputed.2.trans same) (by decide)

/-- In every reachable database, the body stored for a submission whose envelope, if it brings
one, has correct hashes verifies exactly if it brings an envelope without a forbidden key, and
one that is quarantined already if it is late. -/
theorem stored_result_verifies_iff (library : ModelLibrary) (verifier : VerifierPlatform)
    (platform : Platform) (db : Db) (reachable : Reachable platform db) (draws : Draws)
    (submission : Scheduler.Submission) (reply : Scheduler.SubmissionReply)
    (returned : (Scheduler.runAlone platform (.submitResult draws submission) db).1 =
      .ok (.submission reply))
    (written : plain (.obj submission.output) = true)
    (supplied : ∀ envelope, Scheduler.coerceResultEnvelope platform submission.resultEnvelope =
      .ok (some envelope) → envelope.Valid library ∧ Recomputed verifier envelope ∧
        Separates verifier.sha256 (resultText (Checks.resultPayload envelope))
          (resultText (Checks.resultPayload { envelope with status := .quarantined }))) :
    StoredVerifies library verifier (Scheduler.step platform db (.submitResult draws submission))
        reply.resultEnvelopeId ↔
      BringsVerifiable platform db submission := by
  obtain ⟨assignment, attempt, envelope, admitted, stored⟩ :=
    submission_files platform db reachable.wellFormed draws submission reply returned
  have coerced := Scheduler.coerced_of_accepted _ _ _ _ _ admitted.accepted
  rw [bringsVerifiable_iff admitted, StoredVerifies, stored]
  cases envelope with
  | none =>
    constructor
    · rintro ⟨row, document, received, same_row, parsed, validated, -⟩
      have same_stored := Option.some.inj same_row
      subst same_stored
      exact absurd validated (rawResult_invalid library platform draws submission.assignmentId
        assignment submission.output _ written document received parsed)
    · rintro ⟨given, brought, -⟩
      cases brought
  | some given =>
    obtain ⟨valid, recomputed, apart⟩ := supplied given coerced
    have verifies := envelopeResult_verifies_iff valid recomputed
      (Scheduler.newerAttemptExists db attempt.workUnitId attempt.attemptNumber) apart
    constructor
    · rintro ⟨row, document, received, same_row, rest⟩
      have same_stored := Option.some.inj same_row
      subst same_stored
      exact ⟨given, rfl, verifies.mp ⟨document, received, rest⟩⟩
    · rintro ⟨other, brought, allowed⟩
      have same_given := Option.some.inj brought
      subst same_given
      obtain ⟨document, received, rest⟩ := verifies.mpr allowed
      exact ⟨_, document, received, rfl, rest⟩

/-- A timely success with correct hashes verifies. -/
theorem stored_result_verifies_success : StoredVerifies sampleLibrary sampleVerifier
    (Scheduler.step Scenario.platform acceptedDb
      (.submitResult (Scenario.draws 3) sampleSubmission)) "res_a" := by
  refine (stored_result_verifies_iff sampleLibrary sampleVerifier Scenario.platform acceptedDb
    acceptedDb_reachable (Scenario.draws 3) sampleSubmission
    ⟨.succeeded, "res_a", sampleEnvelope.outputHash, sampleEnvelope.resultHash⟩
    (by decide +kernel) (by decide +kernel) ?_).mpr (by decide +kernel)
  intro envelope given
  have same_envelope : sampleEnvelope = envelope := by
    simpa [Scheduler.coerceResultEnvelope, sampleSubmission] using given
  subst same_envelope
  exact ⟨sampleEnvelope_valid, sampleEnvelope_recomputed, sampleEnvelope_separates⟩

/-- Whether a reply answers a submission. -/
def isSubmission : Reply → Bool
  | .submission _ => true
  | _ => false

/-- A call that answers a submission returns its reply. -/
theorem submission_of_any {outcome : Except Raised Reply}
    (answered : outcome.toOption.any isSubmission = true) :
    ∃ reply, outcome = .ok (.submission reply) := by
  cases outcome with
  | error raised => cases answered
  | ok given =>
    cases given with
    | submission reply => exact ⟨reply, rfl⟩
    | _ => cases answered

/-- Raw output that is accepted on time is stored without a valid body. -/
theorem raw_result_unverifiable : ∃ reply,
    (Scheduler.runAlone Scenario.platform (Scenario.submit 3 1 2) acceptedDb).1 =
      .ok (.submission reply) ∧
    ¬ StoredVerifies sampleLibrary sampleVerifier
      (Scheduler.step Scenario.platform acceptedDb (Scenario.submit 3 1 2))
      reply.resultEnvelopeId := by
  have accepted : (Scheduler.runAlone Scenario.platform (Scenario.submit 3 1 2)
      acceptedDb).1.toOption.any isSubmission = true := by decide +kernel
  obtain ⟨reply, returned⟩ := submission_of_any accepted
  refine ⟨reply, returned, ?_⟩
  obtain ⟨assignment, attempt, envelope, admitted, stored⟩ :=
    submission_files Scenario.platform acceptedDb acceptedDb_reachable.wellFormed _ _ reply returned
  have coerced := Scheduler.coerced_of_accepted _ _ _ _ _ admitted.accepted
  have absent : none = envelope := Except.ok.inj coerced
  subst absent
  rintro ⟨row, document, received, same_row, parsed, validated, -⟩
  have same_stored := Option.some.inj (stored.symm.trans same_row)
  subst same_stored
  exact rawResult_invalid sampleLibrary Scenario.platform _ _ assignment _ _ (by decide)
    document received parsed validated

end StoredHashes

end TokenBank
