import TokenBank.Guarantees.StoredHashes
import TokenBank.Host.Results

/-!
# What stays true of stored results

In every run of the host's calls a stored result belongs to an attempt of its work unit, its
body is read as the envelope it was submitted with or as none, and a stored work unit is read
under its own id. Submissions are taken to bring what their callers can bring: outputs that are
JSON values, and envelopes that the modelling library has validated.
-/

namespace TokenBank

open Canonical Validation

/-- Validation of the document of a work unit keeps its id. -/
def ResultsPlatform.KeepsWorkUnits (platform : ResultsPlatform) : Prop :=
  ∀ (workUnit : WorkUnit) read, Named workUnit.workUnitId →
    platform.workUnit (.obj workUnit.modelDump) = .ok read → read.workUnitId = workUnit.workUnitId

/-- A submission brings an output that is a JSON value, and a validated envelope if any. -/
def Scheduler.Submission.Supplied (platform : ResultsPlatform)
    (submission : Scheduler.Submission) : Prop :=
  plain (.obj submission.output) = true ∧
    ∀ envelope, Scheduler.coerceResultEnvelope platform.scheduler submission.resultEnvelope =
      .ok (some envelope) → envelope.Valid platform.library

/-- What callers bring with a call: work units with an id, and submissions as above. -/
def ResultOp.Supplied (platform : ResultsPlatform) : ResultOp → Prop
  | .persistRunAndWorkUnit _ workUnit _ => Named workUnit.workUnitId
  | .schedule (.submitResult _ submission) => submission.Supplied platform
  | _ => True

/-- No results are stored yet, and neither reports nor summaries. -/
structure FreshResults (plane : ResultsPlane) : Prop where
  db : Fresh plane.db
  details : plane.host.workUnitDetails.entries = []
  reports : plane.verifierReports.entries = []
  summaries : plane.hostResultSummaries.entries = []

/-- What stays true of stored results and work units. -/
structure StoredSoundly (platform : ResultsPlatform) (plane : ResultsPlane) : Prop where
  wellFormed : WellFormed plane.db
  results : ∀ key row, plane.db.resultEnvelopes.find? key = some row →
    ∃ attempt, plane.db.executionAttempts.find? row.attemptId = some attempt ∧
      attempt.workUnitId = row.workUnitId
  bodies : ∀ key row envelope, plane.db.resultEnvelopes.find? key = some row →
    platform.readEnvelope row.body = some envelope →
    envelope.resultEnvelopeId = key ∧ envelope.workUnitId = row.workUnitId
  details : ∀ key row workUnit, plane.host.workUnitDetails.find? key = some row →
    platform.workUnit row.body = .ok workUnit → workUnit.workUnitId = key

/-- Nothing is stored that could be unsound. -/
theorem FreshResults.soundly {platform : ResultsPlatform} {plane : ResultsPlane}
    (fresh : FreshResults plane) : StoredSoundly platform plane where
  wellFormed := fresh.db.wellFormed
  results key row found := by
    rw [Store.Table.find?_of_entries_nil _ fresh.db.results] at found
    cases found
  bodies key row envelope found := by
    rw [Store.Table.find?_of_entries_nil _ fresh.db.results] at found
    cases found
  details key row workUnit found := by
    rw [Store.Table.find?_of_entries_nil _ fresh.details] at found
    cases found

/-! ## New results -/

/-- The body stored for an envelope is read as the envelope, under the status it is stored
with, unless it has a forbidden key. -/
theorem ResultsPlatform.readEnvelope_dump (platform : ResultsPlatform)
    (envelope : WorkUnitResultEnvelope) (valid : envelope.Valid platform.library)
    (status : ResultEnvelopeStatus) (received : WorkUnitResultEnvelope)
    (read : platform.readEnvelope (.obj (envelope.dumpWithStatus status)) = some received) :
    received = WorkUnitResultEnvelope.reordered { envelope with status := status } := by
  have validStatus := StoredHashes.valid_withStatus valid status
  have parsed := jsonLoads_canonicalJsonDumps _ (WorkUnitResultEnvelope.plain_dump validStatus)
  change jsonLoads (canonicalJsonDumps (.obj (envelope.dumpWithStatus status))) = _ at parsed
  rw [readEnvelope, parsed, Option.bind_some] at read
  have allowed := allowed_of_validated _ received read
  rw [hasForbiddenKey_ordered] at allowed
  rw [WorkUnitResultEnvelope.modelValidate_dump validStatus allowed] at read
  exact (Option.some.inj read).symm

/-- The body stored for an envelope is read back, up to the order of members, if it has no
forbidden key. -/
theorem ResultsPlatform.readEnvelope_of_dump (platform : ResultsPlatform)
    (envelope : WorkUnitResultEnvelope) (valid : envelope.Valid platform.library)
    (status : ResultEnvelopeStatus)
    (allowed : BaseModel.hasForbiddenKey envelope.modelDump = false) :
    platform.readEnvelope (.obj (envelope.dumpWithStatus status)) =
      some (WorkUnitResultEnvelope.reordered { envelope with status := status }) := by
  have validStatus := StoredHashes.valid_withStatus valid status
  have parsed := jsonLoads_canonicalJsonDumps _ (WorkUnitResultEnvelope.plain_dump validStatus)
  change jsonLoads (canonicalJsonDumps (.obj (envelope.dumpWithStatus status))) = _ at parsed
  rw [WorkUnitResultEnvelope.allowed_dump_iff] at allowed
  rw [readEnvelope, parsed, Option.bind_some]
  exact WorkUnitResultEnvelope.modelValidate_dump validStatus
    ((WorkUnitResultEnvelope.allowed_dump_iff _).mpr allowed)

/-- The body stored for raw output is read as no envelope. -/
theorem ResultsPlatform.readEnvelope_raw (platform : ResultsPlatform) (draws : Draws)
    (assignmentId : String) (assignment : AssignmentRow) (output : JsonObject) (late : Bool)
    (written : plain (.obj output) = true) :
    platform.readEnvelope (.obj (Scheduler.rawResult platform.scheduler draws assignmentId
      assignment output late).body) = none := by
  cases parsed : jsonLoads (canonicalJsonDumps (.obj (Scheduler.rawResult platform.scheduler draws
    assignmentId assignment output late).body)) with
  | none => rw [readEnvelope, parsed, Option.bind_none]
  | some document =>
    rw [readEnvelope, parsed, Option.bind_some]
    cases validated : WorkUnitResultEnvelope.modelValidate platform.library document with
    | none => rfl
    | some received =>
      exact absurd validated (StoredHashes.rawResult_invalid platform.library platform.scheduler
        draws assignmentId assignment output late written document received parsed)

/-- A result is new only after a submission that was admitted. -/
theorem SchedulerOp.newResult_admitted {platform : Platform} {op : SchedulerOp} {db : Db}
    {plan : Plan} {key : String} {row : ResultEnvelopeRow}
    (planned : op.plan platform [db, db, db] = some plan) (filed : plan.newResult key = some row) :
    ∃ draws submission assignment attempt envelope, op = .submitResult draws submission ∧
      Admitted platform submission db db assignment attempt envelope ∧
      key = Scheduler.resultId draws envelope ∧
      row = Scheduler.resultEnvelopeRow draws submission.assignmentId assignment
        (Scheduler.submittedResult platform draws submission.assignmentId assignment
          submission.output (Scheduler.newerAttemptExists db attempt.workUnitId
            attempt.attemptNumber) envelope) := by
  have submits : ∃ draws submission, op = .submitResult draws submission := by
    cases plan_some platform op [db, db, db] plan planned with
    | submit draws submission => exact ⟨draws, submission, rfl⟩
    | _ => cases filed
  obtain ⟨draws, submission, rfl⟩ := submits
  obtain ⟨read, attempted, looked, assignment, attempt, envelope, saw, admitted, rfl⟩ :=
    (submitPlan_some_iff platform draws submission [db, db, db] plan).mp planned
  obtain ⟨rfl, rfl, rfl⟩ : db = read ∧ db = attempted ∧ db = looked := by simpa using saw
  simp only [Plan.newResult, Scheduler.submittedResult_id, Option.ite_none_right_eq_some,
    Option.some.injEq] at filed
  obtain ⟨rfl, rfl⟩ := filed
  exact ⟨draws, submission, assignment, attempt, envelope, rfl, admitted, rfl, rfl⟩

/-! ## Steps and runs -/

namespace StoredSoundly

variable {platform : ResultsPlatform} {plane : ResultsPlane}

/-- What is true of stored results depends on the tables that hold them only. -/
theorem transfer {after : ResultsPlane} (sound : StoredSoundly platform plane)
    (attempts : after.db.executionAttempts = plane.db.executionAttempts)
    (assignments : after.db.assignments = plane.db.assignments)
    (results : after.db.resultEnvelopes = plane.db.resultEnvelopes)
    (workUnits : ∀ key, (plane.db.workUnits.find? key).isSome = true →
      (after.db.workUnits.find? key).isSome = true)
    (details : ∀ key row workUnit, after.host.workUnitDetails.find? key = some row →
      platform.workUnit row.body = .ok workUnit → workUnit.workUnitId = key) :
    StoredSoundly platform after where
  wellFormed := {
    attempts := fun key row found =>
      workUnits _ (sound.wellFormed.attempts key row (attempts ▸ found))
    assignments := fun key row found => by
      rw [attempts]
      exact sound.wellFormed.assignments key row (assignments ▸ found) }
  results key row found := by
    rw [attempts]
    exact sound.results key row (results ▸ found)
  bodies key row envelope found := sound.bodies key row envelope (results ▸ found)
  details := details

/-- A new result belongs to an attempt, and its body is read under its id. -/
theorem new_result {op : SchedulerOp} {plan : Plan} {key : String} {row : ResultEnvelopeRow}
    (sound : StoredSoundly platform plane) (supplied : (ResultOp.schedule op).Supplied platform)
    (planned : op.plan platform.scheduler [plane.db, plane.db, plane.db] = some plan)
    (filed : plan.newResult key = some row) :
    (∃ attempt, plane.db.executionAttempts.find? row.attemptId = some attempt ∧
      attempt.workUnitId = row.workUnitId) ∧
    ∀ envelope, platform.readEnvelope row.body = some envelope →
      envelope.resultEnvelopeId = key ∧ envelope.workUnitId = row.workUnitId := by
  obtain ⟨draws, submission, assignment, attempt, envelope, rfl, admitted, rfl, rfl⟩ :=
    SchedulerOp.newResult_admitted planned filed
  have found := ((Scheduler.assignmentForWorker_ok_iff _ _ _ _).mp admitted.found).1
  refine ⟨sound.wellFormed.assignments _ assignment found, fun received read => ?_⟩
  have coerced := Scheduler.coerced_of_accepted _ _ _ _ _ admitted.accepted
  cases envelope with
  | none =>
    have unread := platform.readEnvelope_raw draws submission.assignmentId assignment
      submission.output (Scheduler.newerAttemptExists plane.db attempt.workUnitId
        attempt.attemptNumber) supplied.1
    exact absurd (unread.symm.trans read) (by simp)
  | some given =>
    have same_envelope := platform.readEnvelope_dump given (supplied.2 given coerced) _ _ read
    subst same_envelope
    refine ⟨rfl, ?_⟩
    have accepted := admitted.accepted
    rw [Scheduler.acceptedEnvelope, coerced] at accepted
    obtain ⟨value, checked, -⟩ := (Store.map_ok_iff _ _ _).mp accepted
    unfold Scheduler.validateResultEnvelopeForAssignment at checked
    split at checked
    · cases checked
    · rename_i matching
      exact (not_not.mp matching).1

/-- A call of the scheduler keeps what is true of stored results. -/
theorem scheduled (sound : StoredSoundly platform plane) (op : SchedulerOp)
    (supplied : (ResultOp.schedule op).Supplied platform) :
    StoredSoundly platform (ResultsPlane.dbPart.replace plane
      (Scheduler.step platform.scheduler plane.db op)) := by
  have wellFormed := Scheduler.step_wellFormed platform.scheduler op plane.db sound.wellFormed
  rcases Scheduler.step_cases platform.scheduler op plane.db sound.wellFormed with
    ⟨error, -, same⟩ | ⟨reply, plan, -, planned, performed⟩
  · rw [same]
    exact sound
  · have attempt_after {row : ResultEnvelopeRow}
        (before : ∃ attempt, plane.db.executionAttempts.find? row.attemptId = some attempt ∧
          attempt.workUnitId = row.workUnitId) :
        ∃ attempt, (Scheduler.step platform.scheduler plane.db op).executionAttempts.find?
          row.attemptId = some attempt ∧ attempt.workUnitId = row.workUnitId := by
      obtain ⟨attempt, found, unit⟩ := before
      obtain ⟨later, foundLater, same_unit, -⟩ :=
        performed.evolves.attempts row.attemptId attempt found
      exact ⟨later, foundLater, same_unit.trans unit⟩
    constructor
    · exact wellFormed
    · intro key row found
      have origin := (performed.resultEnvelopes key).symm.trans found
      rcases Option.or_eq_some_iff.mp origin with filed | ⟨-, stored⟩
      · exact attempt_after (sound.new_result supplied planned filed).1
      · exact attempt_after (sound.results key row stored)
    · intro key row envelope found
      have origin := (performed.resultEnvelopes key).symm.trans found
      rcases Option.or_eq_some_iff.mp origin with filed | ⟨-, stored⟩
      · exact (sound.new_result supplied planned filed).2 envelope
      · exact sound.bodies key row envelope stored
    · exact sound.details

/-- Finalizing a result keeps what is true of stored results. -/
theorem finalized {draws : Draws} {resultEnvelopeId : String}
    {result : Except Raised (Option (VerifierReport × HostResultSummary))} {left : ResultsPlane}
    (sound : StoredSoundly platform plane)
    (ends : Host.Finalized platform draws resultEnvelopeId plane result left) :
    StoredSoundly platform left := by
  obtain ⟨outbox, same_host⟩ := ends.host
  have same_db : left.db = { plane.db with eventOutbox := outbox } := by
    rw [ResultsPlane.db, same_host]
    rfl
  refine sound.transfer (by rw [same_db]) (by rw [same_db]) (by rw [same_db])
    (fun key present => by rw [same_db]; exact present) ?_
  rw [same_host]
  exact sound.details

/-- Every call keeps what is true of stored results. -/
theorem step (keeps : platform.KeepsWorkUnits) (sound : StoredSoundly platform plane)
    (op : ResultOp) (supplied : op.Supplied platform) :
    StoredSoundly platform (ResultsPlane.step platform plane op) := by
  have happened := ResultsPlane.step_happened platform plane op
  generalize ResultsPlane.step platform plane op = after at happened
  cases happened with
  | nothing => exact sound
  | workUnit draws workUnit phase runs workUnits details outbox inserted described =>
    refine sound.transfer rfl rfl rfl (fun key present => ?_) (fun key row read found parsed => ?_)
    · change (workUnits.find? key).isSome = true
      rw [Store.Table.find?_insert _ _ _ _ inserted]
      split
      · rfl
      · exact present
    · change details.find? key = some row at found
      rw [Store.Table.find?_insert _ _ _ _ described] at found
      split at found
      · rename_i same_key
        have same_row := Option.some.inj found
        subst same_row
        exact (keeps workUnit read supplied parsed).trans same_key.symm
      · exact sound.details key row read found parsed
  | routePlan op routePlan keys outbox stores =>
    exact sound.transfer rfl rfl rfl (fun _ present => present) sound.details
  | policyDecision draws decision keys outbox =>
    exact sound.transfer rfl rfl rfl (fun _ present => present) sound.details
  | scheduled op => exact sound.scheduled op supplied
  | finalized draws resultEnvelopeId result left ends => exact sound.finalized ends
  | asked draws workUnitId resultEnvelopeId row result left unsummarised last ends =>
    exact sound.finalized ends

end StoredSoundly

/-! ## Ids in bodies -/

/-- The bodies of stored results are plain, and carry the ids that they are stored under. -/
def CarryIds (plane : ResultsPlane) : Prop :=
  ∀ key row, plane.db.resultEnvelopes.find? key = some row → ∃ fields,
    row.body = .obj fields ∧ plain (.obj fields) = true ∧
    member fields "result_envelope_id" = some (.str key)

section Ids

variable {platform : ResultsPlatform} {plane : ResultsPlane}

/-- Which ids are carried depends on the stored results only. -/
theorem CarryIds.transfer {after : ResultsPlane} (carry : CarryIds plane)
    (results : after.db.resultEnvelopes = plane.db.resultEnvelopes) : CarryIds after := by
  intro key row found
  exact carry key row (results ▸ found)

/-- The body of a new result carries its id. -/
theorem newResult_carries {op : SchedulerOp} {plan : Plan} {key : String}
    {row : ResultEnvelopeRow} (supplied : (ResultOp.schedule op).Supplied platform)
    (planned : op.plan platform.scheduler [plane.db, plane.db, plane.db] = some plan)
    (filed : plan.newResult key = some row) :
    ∃ fields, row.body = .obj fields ∧ plain (.obj fields) = true ∧
      member fields "result_envelope_id" = some (.str key) := by
  obtain ⟨draws, submission, assignment, attempt, envelope, rfl, admitted, rfl, rfl⟩ :=
    SchedulerOp.newResult_admitted planned filed
  have coerced := Scheduler.coerced_of_accepted _ _ _ _ _ admitted.accepted
  cases envelope with
  | none =>
    exact ⟨_, rfl, StoredHashes.plain_rawResult _ _ _ _ _ _ supplied.1, rfl⟩
  | some given =>
    have valid := StoredHashes.valid_withStatus (supplied.2 given coerced)
    exact ⟨_, rfl, WorkUnitResultEnvelope.plain_dump (valid _), rfl⟩

/-- A call of the scheduler leaves results that carry their ids. -/
theorem CarryIds.scheduled (carry : CarryIds plane) (wellFormed : WellFormed plane.db)
    (op : SchedulerOp) (supplied : (ResultOp.schedule op).Supplied platform) :
    CarryIds (ResultsPlane.dbPart.replace plane
      (Scheduler.step platform.scheduler plane.db op)) := by
  rcases Scheduler.step_cases platform.scheduler op plane.db wellFormed with
    ⟨error, -, same⟩ | ⟨reply, plan, -, planned, performed⟩
  · rw [same]
    exact carry
  · intro key row found
    have origin := (performed.resultEnvelopes key).symm.trans found
    rcases Option.or_eq_some_iff.mp origin with filed | ⟨-, stored⟩
    · exact newResult_carries supplied planned filed
    · exact carry key row stored

/-- Finalizing a result leaves the results as they are. -/
theorem CarryIds.finalized {draws : Draws} {resultEnvelopeId : String}
    {result : Except Raised (Option (VerifierReport × HostResultSummary))} {left : ResultsPlane}
    (carry : CarryIds plane)
    (ends : Host.Finalized platform draws resultEnvelopeId plane result left) : CarryIds left := by
  obtain ⟨outbox, same_host⟩ := ends.host
  refine carry.transfer ?_
  rw [ResultsPlane.db, same_host]
  rfl

/-- Every call leaves results that carry their ids. -/
theorem CarryIds.step (carry : CarryIds plane) (wellFormed : WellFormed plane.db) (op : ResultOp)
    (supplied : op.Supplied platform) : CarryIds (ResultsPlane.step platform plane op) := by
  have happened := ResultsPlane.step_happened platform plane op
  generalize ResultsPlane.step platform plane op = after at happened
  cases happened with
  | nothing => exact carry
  | workUnit draws workUnit phase runs workUnits details outbox inserted described =>
    exact carry.transfer rfl
  | routePlan op routePlan keys outbox stores => exact carry.transfer rfl
  | policyDecision draws decision keys outbox => exact carry.transfer rfl
  | scheduled op => exact carry.scheduled wellFormed op supplied
  | finalized draws resultEnvelopeId result left ends => exact carry.finalized ends
  | asked draws workUnitId resultEnvelopeId row result left unsummarised last ends =>
    exact carry.finalized ends

/-- In every run of the host's calls, stored results carry the ids that they are stored under. -/
theorem carryIds_of_run (keeps : platform.KeepsWorkUnits) (fresh : FreshResults plane)
    (ops : List ResultOp) (supplied : ∀ op ∈ ops, op.Supplied platform) :
    CarryIds (Store.run (ResultsPlane.step platform) plane ops) := by
  have nothing : CarryIds plane := by
    intro key row found
    rw [Store.Table.find?_of_entries_nil _ fresh.db.results] at found
    cases found
  have kept := Store.run_preserves (ResultsPlane.step platform)
    (fun plane => StoredSoundly platform plane ∧ CarryIds plane) plane ops
    ⟨fresh.soundly, nothing⟩ (fun before op holds listed =>
      ⟨holds.1.step keeps op (supplied op listed),
        holds.2.step holds.1.wellFormed op (supplied op listed)⟩)
  exact kept.2

end Ids

end TokenBank
