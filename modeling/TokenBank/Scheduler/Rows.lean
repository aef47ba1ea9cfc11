import TokenBank.Scheduler.Plans

/-!
# What performing a plan does to each row

Every table is described key by key. A row is rewritten by a function of the
plan, its key and the row itself; a plan files at most one new row per table,
under a key that was absent; no row is ever removed. These equations are the only
facts about the tables that the guarantees are proved from.
-/

namespace TokenBank

namespace Scheduler

/-- One assignment after the sweep of a list of rows. -/
def expiredRow (draws : Draws) (key : String) : Nat → List (String × AssignmentRow) →
    AssignmentRow → AssignmentRow
  | _, [], row => row
  | position, (assignmentId, _) :: rest, row =>
    expiredRow draws key (position + 1) rest
      (if key = assignmentId then expireRow (draws.utcText (2 * position + 1)) row else row)

/-- A sweep rewrites every assignment on its own. -/
theorem find?_expireAssignments (draws : Draws) (key : String) (position : Nat)
    (rows : List (String × AssignmentRow)) (assignments : Store.Table String AssignmentRow) :
    (expireAssignments draws position rows assignments).find? key =
      (assignments.find? key).map (expiredRow draws key position rows) := by
  induction rows generalizing position assignments with
  | nil => simp [expireAssignments, expiredRow]
  | cons row rest inductionHypothesis =>
    obtain ⟨assignmentId, assignment⟩ := row
    rw [expireAssignments, inductionHypothesis, Store.Table.find?_modify]
    by_cases same : key = assignmentId
    · subst same
      simp only [if_true, Option.map_map, Function.comp_def, expiredRow]
    · simp only [if_neg same, expiredRow]

/-- What expiring a row does not touch, a sweep does not touch. -/
theorem expiredRow_keeps {β : Type} (view : AssignmentRow → β)
    (blind : ∀ updatedAt row, view (expireRow updatedAt row) = view row) (draws : Draws)
    (key : String) (position : Nat) (rows : List (String × AssignmentRow)) (row : AssignmentRow) :
    view (expiredRow draws key position rows row) = view row := by
  induction rows generalizing position row with
  | nil => rfl
  | cons head rest inductionHypothesis =>
    rw [expiredRow, inductionHypothesis]
    split
    · exact blind _ row
    · rfl

/-- A sweep expires exactly the assignments it lists. -/
theorem expiredRow_status (draws : Draws) (key : String) (position : Nat)
    (rows : List (String × AssignmentRow)) (row : AssignmentRow) :
    (expiredRow draws key position rows row).status =
      if key ∈ rows.map Prod.fst then .expired else row.status := by
  induction rows generalizing position row with
  | nil => simp [expiredRow]
  | cons head rest inductionHypothesis =>
    rw [expiredRow, inductionHypothesis]
    by_cases later : key ∈ rest.map Prod.fst
    · simp only [List.map_cons, List.mem_cons, later, or_true, if_true]
    · by_cases same : key = head.1 <;> simp [later, same, expireRow]

/-- A sweep selects leased assignments only. -/
theorem expiredLeases_status (now : String) (db : Db) (key : String) (row : AssignmentRow)
    (found : db.assignments.find? key = some row)
    (listed : key ∈ (expiredLeases now db).map Prod.fst) :
    row.status = .accepted ∨ row.status = .running := by
  obtain ⟨⟨other, stored⟩, member, rfl⟩ := List.mem_map.mp listed
  obtain ⟨inTable, selected⟩ := List.mem_filter.mp member
  have read := (Store.Table.mem_entries_iff _ _ _).mp inTable
  have same_row := Option.some.inj (found.symm.trans read)
  subst same_row
  simp only [Bool.and_eq_true, Bool.or_eq_true, decide_eq_true_eq] at selected
  exact selected.1

/-- Rewriting an attempt without touching its work unit and number leaves the
attempt numbers of every work unit. -/
theorem attemptNumbers_modify (before after : Db) (workUnitId target : String)
    (rewrite : AttemptRow → AttemptRow)
    (modified : after.executionAttempts = before.executionAttempts.modify target rewrite)
    (blind : ∀ row, (rewrite row).workUnitId = row.workUnitId ∧
      (rewrite row).attemptNumber = row.attemptNumber) :
    attemptNumbers after workUnitId = attemptNumbers before workUnitId := by
  unfold attemptNumbers
  rw [modified]
  apply Store.Table.filterMap_update
  intro key row
  simp only [(blind row).1, (blind row).2]

end Scheduler

namespace Plan

/-- The assignment under a key once a plan is performed, if it was there before. -/
def assignmentAfter (platform : Platform) : Plan → String → AssignmentRow → AssignmentRow
  | .accept draws assignmentId _ _ expiresAt _, key, row =>
    if key = assignmentId then
      (Scheduler.acceptUpdate platform draws expiresAt).apply (row.leaseVersion + 1) row
    else row
  | .reject draws assignmentId _ _, key, row =>
    if key = assignmentId then Scheduler.rejectRow (draws.utcText 0) row else row
  | .progress draws assignmentId _ _ expiresAt _, key, row =>
    if key = assignmentId then
      (Scheduler.progressUpdate draws expiresAt).apply (row.leaseVersion + 1) row
    else row
  | .submit draws assignmentId _ late _, key, row =>
    if key = assignmentId then
      if late then Scheduler.completeRow .quarantined (draws.utcText 1) row
      else Scheduler.completeRow .completed (draws.utcText 0) row
    else row
  | .sweep draws rows, key, row => Scheduler.expiredRow draws key 0 rows row
  | _, _, row => row

/-- The assignment a plan files under a key. -/
def newAssignment : Plan → String → Option AssignmentRow
  | .insertAssignment draws request workUnitId, key =>
    if key = Scheduler.assignmentId draws then
      some (Scheduler.assignmentRow draws request workUnitId)
    else none
  | _, _ => none

/-- The attempt under a key once a plan is performed, if it was there before. -/
def attemptAfter : Plan → String → AttemptRow → AttemptRow
  | .insertAssignment _ request _, key, row =>
    if key = request.attemptId then { row with status := .assigned } else row
  | .accept draws _ _ _ _ assignment, key, row =>
    if key = assignment.attemptId then Scheduler.startAttempt (draws.utcText 1) row else row
  | .reject draws _ _ assignment, key, row =>
    if key = assignment.attemptId then Scheduler.endAttempt .failed (draws.utcText 0) row else row
  | .submit draws _ assignment late _, key, row =>
    if key = assignment.attemptId then
      if late then Scheduler.endAttempt .quarantined (draws.utcText 1) row
      else Scheduler.endAttempt .succeeded (draws.utcText 0) row
    else row
  | _, _, row => row

/-- The attempt a plan files under a key. -/
def newAttempt : Plan → String → Option AttemptRow
  | .insertAttempt draws workUnitId routePlanId policyDecisionId status _ attemptNumber, key =>
    if key = Scheduler.attemptId draws then
      some (Scheduler.attemptRow draws workUnitId routePlanId policyDecisionId status attemptNumber)
    else none
  | _, _ => none

/-- The work unit under a key once a plan is performed. -/
def workUnitAfter : Plan → String → WorkUnitRow → WorkUnitRow
  | .insertAssignment draws _ workUnitId, key, row =>
    if key = workUnitId then { row with status := .assigned, updatedAt := draws.utcText 1 }
    else row
  | .accept draws _ _ _ _ assignment, key, row =>
    if key = assignment.workUnitId then
      { row with status := .running, updatedAt := draws.utcText 3 }
    else row
  | .submit draws _ assignment late _, key, row =>
    if key = assignment.workUnitId ∧ late = false then
      { row with status := .succeeded, updatedAt := draws.utcText 1 }
    else row
  | _, _, row => row

/-- The result a plan files under a key. -/
def newResult : Plan → String → Option ResultEnvelopeRow
  | .submit draws assignmentId assignment _ result, key =>
    if key = result.resultEnvelopeId then
      some (Scheduler.resultEnvelopeRow draws assignmentId assignment result)
    else none
  | _, _ => none

/-- The quarantine row a plan files under a key. -/
def newQuarantine : Plan → String → Option QuarantineRow
  | .submit draws assignmentId assignment true result, key =>
    if key = "quar_" ++ draws.uuid 1 then
      some (Scheduler.quarantineRow draws assignmentId assignment result)
    else none
  | _, _ => none

/-- The attempt numbers a plan adds to those of a work unit. -/
def newNumbers : Plan → String → List Nat
  | .insertAttempt _ workUnitId _ _ _ _ attemptNumber, key =>
    if key = workUnitId then [attemptNumber] else []
  | _, _ => []

/-- No plan changes which attempt, work unit and worker an assignment belongs to. -/
theorem assignmentAfter_identity (platform : Platform) (plan : Plan) (key : String)
    (row : AssignmentRow) : (plan.assignmentAfter platform key row).attemptId = row.attemptId ∧
      (plan.assignmentAfter platform key row).workUnitId = row.workUnitId ∧
      (plan.assignmentAfter platform key row).workerId = row.workerId := by
  cases plan with
  | sweep draws rows =>
    exact ⟨Scheduler.expiredRow_keeps AssignmentRow.attemptId (fun _ _ => rfl) draws key 0 rows row,
      Scheduler.expiredRow_keeps AssignmentRow.workUnitId (fun _ _ => rfl) draws key 0 rows row,
      Scheduler.expiredRow_keeps AssignmentRow.workerId (fun _ _ => rfl) draws key 0 rows row⟩
  | submit draws assignmentId assignment late result =>
    simp only [assignmentAfter]
    split
    · cases late <;> exact ⟨rfl, rfl, rfl⟩
    · exact ⟨rfl, rfl, rfl⟩
  | accept | reject | progress =>
    simp only [assignmentAfter]
    split <;> exact ⟨rfl, rfl, rfl⟩
  | nothing | insertAttempt | insertAssignment => exact ⟨rfl, rfl, rfl⟩

/-- The token a plan grants for an assignment. -/
def granted : Plan → String → Option String
  | .accept draws assignmentId _ _ _ _, key =>
    if key = assignmentId then some (Lease.newLeaseToken draws) else none
  | _, _ => none

/-- The lease version a plan expects of an assignment it advances by one. -/
def advances : Plan → String → Option Int
  | .accept _ assignmentId _ expectedLeaseVersion _ _, key =>
    if key = assignmentId then some expectedLeaseVersion else none
  | .progress _ assignmentId _ expectedLeaseVersion _ _, key =>
    if key = assignmentId then some expectedLeaseVersion else none
  | _, _ => none

/-- Only a grant changes the stored hash of an assignment, to that of its token. -/
theorem assignmentAfter_hash (platform : Platform) (plan : Plan) (key : String)
    (row : AssignmentRow) : (plan.assignmentAfter platform key row).leaseTokenHash =
      ((plan.granted key).map (Lease.leaseTokenHash platform)).or row.leaseTokenHash := by
  cases plan with
  | sweep draws rows =>
    exact Scheduler.expiredRow_keeps AssignmentRow.leaseTokenHash (fun _ _ => rfl) draws key 0 rows
      row
  | submit draws assignmentId assignment late result =>
    simp only [assignmentAfter]
    split
    · cases late <;> rfl
    · rfl
  | accept | reject | progress =>
    simp only [assignmentAfter, granted]
    split <;> rfl
  | nothing | insertAttempt | insertAssignment => rfl

/-- The version of an assignment grows by one under a plan that advances it, and
stays otherwise. -/
theorem assignmentAfter_version (platform : Platform) (plan : Plan) (key : String)
    (row : AssignmentRow) : (plan.assignmentAfter platform key row).leaseVersion =
      if (plan.advances key).isSome then row.leaseVersion + 1 else row.leaseVersion := by
  cases plan with
  | sweep draws rows =>
    exact Scheduler.expiredRow_keeps AssignmentRow.leaseVersion (fun _ _ => rfl) draws key 0 rows row
  | submit draws assignmentId assignment late result =>
    simp only [assignmentAfter]
    split
    · cases late <;> rfl
    · rfl
  | accept | reject | progress =>
    simp only [assignmentAfter, advances]
    split <;> rfl
  | nothing | insertAttempt | insertAssignment => rfl

/-- No plan turns a status back to created. -/
theorem assignmentAfter_created (platform : Platform) (plan : Plan) (key : String)
    (row : AssignmentRow)
    (created : (plan.assignmentAfter platform key row).status = .created) :
    row.status = .created ∧ plan.granted key = none := by
  cases plan with
  | sweep draws rows =>
    simp only [assignmentAfter, Scheduler.expiredRow_status] at created
    split at created
    · cases created
    · exact ⟨created, rfl⟩
  | submit draws assignmentId assignment late result =>
    simp only [assignmentAfter] at created
    split at created
    · cases late <;> cases created
    · exact ⟨created, rfl⟩
  | accept | reject | progress =>
    simp only [assignmentAfter] at created
    split at created
    · cases created
    · rename_i other
      exact ⟨created, by simp [granted, other]⟩
  | nothing | insertAttempt | insertAssignment => exact ⟨created, rfl⟩

/-- A new assignment is created, with nothing granted and no hash. -/
theorem newAssignment_row (plan : Plan) (key : String) (row : AssignmentRow)
    (filed : plan.newAssignment key = some row) :
    plan.granted key = none ∧ row.leaseTokenHash = none ∧ row.status = .created := by
  cases plan with
  | insertAssignment draws request workUnitId =>
    simp only [newAssignment, Option.ite_none_right_eq_some, Option.some.injEq] at filed
    obtain ⟨-, rfl⟩ := filed
    exact ⟨rfl, rfl, rfl⟩
  | _ => cases filed

/-- No plan changes what an attempt was created with. -/
theorem attemptAfter_identity (plan : Plan) (key : String) (row : AttemptRow) :
    (plan.attemptAfter key row).workUnitId = row.workUnitId ∧
      (plan.attemptAfter key row).attemptNumber = row.attemptNumber := by
  cases plan with
  | submit draws assignmentId assignment late result =>
    simp only [attemptAfter]
    split
    · cases late <;> exact ⟨rfl, rfl⟩
    · exact ⟨rfl, rfl⟩
  | insertAssignment | accept | reject =>
    simp only [attemptAfter]
    split <;> exact ⟨rfl, rfl⟩
  | nothing | insertAttempt | progress | sweep => exact ⟨rfl, rfl⟩

end Plan

namespace Performed

variable {platform : Platform} {store after : Db} {plan : Plan} {reply : Reply}

/-- A new assignment is filed under a key that was absent. -/
theorem newAssignment_absent (performed : Performed platform store plan reply after)
    (key : String) (row : AssignmentRow) (filed : plan.newAssignment key = some row) :
    store.assignments.find? key = none := by
  cases performed with
  | insertAssignment draws request workUnitId after inserted =>
    obtain ⟨assignments, outbox, attempted, workUnit, stored, events⟩ := inserted
    simp only [Plan.newAssignment, Option.ite_none_right_eq_some] at filed
    rw [filed.1]
    exact ((Store.Table.insert_some_iff _ _ _ _).mp stored).1
  | _ => simp [Plan.newAssignment] at filed

/-- The assignments after a plan is performed. -/
theorem assignments (performed : Performed platform store plan reply after) (key : String) :
    after.assignments.find? key = (plan.newAssignment key).or
      ((store.assignments.find? key).map (fun row => plan.assignmentAfter platform key row)) := by
  cases performed with
  | nothing => simp [Plan.newAssignment, Plan.assignmentAfter]
  | insertAttempt _ _ _ _ _ _ _ after inserted =>
    obtain ⟨attempts, outbox, references, stored, events⟩ := inserted
    simp [Plan.newAssignment, Plan.assignmentAfter]
  | insertAssignment draws request workUnitId after inserted =>
    obtain ⟨assignments, outbox, attempted, workUnit, stored, events⟩ := inserted
    simp only [Plan.newAssignment, Plan.assignmentAfter, Option.map_id_fun', id_eq,
      Store.Table.find?_insert _ _ _ _ stored key]
    split <;> rfl
  | accept draws assignmentId workerId expectedLeaseVersion expiresAt assignment grant after
      accepted =>
    obtain ⟨row, outbox, found, version, fits, workUnit, events⟩ := accepted
    simp only [Plan.newAssignment, Plan.assignmentAfter, Option.none_or,
      Store.Table.find?_modify_map]
    by_cases same : key = assignmentId
    · simp [same, found]
    · simp [same]
  | reject draws assignmentId workerId assignment after rejected =>
    obtain ⟨outbox, events⟩ := rejected
    simp only [Plan.newAssignment, Plan.assignmentAfter, Option.none_or,
      Store.Table.find?_modify_map]
  | progress draws assignmentId workerId expectedLeaseVersion expiresAt assignment reply after
      progressed =>
    obtain ⟨row, outbox, found, version, fits, events⟩ := progressed
    simp only [Plan.newAssignment, Plan.assignmentAfter, Option.none_or,
      Store.Table.find?_modify_map]
    by_cases same : key = assignmentId
    · simp [same, found]
    · simp [same]
  | submit draws assignmentId assignment late result after submitted =>
    cases submitted <;>
      simp only [Plan.newAssignment, Plan.assignmentAfter, Option.none_or,
        Store.Table.find?_modify_map, Bool.false_eq_true, if_true, if_false]
  | sweep draws rows after swept =>
    obtain ⟨outbox, events⟩ := swept
    simp only [Plan.newAssignment, Plan.assignmentAfter, Option.none_or,
      Scheduler.find?_expireAssignments]

/-- The attempts after a plan is performed. -/
theorem attempts (performed : Performed platform store plan reply after) (key : String) :
    after.executionAttempts.find? key = (plan.newAttempt key).or
      ((store.executionAttempts.find? key).map (fun row => plan.attemptAfter key row)) := by
  cases performed with
  | nothing => simp [Plan.newAttempt, Plan.attemptAfter]
  | insertAttempt _ _ _ _ _ _ _ after inserted =>
    obtain ⟨attempts, outbox, references, stored, events⟩ := inserted
    simp only [Plan.newAttempt, Plan.attemptAfter, Option.map_id_fun', id_eq,
      Store.Table.find?_insert _ _ _ _ stored key]
    split <;> rfl
  | insertAssignment draws request workUnitId after inserted =>
    obtain ⟨assignments, outbox, attempted, workUnit, stored, events⟩ := inserted
    simp only [Plan.newAttempt, Plan.attemptAfter, Option.none_or, Store.Table.find?_modify_map]
  | accept draws assignmentId workerId expectedLeaseVersion expiresAt assignment grant after
      accepted =>
    obtain ⟨row, outbox, found, version, fits, workUnit, events⟩ := accepted
    simp only [Plan.newAttempt, Plan.attemptAfter, Option.none_or, Store.Table.find?_modify_map]
  | reject draws assignmentId workerId assignment after rejected =>
    obtain ⟨outbox, events⟩ := rejected
    simp only [Plan.newAttempt, Plan.attemptAfter, Option.none_or, Store.Table.find?_modify_map]
  | progress draws assignmentId workerId expectedLeaseVersion expiresAt assignment reply after
      progressed =>
    obtain ⟨row, outbox, found, version, fits, events⟩ := progressed
    simp [Plan.newAttempt, Plan.attemptAfter]
  | submit draws assignmentId assignment late result after submitted =>
    cases submitted <;>
      simp only [Plan.newAttempt, Plan.attemptAfter, Option.none_or,
        Store.Table.find?_modify_map, Bool.false_eq_true, if_true, if_false]
  | sweep draws rows after swept =>
    obtain ⟨outbox, events⟩ := swept
    simp [Plan.newAttempt, Plan.attemptAfter]

/-- The work units after a plan is performed. -/
theorem workUnits (performed : Performed platform store plan reply after) (key : String) :
    after.workUnits.find? key =
      (store.workUnits.find? key).map (fun row => plan.workUnitAfter key row) := by
  cases performed with
  | nothing => simp [Plan.workUnitAfter]
  | insertAttempt _ _ _ _ _ _ _ after inserted =>
    obtain ⟨attempts, outbox, references, stored, events⟩ := inserted
    simp [Plan.workUnitAfter]
  | insertAssignment draws request workUnitId after inserted =>
    obtain ⟨assignments, outbox, attempted, workUnit, stored, events⟩ := inserted
    simp only [Plan.workUnitAfter, Store.Table.find?_modify_map]
  | accept draws assignmentId workerId expectedLeaseVersion expiresAt assignment grant after
      accepted =>
    obtain ⟨row, outbox, found, version, fits, workUnit, events⟩ := accepted
    simp only [Plan.workUnitAfter, Store.Table.find?_modify_map]
  | reject draws assignmentId workerId assignment after rejected =>
    obtain ⟨outbox, events⟩ := rejected
    simp [Plan.workUnitAfter]
  | progress draws assignmentId workerId expectedLeaseVersion expiresAt assignment reply after
      progressed =>
    obtain ⟨row, outbox, found, version, fits, events⟩ := progressed
    simp [Plan.workUnitAfter]
  | submit draws assignmentId assignment late result after submitted =>
    cases submitted with
    | late => simp [Plan.workUnitAfter]
    | timely => simp only [Plan.workUnitAfter, Store.Table.find?_modify_map, and_true]
  | sweep draws rows after swept =>
    obtain ⟨outbox, events⟩ := swept
    simp [Plan.workUnitAfter]

/-- The stored results after a plan is performed. -/
theorem resultEnvelopes (performed : Performed platform store plan reply after) (key : String) :
    after.resultEnvelopes.find? key =
      (plan.newResult key).or (store.resultEnvelopes.find? key) := by
  cases performed with
  | submit draws assignmentId assignment late result after submitted =>
    cases submitted with
    | late envelopes quarantine outbox workUnit attempted assigned inserted quarantined events =>
      simp only [Plan.newResult, Store.Table.find?_insert _ _ _ _ inserted key]
      split <;> rfl
    | timely envelopes outbox workUnit assigned inserted events =>
      simp only [Plan.newResult, Store.Table.find?_insert _ _ _ _ inserted key]
      split <;> rfl
  | nothing => rfl
  | insertAttempt _ _ _ _ _ _ _ after inserted => cases inserted; rfl
  | insertAssignment draws request workUnitId after inserted => cases inserted; rfl
  | accept _ _ _ _ _ _ _ after accepted => cases accepted; rfl
  | reject _ _ _ _ after rejected => cases rejected; rfl
  | progress _ _ _ _ _ _ _ after progressed => cases progressed; rfl
  | sweep _ _ after swept => cases swept; rfl

/-- The quarantine after a plan is performed. -/
theorem resultQuarantine (performed : Performed platform store plan reply after) (key : String) :
    after.resultQuarantine.find? key =
      (plan.newQuarantine key).or (store.resultQuarantine.find? key) := by
  cases performed with
  | submit draws assignmentId assignment late result after submitted =>
    cases submitted with
    | late envelopes quarantine outbox workUnit attempted assigned inserted quarantined events =>
      simp only [Plan.newQuarantine, Store.Table.find?_insert _ _ _ _ quarantined key]
      split <;> rfl
    | timely => rfl
  | nothing => rfl
  | insertAttempt _ _ _ _ _ _ _ after inserted => cases inserted; rfl
  | insertAssignment draws request workUnitId after inserted => cases inserted; rfl
  | accept _ _ _ _ _ _ _ after accepted => cases accepted; rfl
  | reject _ _ _ _ after rejected => cases rejected; rfl
  | progress _ _ _ _ _ _ _ after progressed => cases progressed; rfl
  | sweep _ _ after swept => cases swept; rfl

/-- An acceptance finds the expected version and replies with the next one. -/
theorem accept_version {draws : Draws} {assignmentId workerId expiresAt : String}
    {expectedLeaseVersion : Int} {assignment : AssignmentRow}
    (performed : Performed platform store
      (.accept draws assignmentId workerId expectedLeaseVersion expiresAt assignment) reply after) :
    ∃ row, store.assignments.find? assignmentId = some row ∧
      row.leaseVersion = expectedLeaseVersion ∧
      reply = .grant ⟨assignmentId, Lease.newLeaseToken draws, expectedLeaseVersion + 1,
        expiresAt⟩ := by
  cases performed with
  | accept _ _ _ _ _ _ grant after accepted =>
    obtain ⟨row, outbox, found, version, fits, workUnit, events⟩ := accepted
    exact ⟨row, found, version, by rw [version]⟩

/-- A progress report finds the expected version and replies with the next one. -/
theorem progress_version {draws : Draws} {assignmentId workerId expiresAt : String}
    {expectedLeaseVersion : Int} {assignment : AssignmentRow}
    (performed : Performed platform store
      (.progress draws assignmentId workerId expectedLeaseVersion expiresAt assignment) reply
      after) :
    ∃ row, store.assignments.find? assignmentId = some row ∧
      row.leaseVersion = expectedLeaseVersion ∧
      reply = .progress ⟨assignmentId, expectedLeaseVersion + 1, expiresAt⟩ := by
  cases performed with
  | progress _ _ _ _ _ _ progress after progressed =>
    obtain ⟨row, outbox, found, version, fits, events⟩ := progressed
    exact ⟨row, found, version, by rw [version]⟩

/-- A new result is filed under a key that was absent. -/
theorem newResult_absent (performed : Performed platform store plan reply after)
    (key : String) (row : ResultEnvelopeRow) (filed : plan.newResult key = some row) :
    store.resultEnvelopes.find? key = none := by
  cases performed with
  | submit draws assignmentId assignment late result after submitted =>
    simp only [Plan.newResult, Option.ite_none_right_eq_some] at filed
    rw [filed.1]
    cases submitted with
    | late envelopes quarantine outbox workUnit attempted assigned inserted quarantined events =>
      exact ((Store.Table.insert_some_iff _ _ _ _).mp inserted).1
    | timely envelopes outbox workUnit assigned inserted events =>
      exact ((Store.Table.insert_some_iff _ _ _ _).mp inserted).1
  | _ => simp [Plan.newResult] at filed

/-- A new quarantine row is filed under a key that was absent. -/
theorem newQuarantine_absent (performed : Performed platform store plan reply after)
    (key : String) (row : QuarantineRow) (filed : plan.newQuarantine key = some row) :
    store.resultQuarantine.find? key = none := by
  cases performed with
  | submit draws assignmentId assignment late result after submitted =>
    cases submitted with
    | late envelopes quarantine outbox workUnit attempted assigned inserted quarantined events =>
      simp only [Plan.newQuarantine, Option.ite_none_right_eq_some] at filed
      rw [filed.1]
      exact ((Store.Table.insert_some_iff _ _ _ _).mp quarantined).1
    | timely => cases filed
  | _ => simp [Plan.newQuarantine] at filed

/-- An assignment that was there before is rewritten in place. -/
theorem assignment_kept (performed : Performed platform store plan reply after) (key : String)
    (row : AssignmentRow) (found : store.assignments.find? key = some row) :
    after.assignments.find? key = some (plan.assignmentAfter platform key row) := by
  have absent : plan.newAssignment key = none := by
    cases filed : plan.newAssignment key with
    | none => rfl
    | some other => simp [performed.newAssignment_absent key other filed] at found
  rw [performed.assignments key, absent, found]
  rfl

/-- An assignment that is there afterwards was rewritten in place, or is new. -/
theorem assignment_origin (performed : Performed platform store plan reply after) (key : String)
    (row : AssignmentRow) (found : after.assignments.find? key = some row) :
    (∃ earlier, store.assignments.find? key = some earlier ∧
        row = plan.assignmentAfter platform key earlier) ∨
      (store.assignments.find? key = none ∧ plan.newAssignment key = some row) := by
  have equation := performed.assignments key
  rw [found] at equation
  cases filed : plan.newAssignment key with
  | none =>
    rw [filed, Option.none_or] at equation
    obtain ⟨earlier, read, same⟩ := Option.map_eq_some_iff.mp equation.symm
    exact Or.inl ⟨earlier, read, same.symm⟩
  | some other =>
    rw [filed, Option.some_or, Option.some.injEq] at equation
    exact Or.inr ⟨performed.newAssignment_absent key other filed, by rw [equation]⟩

/-- A new attempt is filed under a key that was absent. -/
theorem newAttempt_absent (performed : Performed platform store plan reply after)
    (key : String) (row : AttemptRow) (filed : plan.newAttempt key = some row) :
    store.executionAttempts.find? key = none := by
  cases performed with
  | insertAttempt _ _ _ _ _ _ _ after inserted =>
    obtain ⟨attempts, outbox, references, stored, events⟩ := inserted
    simp only [Plan.newAttempt, Option.ite_none_right_eq_some] at filed
    rw [filed.1]
    exact ((Store.Table.insert_some_iff _ _ _ _).mp stored).1
  | _ => simp [Plan.newAttempt] at filed

/-- An attempt that was there before is rewritten in place. -/
theorem attempt_kept (performed : Performed platform store plan reply after) (key : String)
    (row : AttemptRow) (found : store.executionAttempts.find? key = some row) :
    after.executionAttempts.find? key = some (plan.attemptAfter key row) := by
  have absent : plan.newAttempt key = none := by
    cases filed : plan.newAttempt key with
    | none => rfl
    | some other => simp [performed.newAttempt_absent key other filed] at found
  rw [performed.attempts key, absent, found]
  rfl

/-- An attempt that is there afterwards was rewritten in place, or is new. -/
theorem attempt_origin (performed : Performed platform store plan reply after) (key : String)
    (row : AttemptRow) (found : after.executionAttempts.find? key = some row) :
    (∃ earlier, store.executionAttempts.find? key = some earlier ∧
        row = plan.attemptAfter key earlier) ∨
      (store.executionAttempts.find? key = none ∧ plan.newAttempt key = some row) := by
  have equation := performed.attempts key
  rw [found] at equation
  cases filed : plan.newAttempt key with
  | none =>
    rw [filed, Option.none_or] at equation
    obtain ⟨earlier, read, same⟩ := Option.map_eq_some_iff.mp equation.symm
    exact Or.inl ⟨earlier, read, same.symm⟩
  | some other =>
    rw [filed, Option.some_or, Option.some.injEq] at equation
    exact Or.inr ⟨performed.newAttempt_absent key other filed, by rw [equation]⟩

/-- The attempt numbers of a work unit grow at the end, by those of the plan. -/
theorem attemptNumbers (performed : Performed platform store plan reply after) (key : String) :
    Scheduler.attemptNumbers after key =
      Scheduler.attemptNumbers store key ++ plan.newNumbers key := by
  cases performed with
  | insertAttempt _ workUnitId _ _ _ _ attemptNumber after inserted =>
    obtain ⟨attempts, outbox, references, stored, events⟩ := inserted
    have appended := ((Store.Table.insert_some_iff _ _ _ _).mp stored).2
    simp only [Scheduler.attemptNumbers, appended, List.filterMap_append, Plan.newNumbers]
    by_cases same : workUnitId = key
    · simp [Scheduler.attemptRow, same]
    · simp [Scheduler.attemptRow, same, Ne.symm same]
  | insertAssignment draws request workUnitId after inserted =>
    obtain ⟨assignments, outbox, attempted, workUnit, stored, events⟩ := inserted
    simp only [Plan.newNumbers, List.append_nil]
    exact Scheduler.attemptNumbers_modify _ _ key request.attemptId
      (fun row => { row with status := .assigned }) rfl (fun _ => ⟨rfl, rfl⟩)
  | accept draws assignmentId workerId expectedLeaseVersion expiresAt assignment grant after
      accepted =>
    obtain ⟨row, outbox, found, version, fits, workUnit, events⟩ := accepted
    simp only [Plan.newNumbers, List.append_nil]
    exact Scheduler.attemptNumbers_modify _ _ key assignment.attemptId
      (Scheduler.startAttempt (draws.utcText 1)) rfl (fun _ => ⟨rfl, rfl⟩)
  | reject draws assignmentId workerId assignment after rejected =>
    obtain ⟨outbox, events⟩ := rejected
    simp only [Plan.newNumbers, List.append_nil]
    exact Scheduler.attemptNumbers_modify _ _ key assignment.attemptId
      (Scheduler.endAttempt .failed (draws.utcText 0)) rfl (fun _ => ⟨rfl, rfl⟩)
  | submit draws assignmentId assignment late result after submitted =>
    simp only [Plan.newNumbers, List.append_nil]
    cases submitted with
    | late =>
      exact Scheduler.attemptNumbers_modify _ _ key assignment.attemptId
        (Scheduler.endAttempt .quarantined (draws.utcText 1)) rfl (fun _ => ⟨rfl, rfl⟩)
    | timely =>
      exact Scheduler.attemptNumbers_modify _ _ key assignment.attemptId
        (Scheduler.endAttempt .succeeded (draws.utcText 0)) rfl (fun _ => ⟨rfl, rfl⟩)
  | nothing => simp [Plan.newNumbers]
  | progress _ _ _ _ _ _ _ after progressed =>
    cases progressed
    simp [Scheduler.attemptNumbers, Plan.newNumbers]
  | sweep _ _ after swept =>
    cases swept
    simp [Scheduler.attemptNumbers, Plan.newNumbers]

/-- A plan that adds no attempt number makes no attempt superseded. -/
theorem newerAttemptExists (performed : Performed platform store plan reply after)
    (workUnitId : String) (attemptNumber : Nat) (none : plan.newNumbers workUnitId = []) :
    Scheduler.newerAttemptExists after workUnitId attemptNumber =
      Scheduler.newerAttemptExists store workUnitId attemptNumber := by
  rw [Scheduler.newerAttemptExists, performed.attemptNumbers, none, List.append_nil]
  rfl

end Performed

end TokenBank
