import TokenBank.Scheduler.System

/-!
# Late results and superseded attempts

An attempt is superseded once its work unit has an attempt with a greater number.
A result for a superseded attempt is late and belongs in quarantine. Whether it is
late is decided by a query before the write transaction opens, so the decision is
right exactly as long as no newer attempt is committed in between.

Of the operations on a superseded attempt, the ones that write the status of its
work unit are an acceptance, which never asks whether the attempt is superseded,
and a timely submission, which does.
-/

namespace TokenBank

namespace Lateness

/-- Each result committed between two databases is quarantined with it, or belongs
to an attempt that no other attempt of its work unit exceeds in number. -/
def QuarantinesLate (before after : Db) : Prop :=
  ∀ key row, after.resultEnvelopes.find? key = some row →
    before.resultEnvelopes.find? key = none →
    (∃ quarantineId quarantine, before.resultQuarantine.find? quarantineId = none ∧
      after.resultQuarantine.find? quarantineId = some quarantine ∧
      quarantine.resultEnvelopeId = some key) ∨
    ∃ attempt, after.executionAttempts.find? row.attemptId = some attempt ∧
      Scheduler.newerAttemptExists after row.workUnitId attempt.attemptNumber = false

/-- A submission about to be stored under an unused id meets a newer attempt only
if its lateness query already met one. -/
def StillTimely (platform : Platform) : SchedulerOp → List Db → Db → Prop
  | .submitResult draws submission, read :: attempted :: looked :: _, store =>
    ∀ assignment ∈ read.assignments.find? submission.assignmentId,
    ∀ row ∈ attempted.executionAttempts.find? assignment.attemptId,
    ∀ envelope ∈ (Scheduler.coerceResultEnvelope platform submission.resultEnvelope).toOption,
    store.resultEnvelopes.find? (Scheduler.resultId draws envelope) = none →
    Scheduler.newerAttemptExists store row.workUnitId row.attemptNumber = true →
    Scheduler.newerAttemptExists looked row.workUnitId row.attemptNumber = true
  | _, _, _ => True

instance (platform : Platform) :
    (op : SchedulerOp) → (seen : List Db) → (store : Db) →
      Decidable (StillTimely platform op seen store)
  | .submitResult draws submission, read :: attempted :: looked :: _, store =>
    inferInstanceAs (Decidable (∀ assignment ∈ read.assignments.find? submission.assignmentId,
      ∀ row ∈ attempted.executionAttempts.find? assignment.attemptId,
      ∀ envelope ∈ (Scheduler.coerceResultEnvelope platform submission.resultEnvelope).toOption,
      store.resultEnvelopes.find? (Scheduler.resultId draws envelope) = none →
      Scheduler.newerAttemptExists store row.workUnitId row.attemptNumber = true →
      Scheduler.newerAttemptExists looked row.workUnitId row.attemptNumber = true))
  | .submitResult _ _, [], _ => .isTrue trivial
  | .submitResult _ _, [_], _ => .isTrue trivial
  | .submitResult _ _, [_, _], _ => .isTrue trivial
  | .createAttempt .., _, _ => .isTrue trivial
  | .createAssignment .., _, _ => .isTrue trivial
  | .assignNextWork .., _, _ => .isTrue trivial
  | .acceptAssignment .., _, _ => .isTrue trivial
  | .rejectAssignment .., _, _ => .isTrue trivial
  | .progressAssignment .., _, _ => .isTrue trivial
  | .scheduleRetry .., _, _ => .isTrue trivial
  | .scheduleFallback .., _, _ => .isTrue trivial
  | .sweepExpiredLeases .., _, _ => .isTrue trivial

/-- Results that are not quarantined are never late, in every interleaving of
scheduler calls whose submissions are still timely when they are stored.

Only a submission files a result. A late one files its quarantine row in the same
transaction. For a timely one the lateness query found no newer attempt, hence by
assumption there is none when the transaction runs, and the transaction itself
adds none. -/
theorem late_results_quarantined (platform : Platform) (initial : Db) (fresh : Fresh initial)
    (moves : List SchedulerMove)
    (timely : Store.Along (Scheduler.move platform) (Store.Pool.AtWrites (StillTimely platform))
      (Store.Pool.idle initial) moves) :
    Store.Along (Scheduler.move platform)
      (fun pool moved => QuarantinesLate pool.store (Scheduler.move platform pool moved).store)
      (Store.Pool.idle initial) moves := by
  apply Scheduler.steps_along platform QuarantinesLate _ (StillTimely platform) initial
    fresh.wellFormed _ moves timely
  · intro db key row found absent
    rw [found] at absent
    cases absent
  · intro op seen store plan reply after wellFormed evolved planned performed writing key row
      found absent
    have changed : after ≠ store := by
      rintro rfl
      rw [found] at absent
      cases absent
    have filed : plan.newResult key = some row := by
      rw [performed.resultEnvelopes key, absent, Option.or_none] at found
      exact found
    cases SchedulerOp.plan_some platform op seen plan planned with
    | submit draws submission read attempted looked assignment attempt envelope saw admitted =>
      obtain ⟨rest, rfl⟩ : ∃ rest, seen = read :: attempted :: looked :: rest :=
        ⟨seen.drop 3, by rw [← List.take_append_drop 3 seen, saw]; simp⟩
      simp only [Plan.newResult, Option.ite_none_right_eq_some, Option.some.injEq,
        Scheduler.submittedResult_id] at filed
      obtain ⟨rfl, rfl⟩ := filed
      obtain ⟨unit, later, stored, number⟩ := admitted.stored platform wellFormed
        (evolved read (by simp)) (evolved attempted (by simp))
      cases lateness : Scheduler.newerAttemptExists looked attempt.workUnitId
          attempt.attemptNumber with
      | true =>
        rw [lateness] at performed
        refine Or.inl ⟨"quar_" ++ draws.uuid 1, Scheduler.quarantineRow draws
          submission.assignmentId assignment (Scheduler.submittedResult platform draws
            submission.assignmentId assignment submission.output true envelope),
          performed.newQuarantine_absent _ _ (if_pos rfl), ?_, ?_⟩
        · rw [performed.resultQuarantine]
          simp [Plan.newQuarantine]
        · exact congrArg some (Scheduler.submittedResult_id ..)
      | false =>
        right
        refine ⟨_, performed.attempt_kept _ later stored, ?_⟩
        rw [(Plan.attemptAfter_identity _ _ later).2, number, performed.newerAttemptExists _ _ rfl]
        change Scheduler.newerAttemptExists store assignment.workUnitId _ = false
        rw [← unit]
        have still := writing changed assignment
          ((Scheduler.assignmentForWorker_ok_iff _ _ _ _).mp admitted.found).1 attempt
          ((Scheduler.attempt_ok_iff _ _ _).mp admitted.attempt) envelope
          ((SchedulerOp.toOption_some_iff _ _).mpr
            (Scheduler.coerced_of_accepted _ _ _ _ _ admitted.accepted)) absent
        rw [lateness] at still
        simpa using still
    | _ => cases filed

/-- The calls up to an accepted assignment, one after the other. -/
def accepted : List SchedulerMove :=
  Scenario.oneByOne
    [Scenario.createAttempt 0, Scenario.assignNextWork 1, Scenario.accept 2 1 0]

/-- A retry is scheduled before the submission starts, and the late result is
quarantined. -/
theorem late_results_quarantined_retried :
    Store.Along (Scheduler.move Scenario.platform)
      (fun pool moved =>
        QuarantinesLate pool.store (Scheduler.move Scenario.platform pool moved).store)
      (Store.Pool.idle Scenario.db) (Scenario.oneByOne
        [Scenario.createAttempt 0, Scenario.assignNextWork 1, Scenario.accept 2 1 0,
          Scenario.scheduleRetry 3 0, Scenario.submit 4 1 2]) :=
  late_results_quarantined Scenario.platform Scenario.db Scenario.db_fresh _ (by decide +kernel)

/-- A retry that is committed after the lateness query of a submission and before
its transaction. -/
def overtaken : List SchedulerMove :=
  accepted ++ [.start (Scenario.submit 3 1 2), .turn 3, .turn 3, .turn 3,
    .start (Scenario.scheduleRetry 4 0), .turn 4, .turn 4, .turn 4]

/-- The overtaken submission commits a result that is not quarantined, although a
newer attempt is committed by then. -/
theorem overtaken_result_not_quarantined :
    ¬ QuarantinesLate (Scheduler.interleaved Scenario.platform Scenario.db overtaken).store
      (Scheduler.interleaved Scenario.platform Scenario.db (overtaken ++ [.turn 3])).store := by
  have stored : ((Scheduler.interleaved Scenario.platform Scenario.db
      (overtaken ++ [.turn 3])).store.resultEnvelopes.find?
        ("res_" ++ (Scenario.draws 3).uuid 0)).map
          (fun row => (row.attemptId, row.workUnitId)) = some (Scenario.attemptId 0, "wu_1") := by
    decide +kernel
  have absent : (Scheduler.interleaved Scenario.platform Scenario.db
      overtaken).store.resultEnvelopes.entries.length = 0 := by decide +kernel
  have quarantine : (Scheduler.interleaved Scenario.platform Scenario.db
      (overtaken ++ [.turn 3])).store.resultQuarantine.entries.length = 0 := by decide +kernel
  have number : ((Scheduler.interleaved Scenario.platform Scenario.db
      (overtaken ++ [.turn 3])).store.executionAttempts.find? (Scenario.attemptId 0)).map
        AttemptRow.attemptNumber = some 1 := by decide +kernel
  have newer : Scheduler.newerAttemptExists (Scheduler.interleaved Scenario.platform Scenario.db
      (overtaken ++ [.turn 3])).store "wu_1" 1 = true := by decide +kernel
  generalize (Scheduler.interleaved Scenario.platform Scenario.db (overtaken ++ [.turn 3])).store =
    after at stored quarantine number newer ⊢
  obtain ⟨row, found, ids⟩ := Option.map_eq_some_iff.mp stored
  obtain ⟨same_attempt, same_unit⟩ := Prod.ext_iff.mp ids
  obtain ⟨attempt, foundAttempt, numbered⟩ := Option.map_eq_some_iff.mp number
  intro quarantines
  rcases quarantines _ row found
    (Store.Table.find?_of_entries_nil _ (List.eq_nil_of_length_eq_zero absent) _) with
    ⟨key, quarantined, -, filed, -⟩ | ⟨other, foundOther, none⟩
  · simp [Store.Table.find?_of_entries_nil _ (List.eq_nil_of_length_eq_zero quarantine)] at filed
  · simp only at same_attempt same_unit
    rw [same_attempt] at foundOther
    have same_attempt := Option.some.inj (foundAttempt.symm.trans foundOther)
    subst same_attempt
    rw [same_unit, numbered, newer] at none
    cases none

/-! ## Superseded attempts -/

/-- The call acts on an assignment of the attempt, or sweeps them all. -/
def Concerns (db : Db) (attemptId : String) : SchedulerOp → Prop
  | .acceptAssignment _ assignmentId _ _ _ =>
    ∃ row, db.assignments.find? assignmentId = some row ∧ row.attemptId = attemptId
  | .rejectAssignment _ assignmentId _ =>
    ∃ row, db.assignments.find? assignmentId = some row ∧ row.attemptId = attemptId
  | .progressAssignment _ assignmentId _ _ _ _ =>
    ∃ row, db.assignments.find? assignmentId = some row ∧ row.attemptId = attemptId
  | .submitResult _ submission =>
    ∃ row, db.assignments.find? submission.assignmentId = some row ∧ row.attemptId = attemptId
  | .sweepExpiredLeases _ => True
  | _ => False

/-- The status of a work unit. -/
def workUnitStatus (db : Db) (workUnitId : String) : Option WorkUnitStatus :=
  (db.workUnits.find? workUnitId).map WorkUnitRow.status

/-- The call is an acceptance that passes every check, of an assignment whose work
unit is not running: the assignment is the worker's and created, its version is
the expected one, the lease has an end, and the ids of its two events are unused. -/
def Restarts (db : Db) : SchedulerOp → Prop
  | .acceptAssignment draws assignmentId workerId expectedLeaseVersion leaseDurationMs =>
    ∃ row, db.assignments.find? assignmentId = some row ∧ row.workerId = workerId ∧
      row.status = .created ∧ row.leaseVersion = expectedLeaseVersion ∧
      Db.bindable (expectedLeaseVersion + 1) = true ∧ Db.bindable expectedLeaseVersion = true ∧
      (∃ expiresAt, Lease.leaseExpiry draws 0 leaseDurationMs = .ok expiresAt) ∧
      Outbox.Unused db.eventOutbox ["evt_" ++ draws.uuid 1, "evt_" ++ draws.uuid 3] ∧
      workUnitStatus db row.workUnitId ≠ some .running
  | _ => False

/-- An acceptance that passes every check is performed. -/
theorem restart_returns (platform : Platform) (db : Db) (wellFormed : WellFormed db)
    (draws : Draws) (assignmentId workerId : String) (expectedLeaseVersion leaseDurationMs : Int)
    (restarts : Restarts db (.acceptAssignment draws assignmentId workerId expectedLeaseVersion
      leaseDurationMs)) :
    ∃ reply after, Scheduler.runAlone platform (.acceptAssignment draws assignmentId workerId
      expectedLeaseVersion leaseDurationMs) db = (.ok reply, after) := by
  obtain ⟨row, found, worker, created, rfl, next, bound, ⟨expiresAt, expiry⟩, unused, -⟩ := restarts
  obtain ⟨attempt, attempted, sameUnit⟩ := wellFormed.assignments assignmentId row found
  have present := wellFormed.attempts _ attempt attempted
  rw [sameUnit] at present
  obtain ⟨outbox, events⟩ := (Outbox.enqueueAll_some_iff db.eventOutbox
    [(Lifecycle.statusEvent draws 0 row.workUnitId .running "scheduler" (some "work_unit.running"),
        draws.utcText 4),
      (Scheduler.acceptedEvent draws assignmentId workerId row (row.leaseVersion + 1),
        draws.utcText 5)]).mpr unused
  have accepted : Scheduler.Accepted platform draws assignmentId workerId row.leaseVersion
      expiresAt row db _ _ :=
    .intro row outbox found rfl ⟨next, bound⟩ (Option.isSome_iff_ne_none.mp present) events
  refine ⟨_, _, (Scheduler.runAlone_ok_iff platform _ db _ _ wellFormed).mpr
    ⟨.accept draws assignmentId workerId row.leaseVersion expiresAt row, ?_,
      .accept _ _ _ _ _ _ _ _ accepted⟩⟩
  have own := (Scheduler.assignmentForWorker_ok_iff assignmentId workerId db row).mpr
    ⟨found, worker⟩
  simp [SchedulerOp.plan, SchedulerOp.acceptPlan, own, created, expiry, Except.toOption]

/-- The status of a work unit after a plan is performed. -/
theorem workUnitStatus_after {platform : Platform} {store after : Db} {plan : Plan} {reply : Reply}
    (performed : Performed platform store plan reply after) (key : String)
    (keeps : ∀ row, (plan.workUnitAfter key row).status = row.status) :
    workUnitStatus after key = workUnitStatus store key := by
  unfold workUnitStatus
  rw [performed.workUnits key, Option.map_map]
  congr 1
  funext row
  exact keeps row

section Acceptances

variable {platform : Platform} {db after : Db} {draws : Draws} {assignmentId workerId : String}
  {expectedLeaseVersion : Int} {expiresAt : String} {assignment : AssignmentRow} {reply : Reply}

/-- An acceptance leaves its work unit running. -/
theorem accepted_running
    (performed : Performed platform db
      (.accept draws assignmentId workerId expectedLeaseVersion expiresAt assignment) reply after) :
    workUnitStatus after assignment.workUnitId = some .running := by
  have rewritten := performed.workUnits assignment.workUnitId
  cases performed with
  | accept _ _ _ _ _ _ grant after accepted =>
    obtain ⟨row, outbox, found, version, bound, present, events⟩ := accepted
    obtain ⟨workUnit, read⟩ := Option.ne_none_iff_exists'.mp present
    unfold workUnitStatus
    rw [rewritten, read]
    simp [Plan.workUnitAfter]

/-- An acceptance that is performed passed every check, so that it restarts its work
unit exactly when that was not running. -/
theorem accepted_restarts_iff
    (performed : Performed platform db
      (.accept draws assignmentId workerId expectedLeaseVersion expiresAt assignment) reply after)
    (leaseDurationMs : Int)
    (own : Scheduler.assignmentForWorker assignmentId workerId db = .ok assignment)
    (created : assignment.status = .created)
    (expiry : Lease.leaseExpiry draws 0 leaseDurationMs = .ok expiresAt) :
    Restarts db (.acceptAssignment draws assignmentId workerId expectedLeaseVersion
      leaseDurationMs) ↔ workUnitStatus db assignment.workUnitId ≠ some .running := by
  cases performed with
  | accept _ _ _ _ _ _ grant after accepted =>
    obtain ⟨row, outbox, found, version, ⟨next, bound⟩, present, events⟩ := accepted
    obtain ⟨same_row, worker⟩ := Scheduler.assignmentForWorker_stored _ _ _ row assignment found own
    subst same_row
    have unused := (Outbox.enqueueAll_some_iff _ _).mp ⟨outbox, events⟩
    constructor
    · rintro ⟨other, foundOther, -, -, -, -, -, -, -, changes⟩
      have same_row := Option.some.inj (found.symm.trans foundOther)
      subst same_row
      exact changes
    · intro changes
      exact ⟨row, found, worker, created, version, version ▸ next, bound, ⟨expiresAt, expiry⟩,
        unused, changes⟩

end Acceptances

/-- In every reachable database, a call on an assignment of a superseded attempt, or
a sweep, leaves the status of the work unit unless it is an acceptance that goes
through while the work unit is not running.

The plans that write a work unit are those of an acceptance and of a timely
submission. A submission for a superseded attempt is late. An acceptance writes
`running`, which is a change exactly when the status was another one. -/
theorem superseded_inert_iff (platform : Platform) (db : Db) (reachable : Reachable platform db)
    (attemptId : String) (attempt : AttemptRow)
    (attempted : db.executionAttempts.find? attemptId = some attempt)
    (superseded : Scheduler.newerAttemptExists db attempt.workUnitId attempt.attemptNumber = true)
    (op : SchedulerOp) (concerns : Concerns db attemptId op) :
    workUnitStatus (Scheduler.step platform db op) attempt.workUnitId =
        workUnitStatus db attempt.workUnitId ↔
      ¬ Restarts db op := by
  have wellFormed := reachable.wellFormed
  have unit_of (assignmentId : String) (row : AssignmentRow)
      (found : db.assignments.find? assignmentId = some row) (same : row.attemptId = attemptId) :
      row.workUnitId = attempt.workUnitId := by
    obtain ⟨named, foundNamed, namedUnit⟩ := wellFormed.assignments assignmentId row found
    rw [same] at foundNamed
    have same_attempt := Option.some.inj (attempted.symm.trans foundNamed)
    subst same_attempt
    exact namedUnit.symm
  rcases Scheduler.step_cases platform op db wellFormed with
    ⟨error, raised, same⟩ | ⟨reply, plan, returned, planned, performed⟩
  · rw [same]
    refine iff_of_true rfl ?_
    intro restarts
    cases op with
    | acceptAssignment draws assignmentId workerId expectedLeaseVersion leaseDurationMs =>
      obtain ⟨reply, after, returned⟩ := restart_returns platform db wellFormed _ _ _ _ _ restarts
      rw [returned] at raised
      cases raised
    | _ => exact restarts
  · generalize Scheduler.step platform db op = after at performed ⊢
    cases SchedulerOp.plan_some platform op _ plan planned with
    | nothing | createAttempt | scheduleRetry | scheduleFallback | createAssignment
    | assignNextWork => exact concerns.elim
    | reject | progress | sweep =>
      exact iff_of_true (workUnitStatus_after performed _ (fun _ => rfl)) id
    | submit draws submission read seenAttempt looked assignment row envelope saw admitted =>
      obtain ⟨rfl, rfl, rfl⟩ : db = read ∧ db = seenAttempt ∧ db = looked := by simpa using saw
      obtain ⟨stored, found, same⟩ := concerns
      obtain ⟨same_row, -⟩ :=
        Scheduler.assignmentForWorker_stored _ _ _ stored assignment found admitted.found
      subst same_row
      have read_attempt := (Scheduler.attempt_ok_iff _ _ _).mp admitted.attempt
      rw [same] at read_attempt
      have same_attempt := Option.some.inj (attempted.symm.trans read_attempt)
      subst same_attempt
      refine iff_of_true (workUnitStatus_after performed _ ?_) id
      intro unit
      simp [Plan.workUnitAfter, superseded]
    | accept draws assignmentId workerId expectedLeaseVersion leaseDurationMs read assignment
        expiresAt looked own created expiry =>
      have same_db : db = read := by simpa [eq_comm] using looked
      subst same_db
      obtain ⟨stored, found, same⟩ := concerns
      obtain ⟨same_row, -⟩ := Scheduler.assignmentForWorker_stored _ _ _ stored assignment found own
      subst same_row
      have unit := unit_of assignmentId stored found same
      have running := accepted_running performed
      have restarts := accepted_restarts_iff performed leaseDurationMs own created expiry
      rw [unit] at running restarts
      rw [running, restarts, not_not, eq_comm]

/-- The calls that supersede an attempt with an assignment: its retry is assigned,
accepted and completed, so that the work unit has succeeded. -/
def superseding : List SchedulerOp :=
  [Scenario.createAttempt 0, Scenario.assignNextWork 1, Scenario.scheduleRetry 2 0,
    Scenario.assignNextWork 3, Scenario.accept 4 3 0, Scenario.submit 5 3 4]

/-- Rejecting the assignment of the superseded attempt leaves the work unit alone. -/
theorem superseded_rejection_inert :
    workUnitStatus (Scheduler.step Scenario.platform
        (Store.run (Scheduler.step Scenario.platform) Scenario.db superseding)
        (Scenario.reject 6 1)) "wu_1" =
      workUnitStatus (Store.run (Scheduler.step Scenario.platform) Scenario.db superseding)
        "wu_1" := by
  have numbered : ((Store.run (Scheduler.step Scenario.platform) Scenario.db
      superseding).executionAttempts.find? (Scenario.attemptId 0)).map
        (fun row => (row.workUnitId, row.attemptNumber)) = some ("wu_1", 1) := by decide +kernel
  have assigned : ((Store.run (Scheduler.step Scenario.platform) Scenario.db
      superseding).assignments.find? (Scenario.assignmentId 1)).map AssignmentRow.attemptId =
        some (Scenario.attemptId 0) := by decide +kernel
  obtain ⟨attempt, found, ids⟩ := Option.map_eq_some_iff.mp numbered
  obtain ⟨unit, number⟩ := Prod.ext_iff.mp ids
  obtain ⟨assignment, foundAssignment, same⟩ := Option.map_eq_some_iff.mp assigned
  simp only at unit number
  rw [← unit]
  exact (superseded_inert_iff Scenario.platform _
    ((Reachable.fresh Scenario.db_fresh).run superseding) (Scenario.attemptId 0) attempt found
    (by rw [unit, number]; decide +kernel) (Scenario.reject 6 1)
    ⟨assignment, foundAssignment, same⟩).mpr id

/-- Accepting it makes the succeeded work unit run again. -/
theorem superseded_acceptance_restarts :
    let before := Store.run (Scheduler.step Scenario.platform) Scenario.db superseding
    let after := Scheduler.step Scenario.platform before (Scenario.accept 6 1 0)
    Scheduler.newerAttemptExists before "wu_1" 1 = true ∧
      (before.executionAttempts.find? (Scenario.attemptId 0)).map AttemptRow.attemptNumber =
        some 1 ∧
      (before.assignments.find? (Scenario.assignmentId 1)).map AssignmentRow.attemptId =
        some (Scenario.attemptId 0) ∧
      workUnitStatus before "wu_1" = some .succeeded ∧
      workUnitStatus after "wu_1" = some .running := by
  decide +kernel

end Lateness

end TokenBank
