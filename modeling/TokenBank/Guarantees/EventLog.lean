import TokenBank.Events.Replay
import TokenBank.Scheduler.System

/-!
# The outbox accounts for every status

Every transaction that writes a status enqueues the events that report it. So the
events committed since the start of a run, read in the order of their sequence
numbers, give the status of every assignment, of every attempt and of every work
unit that was touched, whatever calls were interleaved.

One transaction is a simulation step: the statuses after it are those before it,
with the notes of its events read on top. An event names the attempt and the work
unit of the row its call read, possibly long before; an assignment keeps both, so
the event names the rows the transaction writes.
-/

namespace TokenBank

/-- What the events of a plan say about statuses. -/
def Plan.notes : Plan → List (Subject × String)
  | .nothing => []
  | .insertAttempt draws _ _ _ status _ _ => [(.attempt (Scheduler.attemptId draws), status.text)]
  | .insertAssignment draws request workUnitId =>
    [(.workUnit workUnitId, "assigned"), (.assignment (Scheduler.assignmentId draws), "created"),
      (.attempt request.attemptId, "assigned")]
  | .accept _ assignmentId _ _ _ assignment =>
    [(.workUnit assignment.workUnitId, "running"), (.assignment assignmentId, "accepted"),
      (.attempt assignment.attemptId, "running")]
  | .reject _ assignmentId _ assignment =>
    [(.assignment assignmentId, "rejected"), (.attempt assignment.attemptId, "failed")]
  | .progress _ assignmentId _ _ _ _ => [(.assignment assignmentId, "running")]
  | .submit _ assignmentId assignment true _ =>
    [(.assignment assignmentId, "quarantined"), (.attempt assignment.attemptId, "quarantined")]
  | .submit _ assignmentId assignment false _ =>
    [(.workUnit assignment.workUnitId, "succeeded"), (.assignment assignmentId, "completed"),
      (.attempt assignment.attemptId, "succeeded")]
  | .sweep _ rows => rows.map (fun entry => (.assignment entry.1, "expired"))

namespace EventLog

/-- The call creates attempts with the default status and event type. -/
def Default : SchedulerOp → Prop
  | .createAttempt _ _ _ _ status eventType => status = .created ∧ eventType = "attempt.created"
  | _ => True

instance : (op : SchedulerOp) → Decidable (Default op)
  | .createAttempt _ _ _ _ status eventType =>
    inferInstanceAs (Decidable (status = .created ∧ eventType = "attempt.created"))
  | .createAssignment .. => .isTrue trivial
  | .assignNextWork .. => .isTrue trivial
  | .acceptAssignment .. => .isTrue trivial
  | .rejectAssignment .. => .isTrue trivial
  | .progressAssignment .. => .isTrue trivial
  | .submitResult .. => .isTrue trivial
  | .scheduleRetry .. => .isTrue trivial
  | .scheduleFallback .. => .isTrue trivial
  | .sweepExpiredLeases .. => .isTrue trivial

/-- What is read off the rows committed since the start of a run is what the tables
store: for every assignment and attempt, and for every work unit the rows mention.
A work unit they do not mention is as it was at the start. -/
structure Reproduces (initial db : Db) : Prop where
  assignments : ∀ id, db.statuses (.assignment id) =
    Replay.folded (Replay.committedSince initial.eventOutbox db.eventOutbox) (.assignment id)
  attempts : ∀ id, db.statuses (.attempt id) =
    Replay.folded (Replay.committedSince initial.eventOutbox db.eventOutbox) (.attempt id)
  touched : ∀ id status,
    Replay.folded (Replay.committedSince initial.eventOutbox db.eventOutbox) (.workUnit id) =
      some status → db.statuses (.workUnit id) = some status
  untouched : ∀ id,
    Replay.folded (Replay.committedSince initial.eventOutbox db.eventOutbox) (.workUnit id) =
      none → db.workUnits.find? id = initial.workUnits.find? id

/-- The events of a sweep say that the listed assignments expired. -/
theorem sweepEvents_notes (draws : Draws) (position : Nat) (rows : List (String × AssignmentRow)) :
    Replay.ofBatch (Scheduler.sweepEvents draws position rows) =
      rows.map (fun entry => (Subject.assignment entry.1, "expired")) := by
  induction rows generalizing position with
  | nil => rfl
  | cons head rest inductionHypothesis =>
    obtain ⟨assignmentId, assignment⟩ := head
    have later := inductionHypothesis (position + 1)
    rw [Replay.ofBatch] at later
    rw [Scheduler.sweepEvents, Replay.ofBatch, List.flatMap_cons, later]
    rfl

section Steps

variable {platform : Platform} {store after : Db} {op : SchedulerOp} {seen : List Db} {plan : Plan}
  {reply : Reply}

/-- A performed plan has enqueued events that say what its notes say. -/
theorem performed_events (planned : SchedulerOp.Planned platform seen op plan) (default : Default op)
    (performed : Performed platform store plan reply after) :
    ∃ events, Outbox.enqueueAll store.eventOutbox events = some after.eventOutbox ∧
      Replay.ofBatch events = plan.notes := by
  cases performed with
  | nothing => exact ⟨[], rfl, rfl⟩
  | insertAttempt draws workUnitId routePlanId policyDecisionId status eventType number after
      inserted =>
    obtain ⟨attempts, outbox, references, stored, events⟩ := inserted
    refine ⟨_, events, ?_⟩
    cases planned with
    | createAttempt =>
      obtain ⟨created, type⟩ := default
      subst created type
      rfl
    | scheduleRetry => rfl
    | scheduleFallback => rfl
  | insertAssignment draws request workUnitId after inserted =>
    obtain ⟨assignments, outbox, attempted, workUnit, stored, events⟩ := inserted
    exact ⟨_, events, rfl⟩
  | accept draws assignmentId workerId expectedLeaseVersion expiresAt assignment grant after
      accepted =>
    obtain ⟨row, outbox, found, version, fits, workUnit, events⟩ := accepted
    exact ⟨_, events, rfl⟩
  | reject draws assignmentId workerId assignment after rejected =>
    obtain ⟨outbox, events⟩ := rejected
    exact ⟨_, events, rfl⟩
  | progress draws assignmentId workerId expectedLeaseVersion expiresAt assignment reply after
      progressed =>
    obtain ⟨row, outbox, found, version, fits, events⟩ := progressed
    exact ⟨_, events, rfl⟩
  | submit draws assignmentId assignment late result after submitted =>
    cases submitted with
    | late envelopes quarantine outbox workUnit attempted assigned inserted quarantined events =>
      exact ⟨_, events, rfl⟩
    | timely envelopes outbox workUnit assigned inserted events => exact ⟨_, events, rfl⟩
  | sweep draws rows after swept =>
    obtain ⟨outbox, events⟩ := swept
    exact ⟨_, events, sweepEvents_notes draws 0 rows⟩

/-- The assignment a call read is still there, and its attempt with it. -/
theorem stored_assignment {read : Db} {assignmentId workerId : String}
    {assignment : AssignmentRow} (wellFormed : WellFormed store) (evolved : Evolves read store)
    (own : Scheduler.assignmentForWorker assignmentId workerId read = .ok assignment) :
    (store.assignments.find? assignmentId).isSome = true ∧
      (store.executionAttempts.find? assignment.attemptId).isSome = true := by
  have stored := ((Scheduler.assignmentForWorker_ok_iff _ _ _ _).mp own).1
  obtain ⟨later, found, sameAttempt, -⟩ := evolved.assignments assignmentId assignment stored
  obtain ⟨attempt, foundAttempt, -⟩ := wellFormed.assignments assignmentId later found
  rw [sameAttempt] at foundAttempt
  exact ⟨by simp [found], by simp [foundAttempt]⟩

/-- What a plan's notes mention is there, unless the plan files it. -/
structure Mentioned (store : Db) (plan : Plan) : Prop where
  assignment : ∀ id, (∃ status, (Subject.assignment id, status) ∈ plan.notes) →
    plan.newAssignment id = none → (store.assignments.find? id).isSome = true
  attempt : ∀ id, (∃ status, (Subject.attempt id, status) ∈ plan.notes) →
    plan.newAttempt id = none → (store.executionAttempts.find? id).isSome = true
  workUnit : ∀ id, (∃ status, (Subject.workUnit id, status) ∈ plan.notes) →
    (store.workUnits.find? id).isSome = true

/-- A performed plan mentions only what is there or what it files. -/
theorem performed_mentioned (wellFormed : WellFormed store)
    (evolved : ∀ earlier ∈ seen, Evolves earlier store)
    (planned : SchedulerOp.Planned platform seen op plan)
    (performed : Performed platform store plan reply after) : Mentioned store plan := by
  cases planned with
  | nothing => constructor <;> simp [Plan.notes]
  | createAttempt | scheduleRetry | scheduleFallback =>
    constructor
    · simp [Plan.notes]
    · intro id noted unfiled
      simp_all [Plan.notes, Plan.newAttempt]
    · simp [Plan.notes]
  | createAssignment | assignNextWork =>
    cases performed with
    | insertAssignment _ _ _ after inserted =>
      obtain ⟨assignments, outbox, attempted, workUnit, stored, events⟩ := inserted
      constructor
      · intro id noted unfiled
        simp_all [Plan.notes, Plan.newAssignment]
      · intro id noted unfiled
        simp_all [Plan.notes]
      · intro id noted
        simp_all [Plan.notes]
  | accept draws assignmentId workerId expectedLeaseVersion leaseDurationMs read assignment
      expiresAt looked own created expiry =>
    have stored := stored_assignment wellFormed (evolved read looked) own
    cases performed with
    | accept _ _ _ _ _ _ grant after accepted =>
      obtain ⟨row, outbox, found, version, fits, workUnit, events⟩ := accepted
      have present := Option.isSome_iff_ne_none.mpr workUnit
      constructor <;> simp_all [Plan.notes]
  | reject draws assignmentId workerId read assignment looked own =>
    have stored := stored_assignment wellFormed (evolved read looked) own
    constructor <;> simp_all [Plan.notes]
  | progress draws assignmentId workerId leaseToken expectedLeaseVersion leaseDurationMs read
      assignment expiresAt looked own matched expiry =>
    have stored := stored_assignment wellFormed (evolved read looked) own
    constructor <;> simp_all [Plan.notes]
  | submit draws submission read attempted looked assignment attempt envelope saw admitted =>
    have inSeen : read ∈ seen := List.mem_of_mem_take (saw ▸ List.mem_cons_self)
    have stored := stored_assignment wellFormed (evolved read inSeen) admitted.found
    cases performed with
    | submit _ _ _ _ _ after submitted =>
      generalize Scheduler.newerAttemptExists looked attempt.workUnitId attempt.attemptNumber =
        late at submitted
      cases submitted with
      | late envelopes quarantine outbox workUnit attempted assigned inserted quarantined events =>
        constructor <;> simp_all [Plan.notes]
      | timely envelopes outbox workUnit assigned inserted events =>
        constructor <;> simp_all [Plan.notes]
  | sweep draws read looked =>
    constructor
    · intro id noted unfiled
      obtain ⟨status, member⟩ := noted
      obtain ⟨entry, listed, same⟩ := List.mem_map.mp member
      have inRead := (Store.Table.mem_entries_iff _ _ _).mp (List.mem_filter.mp listed).1
      obtain ⟨later, found, -⟩ := (evolved read looked).assignments _ _ inRead
      simp only [Prod.mk.injEq, Subject.assignment.injEq] at same
      simp [← same.1, found]
    · simp [Plan.notes]
    · simp [Plan.notes]

/-- The statuses of assignments after a plan. -/
theorem assignment_statuses (mentioned : Mentioned store plan)
    (performed : Performed platform store plan reply after) (id : String) :
    after.statuses (.assignment id) = Store.replay store.statuses plan.notes (.assignment id) := by
  have here := mentioned.assignment id
  rw [Db.statuses, performed.assignments id]
  cases plan with
  | nothing | insertAttempt =>
    simp [Plan.newAssignment, Plan.assignmentAfter, Plan.notes, Db.statuses]
  | insertAssignment draws request workUnitId =>
    by_cases same : id = Scheduler.assignmentId draws
    · simp [Plan.newAssignment, Plan.notes, same, Scheduler.assignmentRow, AssignmentStatus.text]
    · simp [Plan.newAssignment, Plan.assignmentAfter, Plan.notes, Db.statuses, same]
  | accept draws assignmentId | reject draws assignmentId | progress draws assignmentId =>
    by_cases same : id = assignmentId
    · subst same
      obtain ⟨row, found⟩ := Option.isSome_iff_exists.mp (here (by simp [Plan.notes]) rfl)
      simp [Plan.newAssignment, Plan.assignmentAfter, Plan.notes, found, Lease.LeaseUpdate.apply,
        Scheduler.acceptUpdate, Scheduler.rejectRow, Scheduler.progressUpdate,
        AssignmentStatus.text]
    · simp [Plan.newAssignment, Plan.assignmentAfter, Plan.notes, Db.statuses, same]
  | submit draws assignmentId assignment late result =>
    by_cases same : id = assignmentId
    · subst same
      have noted : ∃ status, (Subject.assignment id, status) ∈
          (Plan.submit draws id assignment late result).notes := by
        cases late <;> simp [Plan.notes]
      obtain ⟨row, found⟩ := Option.isSome_iff_exists.mp (here noted rfl)
      cases late <;> simp [Plan.newAssignment, Plan.assignmentAfter, Plan.notes, found,
        Scheduler.completeRow, AssignmentStatus.text]
    · cases late <;> simp [Plan.newAssignment, Plan.assignmentAfter, Plan.notes, Db.statuses, same]
  | sweep draws rows =>
    simp only [Plan.newAssignment, Option.none_or, Plan.assignmentAfter, Option.map_map,
      Function.comp_def, Scheduler.expiredRow_status]
    by_cases listed : id ∈ rows.map Prod.fst
    · obtain ⟨entry, member, same⟩ := List.mem_map.mp listed
      have noted : (Subject.assignment id, "expired") ∈ (Plan.sweep draws rows).notes :=
        List.mem_map.mpr ⟨entry, member, by rw [same]⟩
      obtain ⟨row, found⟩ := Option.isSome_iff_exists.mp (here ⟨_, noted⟩ rfl)
      have all_expired : ∀ note ∈ (Plan.sweep draws rows).notes,
          note.1 = Subject.assignment id → note.2 = "expired" := by
        intro note inNotes _
        obtain ⟨other, -, same_note⟩ := List.mem_map.mp inNotes
        exact (congrArg Prod.snd same_note).symm
      rw [Store.replay_of_same _ _ _ "expired" ⟨_, noted, rfl⟩ all_expired]
      simp [found, listed, AssignmentStatus.text]
    · have unmentioned : ∀ note ∈ (Plan.sweep draws rows).notes,
          note.1 ≠ Subject.assignment id := by
        intro note inNotes about
        obtain ⟨other, member, same_note⟩ := List.mem_map.mp inNotes
        have same_id : other.1 = id := by simpa [← same_note] using about
        exact listed (List.mem_map.mpr ⟨other, member, same_id⟩)
      rw [Store.replay_of_unmentioned _ _ _ unmentioned]
      simp [Db.statuses, listed]

/-- A sweep says nothing about attempts and work units. -/
theorem sweep_notes (draws : Draws) (rows : List (String × AssignmentRow)) (subject : Subject)
    (other : ∀ id, subject ≠ .assignment id) :
    ∀ note ∈ (Plan.sweep draws rows).notes, note.1 ≠ subject := by
  intro note inNotes about
  obtain ⟨entry, -, same_note⟩ := List.mem_map.mp inNotes
  exact other entry.1 (about.symm.trans (congrArg Prod.fst same_note).symm)

/-- The statuses of attempts after a plan. -/
theorem attempt_statuses (mentioned : Mentioned store plan)
    (performed : Performed platform store plan reply after) (id : String) :
    after.statuses (.attempt id) = Store.replay store.statuses plan.notes (.attempt id) := by
  have here := mentioned.attempt id
  rw [Db.statuses, performed.attempts id]
  cases plan with
  | nothing | progress => simp [Plan.newAttempt, Plan.attemptAfter, Plan.notes, Db.statuses]
  | insertAttempt draws workUnitId routePlanId policyDecisionId status eventType number =>
    by_cases same : id = Scheduler.attemptId draws
    · simp [Plan.newAttempt, Plan.notes, same, Scheduler.attemptRow]
    · simp [Plan.newAttempt, Plan.attemptAfter, Plan.notes, Db.statuses, same]
  | insertAssignment draws request workUnitId =>
    by_cases same : id = request.attemptId
    · subst same
      obtain ⟨row, found⟩ := Option.isSome_iff_exists.mp (here (by simp [Plan.notes]) rfl)
      simp [Plan.newAttempt, Plan.attemptAfter, Plan.notes, found, ExecutionAttemptStatus.text]
    · simp [Plan.newAttempt, Plan.attemptAfter, Plan.notes, Db.statuses, same]
  | accept _ _ _ _ _ assignment | reject _ _ _ assignment =>
    by_cases same : id = assignment.attemptId
    · subst same
      obtain ⟨row, found⟩ := Option.isSome_iff_exists.mp (here (by simp [Plan.notes]) rfl)
      simp [Plan.newAttempt, Plan.attemptAfter, Plan.notes, found, Scheduler.startAttempt,
        Scheduler.endAttempt, ExecutionAttemptStatus.text]
    · simp [Plan.newAttempt, Plan.attemptAfter, Plan.notes, Db.statuses, same]
  | submit draws assignmentId assignment late result =>
    by_cases same : id = assignment.attemptId
    · subst same
      have noted : ∃ status, (Subject.attempt assignment.attemptId, status) ∈
          (Plan.submit draws assignmentId assignment late result).notes := by
        cases late <;> simp [Plan.notes]
      obtain ⟨row, found⟩ := Option.isSome_iff_exists.mp (here noted rfl)
      cases late <;> simp [Plan.newAttempt, Plan.attemptAfter, Plan.notes, found,
        Scheduler.endAttempt, ExecutionAttemptStatus.text]
    · cases late <;> simp [Plan.newAttempt, Plan.attemptAfter, Plan.notes, Db.statuses, same]
  | sweep draws rows =>
    rw [Store.replay_of_unmentioned _ _ _ (sweep_notes draws rows _ (by simp))]
    simp [Plan.newAttempt, Plan.attemptAfter, Db.statuses]

/-- The statuses of work units after a plan. -/
theorem workUnit_statuses (mentioned : Mentioned store plan)
    (performed : Performed platform store plan reply after) (id : String) :
    after.statuses (.workUnit id) = Store.replay store.statuses plan.notes (.workUnit id) := by
  have here := mentioned.workUnit id
  rw [Db.statuses, performed.workUnits id]
  cases plan with
  | nothing | insertAttempt | reject | progress =>
    simp [Plan.workUnitAfter, Plan.notes, Db.statuses]
  | insertAssignment _ _ workUnitId =>
    by_cases same : id = workUnitId
    · subst same
      obtain ⟨row, found⟩ := Option.isSome_iff_exists.mp (here (by simp [Plan.notes]))
      simp [Plan.workUnitAfter, Plan.notes, found, WorkUnitStatus.text]
    · simp [Plan.workUnitAfter, Plan.notes, Db.statuses, same]
  | accept _ _ _ _ _ assignment =>
    by_cases same : id = assignment.workUnitId
    · subst same
      obtain ⟨row, found⟩ := Option.isSome_iff_exists.mp (here (by simp [Plan.notes]))
      simp [Plan.workUnitAfter, Plan.notes, found, WorkUnitStatus.text]
    · simp [Plan.workUnitAfter, Plan.notes, Db.statuses, same]
  | submit draws assignmentId assignment late result =>
    cases late with
    | true => simp [Plan.workUnitAfter, Plan.notes, Db.statuses]
    | false =>
      by_cases same : id = assignment.workUnitId
      · subst same
        obtain ⟨row, found⟩ := Option.isSome_iff_exists.mp (here (by simp [Plan.notes]))
        simp [Plan.workUnitAfter, Plan.notes, found, WorkUnitStatus.text]
      · simp [Plan.workUnitAfter, Plan.notes, Db.statuses, same]
  | sweep draws rows =>
    rw [Store.replay_of_unmentioned _ _ _ (sweep_notes draws rows _ (by simp))]
    simp [Plan.workUnitAfter, Db.statuses]

/-- Performing a plan and reading its notes are one step of the simulation. -/
theorem performed_statuses (mentioned : Mentioned store plan)
    (performed : Performed platform store plan reply after) :
    after.statuses = Store.replay store.statuses plan.notes := by
  funext subject
  cases subject with
  | assignment id => exact assignment_statuses mentioned performed id
  | attempt id => exact attempt_statuses mentioned performed id
  | workUnit id => exact workUnit_statuses mentioned performed id

/-- A work unit that a plan's notes do not mention is left as it is. -/
theorem workUnitAfter_unmentioned (plan : Plan) (id : String) (row : WorkUnitRow)
    (unmentioned : ∀ note ∈ plan.notes, note.1 ≠ .workUnit id) :
    plan.workUnitAfter id row = row := by
  cases plan with
  | nothing | insertAttempt | reject | progress | sweep => rfl
  | insertAssignment _ _ workUnitId =>
    have other : id ≠ workUnitId := by
      intro same
      exact unmentioned (.workUnit workUnitId, "assigned") (by simp [Plan.notes]) (by rw [same])
    simp [Plan.workUnitAfter, other]
  | accept _ _ _ _ _ assignment =>
    have other : id ≠ assignment.workUnitId := by
      intro same
      exact unmentioned (.workUnit assignment.workUnitId, "running") (by simp [Plan.notes])
        (by rw [same])
    simp [Plan.workUnitAfter, other]
  | submit _ _ assignment late =>
    cases late with
    | true => simp [Plan.workUnitAfter]
    | false =>
      have other : id ≠ assignment.workUnitId := by
        intro same
        exact unmentioned (.workUnit assignment.workUnitId, "succeeded") (by simp [Plan.notes])
          (by rw [same])
      simp [Plan.workUnitAfter, other]

end Steps

/-- The events enqueued since the start of a run, and what they account for. -/
structure Accounts (initial db : Db) (events : List (OutboxEventInput × String)) : Prop where
  enqueued : Outbox.enqueueAll initial.eventOutbox events = some db.eventOutbox
  statuses : db.statuses = Store.replay initial.statuses (Replay.ofBatch events)
  unmentioned : ∀ id, (∀ note ∈ Replay.ofBatch events, note.1 ≠ .workUnit id) →
    db.workUnits.find? id = initial.workUnits.find? id

/-- One more performed plan is accounted for by its events. -/
theorem performed_accounts {platform : Platform} {initial store after : Db} {op : SchedulerOp}
    {seen : List Db} {plan : Plan} {reply : Reply} (wellFormed : WellFormed store)
    (evolved : ∀ earlier ∈ seen, Evolves earlier store)
    (planned : SchedulerOp.Planned platform seen op plan) (default : Default op)
    (performed : Performed platform store plan reply after)
    (accounted : ∃ events, Accounts initial store events) : ∃ events, Accounts initial after events := by
  obtain ⟨earlier, enqueued, statuses, unmentioned⟩ := accounted
  obtain ⟨events, more, notes⟩ := performed_events planned default performed
  have mentioned := performed_mentioned wellFormed evolved planned performed
  have together : Replay.ofBatch (earlier ++ events) = Replay.ofBatch earlier ++ plan.notes := by
    rw [← notes, Replay.ofBatch, List.flatMap_append]
    rfl
  refine ⟨earlier ++ events, ?_, ?_, ?_⟩
  · rw [Outbox.enqueueAll_append, enqueued]
    exact more
  · rw [together, Store.replay_append, ← statuses]
    exact performed_statuses mentioned performed
  · intro id absent
    rw [together] at absent
    have before : ∀ note ∈ Replay.ofBatch earlier, note.1 ≠ .workUnit id :=
      fun note member => absent note (List.mem_append_left _ member)
    have now : ∀ note ∈ plan.notes, note.1 ≠ .workUnit id :=
      fun note member => absent note (List.mem_append_right _ member)
    rw [performed.workUnits id, ← unmentioned id before]
    cases found : store.workUnits.find? id with
    | none => rfl
    | some row => simp [workUnitAfter_unmentioned plan id row now]

/-- What events account for is reproduced from the committed rows, when there were
no attempts and assignments at the start. -/
theorem Accounts.reproduces {initial db : Db} {events : List (OutboxEventInput × String)}
    (accounts : Accounts initial db events) (fresh : Fresh initial) : Reproduces initial db := by
  have folded : Replay.folded (Replay.committedSince initial.eventOutbox db.eventOutbox) =
      Store.replay (fun _ => none) (Replay.ofBatch events) := by
    rw [Replay.committedSince_enqueueAll _ _ events accounts.enqueued, Replay.folded,
      Replay.pendingEntries_notes]
  have read (subject : Subject) : db.statuses subject =
      (Store.replay (fun _ => none) (Replay.ofBatch events) subject).or
        (initial.statuses subject) := by
    rw [accounts.statuses, Store.replay_eq_or]
  constructor
  · intro id
    have before : initial.statuses (.assignment id) = none := by
      simp [Db.statuses, Store.Table.find?_of_entries_nil _ fresh.assignments]
    rw [folded, read, before, Option.or_none]
  · intro id
    have before : initial.statuses (.attempt id) = none := by
      simp [Db.statuses, Store.Table.find?_of_entries_nil _ fresh.attempts]
    rw [folded, read, before, Option.or_none]
  · intro id status said
    rw [folded] at said
    rw [read, said, Option.some_or]
  · intro id silent
    rw [folded] at silent
    exact accounts.unmentioned id (Store.unmentioned_of_replay _ _ _ silent)

/-- After every interleaving of calls from a fresh database in which attempts are
created with the defaults, reading the committed events in the order of their
sequence numbers gives the status of every assignment, of every attempt and of
every touched work unit. -/
theorem reproduces_interleaved (platform : Platform) (initial : Db) (fresh : Fresh initial)
    (moves : List SchedulerMove) (defaults : ∀ op, .start op ∈ moves → Default op) :
    Reproduces initial (Scheduler.interleaved platform initial moves).store := by
  have allowed := Store.Pool.along_started (SchedulerOp.program platform) Default initial moves
    defaults
  obtain ⟨events, accounts⟩ := Scheduler.invariant_along platform
    (fun db _ => ∃ events, Accounts initial db events) (fun op _ _ => Default op) initial
    fresh.wellFormed ⟨[], rfl, rfl, fun _ _ => rfl⟩ (by
      intro op seen store plan reply after replies holds evolved planned performed writing accounted
      by_cases changed : after = store
      · subst changed
        exact accounted
      · exact performed_accounts holds evolved
          (SchedulerOp.plan_some platform op seen plan planned) (writing changed) performed
          accounted) moves allowed
  exact accounts.reproduces fresh

/-- A progress report, a retry, a late and a timely result, a rejection and an
expired lease. -/
def mixed : List SchedulerOp :=
  [Scenario.createAttempt 0, Scenario.assignNextWork 1, Scenario.accept 2 1 0,
    Scenario.progress 3 1 2 1, Scenario.scheduleRetry 4 0, Scenario.assignNextWork 5,
    Scenario.submit 6 1 2, Scenario.accept 7 5 0, Scenario.submit 8 5 7, Scenario.createAttempt 9,
    Scenario.assignNextWork 10, Scenario.reject 11 10, Scenario.scheduleRetry 12 9,
    Scenario.assignNextWork 13, Scenario.accept 14 13 0, Scenario.sweep 15]

/-- The events of the mixed run give the statuses that it leaves. -/
theorem reproduces_interleaved_mixed :
    Reproduces Scenario.db (Scheduler.interleaved Scenario.platform Scenario.db
      (Scenario.oneByOne mixed)).store :=
  reproduces_interleaved Scenario.platform Scenario.db Scenario.db_fresh _ (by
    have defaults : ∀ call ∈ mixed, Default call := by decide
    exact fun op started => defaults op (Scenario.started_oneByOne mixed op started))

end EventLog

end TokenBank
