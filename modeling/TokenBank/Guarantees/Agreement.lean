import TokenBank.Scheduler.System

/-!
# Agreement between attempts and their assignments

A running attempt is backed by one of its assignments that is leased, and an
assigned attempt by one that still waits to be accepted. Every operation that
moves an assignment on moves its attempt along, with two exceptions. A sweep
expires assignments and leaves their attempts alone, and the creator of an attempt
chooses the status it starts in.

Calls may act on what they read before other calls wrote. A progress report and a
sweep never meet a waiting assignment nevertheless: what they read was leased
before, and an assignment that was handed out does not become a waiting one again.
-/

namespace TokenBank

/-- The assignment is held by its worker. -/
def AssignmentStatus.leased : AssignmentStatus → Bool
  | .accepted => true
  | .running => true
  | _ => false

/-- The assignment is still to be accepted. -/
def AssignmentStatus.waiting : AssignmentStatus → Bool
  | .created => true
  | _ => false

namespace Agreement

/-- One of the assignments of an attempt has an admitted status. -/
def Backed (db : Db) (attemptId : String) (admits : AssignmentStatus → Bool) : Prop :=
  ∃ entry ∈ db.assignments.entries, entry.2.attemptId = attemptId ∧ admits entry.2.status = true
  deriving Decidable

/-- Every attempt in a status is backed by an assignment in an admitted status. -/
def Upholds (db : Db) (status : ExecutionAttemptStatus) (admits : AssignmentStatus → Bool) : Prop :=
  ∀ entry ∈ db.executionAttempts.entries, entry.2.status = status → Backed db entry.1 admits
  deriving Decidable

/-- A running attempt has a leased assignment, and an assigned attempt a waiting
one. -/
def Agrees (db : Db) : Prop :=
  Upholds db .running AssignmentStatus.leased ∧ Upholds db .assigned AssignmentStatus.waiting
  deriving Decidable

/-- A sweep leaves every running attempt, one of whose assignments it expires,
another assignment that is leased. -/
abbrev SweepSustains (draws : Draws) (seen : List Db) (store : Db) : Prop :=
  ∀ read ∈ seen, ∀ expired ∈ Scheduler.expiredLeases (draws.utcText 0) read,
    ∀ attempt ∈ store.executionAttempts.find? expired.2.attemptId, attempt.status = .running →
      ∃ other ∈ store.assignments.entries, other.2.attemptId = expired.2.attemptId ∧
        other.2.status.leased = true ∧
        other.1 ∉ (Scheduler.expiredLeases (draws.utcText 0) read).map Prod.fst

/-- The call takes no backing away: an attempt does not start as running or
assigned, and a sweep sustains running attempts. -/
def Sustains : SchedulerOp → List Db → Db → Prop
  | .createAttempt _ _ _ _ status _, _, _ => status ≠ .running ∧ status ≠ .assigned
  | .sweepExpiredLeases draws, seen, store => SweepSustains draws seen store
  | _, _, _ => True

instance : (op : SchedulerOp) → (seen : List Db) → (store : Db) → Decidable (Sustains op seen store)
  | .createAttempt _ _ _ _ status _, _, _ =>
    inferInstanceAs (Decidable (status ≠ .running ∧ status ≠ .assigned))
  | .sweepExpiredLeases draws, seen, store =>
    inferInstanceAs (Decidable (SweepSustains draws seen store))
  | .createAssignment .., _, _ => .isTrue trivial
  | .assignNextWork .., _, _ => .isTrue trivial
  | .acceptAssignment .., _, _ => .isTrue trivial
  | .rejectAssignment .., _, _ => .isTrue trivial
  | .progressAssignment .., _, _ => .isTrue trivial
  | .submitResult .., _, _ => .isTrue trivial
  | .scheduleRetry .., _, _ => .isTrue trivial
  | .scheduleFallback .., _, _ => .isTrue trivial

/-- Backing in terms of readings by key. -/
theorem backed_iff (db : Db) (attemptId : String) (admits : AssignmentStatus → Bool) :
    Backed db attemptId admits ↔ ∃ key row, db.assignments.find? key = some row ∧
      row.attemptId = attemptId ∧ admits row.status = true := by
  simp only [Backed, Prod.exists, Store.Table.mem_entries_iff]

/-- Upholding in terms of readings by key. -/
theorem upholds_iff (db : Db) (status : ExecutionAttemptStatus)
    (admits : AssignmentStatus → Bool) : Upholds db status admits ↔
      ∀ key row, db.executionAttempts.find? key = some row → row.status = status →
        Backed db key admits := by
  simp only [Upholds, Prod.forall, Store.Table.mem_entries_iff]

/-! ## Assignments that were handed out -/

/-- The assignment left the status it was created in, or a token was granted for
it. -/
def Handed (row : AssignmentRow) : Prop := row.status ≠ .created ∨ row.leaseTokenHash ≠ none

/-- A waiting assignment has no token. -/
def Unclaimed (db : Db) : Prop :=
  ∀ key row, db.assignments.find? key = some row → row.status = .created →
    row.leaseTokenHash = none

/-- Assignments that were handed out stay so. -/
def StaysHanded (before after : Db) : Prop :=
  ∀ key row, before.assignments.find? key = some row → Handed row →
    ∃ later, after.assignments.find? key = some later ∧ Handed later

/-- Where waiting assignments have no token, one that was handed out does not
wait. -/
theorem Unclaimed.not_created {db : Db} (unclaimed : Unclaimed db) {key : String}
    {row : AssignmentRow} (found : db.assignments.find? key = some row) (handed : Handed row) :
    row.status ≠ .created := by
  intro created
  rcases handed with left | granted
  · exact left created
  · exact granted (unclaimed key row found created)

section Performed

variable {platform : Platform} {store after : Db} {plan : Plan} {reply : Reply}

/-- Performing a plan gives no token to a waiting assignment, and takes no
assignment back. -/
theorem performed_unclaimed (performed : Performed platform store plan reply after)
    (unclaimed : Unclaimed store) : Unclaimed after ∧ StaysHanded store after := by
  constructor
  · intro key row found created
    rcases performed.assignment_origin key row found with ⟨earlier, read, same⟩ | ⟨-, filed⟩
    · subst same
      obtain ⟨waiting, ungranted⟩ := plan.assignmentAfter_created platform key earlier created
      rw [plan.assignmentAfter_hash, ungranted, unclaimed key earlier read waiting]
      rfl
    · exact (plan.newAssignment_row key row filed).2.1
  · intro key row found handed
    refine ⟨_, performed.assignment_kept key row found, ?_⟩
    by_cases created : (plan.assignmentAfter platform key row).status = .created
    · obtain ⟨waiting, ungranted⟩ := plan.assignmentAfter_created platform key row created
      have granted : row.leaseTokenHash ≠ none := handed.resolve_left (by simp [waiting])
      right
      rw [plan.assignmentAfter_hash, ungranted]
      exact granted
    · exact Or.inl created

end Performed

/-- The discipline of the scheduler's calls, with what they keep about waiting
assignments. -/
def discipline (platform : Platform) : Store.Discipline SchedulerOp Db Raised Reply :=
  (schedulerDiscipline platform).strengthen Unclaimed StaysHanded
    (fun _ _ row found handed => ⟨row, found, handed⟩)
    (fun first second third earlier later key row found handed => by
      obtain ⟨middle, foundMiddle, handedMiddle⟩ := earlier key row found handed
      exact later key middle foundMiddle handedMiddle)
    (fun op seen store result after _ unclaimed _ ending => by
      cases result with
      | error error =>
        have unchanged := ending.1
        subst unchanged
        exact ⟨unclaimed, fun _ row found handed => ⟨row, found, handed⟩⟩
      | ok reply =>
        obtain ⟨plan, -, performed⟩ := ending
        exact performed_unclaimed performed unclaimed)

section Steps

variable {platform : Platform} {store after : Db} {op : SchedulerOp} {seen : List Db} {plan : Plan}
  {reply : Reply}

/-- An assignment backs an attempt after a plan as it did before, in whatever
status the plan leaves it. -/
theorem backed_after (performed : Performed platform store plan reply after) (key : String)
    (admits : AssignmentStatus → Bool) (id : String) (row : AssignmentRow)
    (found : store.assignments.find? id = some row) (owner : row.attemptId = key)
    (admitted : admits (plan.assignmentAfter platform id row).status = true) :
    Backed after key admits := by
  rw [backed_iff]
  have identity := plan.assignmentAfter_identity platform id row
  exact ⟨id, _, performed.assignment_kept id row found, identity.1.trans owner, admitted⟩

/-- A plan upholds a status if it starts no attempt in it, if it backs the attempts
it gives the status to, and if what backed the others is still there. -/
theorem upholds_performed (performed : Performed platform store plan reply after)
    (status : ExecutionAttemptStatus) (admits : AssignmentStatus → Bool)
    (upheld : Upholds store status admits)
    (fresh : ∀ key row, plan.newAttempt key = some row → row.status ≠ status)
    (given : ∀ key row, store.executionAttempts.find? key = some row →
      (plan.attemptAfter key row).status = status → row.status = status ∨ Backed after key admits)
    (sustained : ∀ key row id assignment, store.executionAttempts.find? key = some row →
      (plan.attemptAfter key row).status = status → row.status = status →
      store.assignments.find? id = some assignment → assignment.attemptId = key →
      admits assignment.status = true → Backed after key admits) :
    Upholds after status admits := by
  rw [upholds_iff] at upheld ⊢
  intro key row found has
  rcases performed.attempt_origin key row found with ⟨earlier, read, same⟩ | ⟨-, filed⟩
  · subst same
    rcases given key earlier read has with had | backed
    · obtain ⟨id, assignment, foundAssignment, owner, admitted⟩ :=
        (backed_iff store key admits).mp (upheld key earlier read had)
      exact sustained key earlier id assignment read has had foundAssignment owner admitted
    · exact backed
  · exact absurd has (fresh key row filed)

/-- The assignment a call read still belongs to the attempt it named. -/
theorem stored_owner {read : Db} {assignmentId workerId : String} {assignment row : AssignmentRow}
    (evolved : Evolves read store)
    (own : Scheduler.assignmentForWorker assignmentId workerId read = .ok assignment)
    (found : store.assignments.find? assignmentId = some row) :
    row.attemptId = assignment.attemptId := by
  have stored := ((Scheduler.assignmentForWorker_ok_iff _ _ _ _).mp own).1
  obtain ⟨later, foundLater, sameAttempt, -⟩ := evolved.assignments assignmentId assignment stored
  have same_row := Option.some.inj (found.symm.trans foundLater)
  subst same_row
  exact sameAttempt

/-- No new attempt starts as running or assigned. -/
theorem newAttempt_status (planned : SchedulerOp.Planned platform seen op plan)
    (sustains : Sustains op seen store) (key : String) (row : AttemptRow)
    (filed : plan.newAttempt key = some row) : row.status ≠ .running ∧ row.status ≠ .assigned := by
  cases planned with
  | createAttempt draws workUnitId routePlanId policyDecisionId status eventType read rest saw =>
    simp only [Plan.newAttempt, Option.ite_none_right_eq_some, Option.some.injEq] at filed
    have same_row := filed.2
    subst same_row
    exact sustains
  | scheduleRetry | scheduleFallback =>
    simp only [Plan.newAttempt, Option.ite_none_right_eq_some, Option.some.injEq] at filed
    have same_row := filed.2
    subst same_row
    simp [Scheduler.attemptRow]
  | _ => cases filed

/-- Performing a plan leaves running attempts backed by leased assignments.

Only an acceptance makes an attempt run, and it leases the assignment that backs
it. An assignment loses its lease with its attempt, except in a sweep, which
sustains the attempt by assumption. -/
theorem running_upheld (planned : SchedulerOp.Planned platform seen op plan)
    (performed : Performed platform store plan reply after)
    (evolved : ∀ earlier ∈ seen, Evolves earlier store) (sustains : Sustains op seen store)
    (upheld : Upholds store .running AssignmentStatus.leased) :
    Upholds after .running AssignmentStatus.leased := by
  apply upholds_performed performed _ _ upheld
  · exact fun key row filed => (newAttempt_status planned sustains key row filed).1
  · intro key row found runs
    cases planned with
    | nothing | createAttempt | scheduleRetry | scheduleFallback | progress | sweep =>
      exact Or.inl runs
    | createAssignment | assignNextWork =>
      simp only [Plan.attemptAfter] at runs
      split at runs
      · cases runs
      · exact Or.inl runs
    | accept draws assignmentId workerId expectedLeaseVersion leaseDurationMs read assignment
        expiresAt looked own created expiry =>
      by_cases mine : key = assignment.attemptId
      · right
        obtain ⟨current, foundCurrent, -, -⟩ := performed.accept_version
        have owner := stored_owner (evolved read looked) own foundCurrent
        apply backed_after performed key _ assignmentId current foundCurrent (owner.trans mine.symm)
        simp [Plan.assignmentAfter, Lease.LeaseUpdate.apply, Scheduler.acceptUpdate,
          AssignmentStatus.leased]
      · simp only [Plan.attemptAfter, if_neg mine] at runs
        exact Or.inl runs
    | reject =>
      simp only [Plan.attemptAfter] at runs
      split at runs
      · cases runs
      · exact Or.inl runs
    | submit draws submission read attempted looked assignment attempt envelope saw admitted =>
      simp only [Plan.attemptAfter] at runs
      split at runs
      · split at runs <;> cases runs
      · exact Or.inl runs
  · intro key row id assignment found runs ran foundAssignment owner leased
    have kept (same : (plan.assignmentAfter platform id assignment).status = assignment.status) :
        Backed after key AssignmentStatus.leased :=
      backed_after performed key _ id assignment foundAssignment owner (same ▸ leased)
    cases planned with
    | nothing | createAttempt | scheduleRetry | scheduleFallback | createAssignment
    | assignNextWork => exact kept rfl
    | accept draws assignmentId | progress draws assignmentId =>
      by_cases same : id = assignmentId
      · apply backed_after performed key _ id assignment foundAssignment owner
        simp [Plan.assignmentAfter, same, Lease.LeaseUpdate.apply, Scheduler.acceptUpdate,
          Scheduler.progressUpdate, AssignmentStatus.leased]
      · exact kept (by simp only [Plan.assignmentAfter, if_neg same])
    | reject draws assignmentId workerId read written looked own =>
      by_cases same : id = assignmentId
      · subst same
        have ended := stored_owner (evolved read looked) own foundAssignment
        simp [Plan.attemptAfter, ← owner, ended, Scheduler.endAttempt] at runs
      · exact kept (by simp only [Plan.assignmentAfter, if_neg same])
    | submit draws submission read attempted looked written attempt envelope saw admitted =>
      by_cases same : id = submission.assignmentId
      · subst same
        have inSeen : read ∈ seen := List.mem_of_mem_take (saw ▸ List.mem_cons_self)
        have ended := stored_owner (evolved read inSeen) admitted.found foundAssignment
        simp only [Plan.attemptAfter, ← owner, ended, if_true] at runs
        split at runs <;> cases runs
      · exact kept (by simp only [Plan.assignmentAfter, if_neg same])
    | sweep draws read looked =>
      by_cases listed : id ∈ (Scheduler.expiredLeases (draws.utcText 0) read).map Prod.fst
      · obtain ⟨expired, inList, sameId⟩ := List.mem_map.mp listed
        subst sameId
        have inRead := (Store.Table.mem_entries_iff _ _ _).mp (List.mem_filter.mp inList).1
        obtain ⟨later, foundLater, sameAttempt, -⟩ := (evolved read looked).assignments _ _ inRead
        have same_row := Option.some.inj (foundAssignment.symm.trans foundLater)
        subst same_row
        obtain ⟨other, stored, otherOwner, otherLeased, spared⟩ :=
          sustains read looked expired inList row (sameAttempt ▸ owner.symm ▸ found) ran
        apply backed_after performed key _ other.1 other.2
          ((Store.Table.mem_entries_iff _ _ _).mp stored)
          (otherOwner.trans (sameAttempt.symm.trans owner))
        rw [Plan.assignmentAfter, Scheduler.expiredRow_status, if_neg spared]
        exact otherLeased
      · exact kept (by rw [Plan.assignmentAfter, Scheduler.expiredRow_status, if_neg listed])

/-- An assignment that was handed out when a call read it does not wait now. -/
theorem not_waiting {read : Db} {id : String} {assignment row : AssignmentRow}
    (unclaimed : Unclaimed store) (stays : StaysHanded read store)
    (inRead : read.assignments.find? id = some assignment) (handed : Handed assignment)
    (found : store.assignments.find? id = some row) : row.status.waiting = false := by
  obtain ⟨later, foundLater, handedLater⟩ := stays id assignment inRead handed
  have same_row := Option.some.inj (found.symm.trans foundLater)
  subst same_row
  have left := unclaimed.not_created found handedLater
  cases status : row.status <;> simp_all [AssignmentStatus.waiting]

/-- Performing a plan leaves assigned attempts backed by waiting assignments.

Only a new assignment makes an attempt assigned, and it waits. Whoever writes an
assignment without ending or starting its attempt read it when it was handed out
already, so it is not the one that waits. -/
theorem assigned_upheld (planned : SchedulerOp.Planned platform seen op plan)
    (performed : Performed platform store plan reply after)
    (evolved : ∀ earlier ∈ seen, Evolves earlier store)
    (stays : ∀ earlier ∈ seen, StaysHanded earlier store) (unclaimed : Unclaimed store)
    (sustains : Sustains op seen store)
    (upheld : Upholds store .assigned AssignmentStatus.waiting) :
    Upholds after .assigned AssignmentStatus.waiting := by
  have assigns (draws : Draws) (request : Scheduler.AssignmentRequest) (workUnitId : String)
      (here : plan = .insertAssignment draws request workUnitId) :
      Backed after request.attemptId AssignmentStatus.waiting := by
    have filed := performed.assignments (Scheduler.assignmentId draws)
    rw [here, Plan.newAssignment, if_pos rfl, Option.some_or] at filed
    exact (backed_iff _ _ _).mpr ⟨_, _, filed, rfl, rfl⟩
  apply upholds_performed performed _ _ upheld
  · exact fun key row filed => (newAttempt_status planned sustains key row filed).2
  · intro key row found waits
    cases planned with
    | nothing | createAttempt | scheduleRetry | scheduleFallback | progress | sweep =>
      exact Or.inl waits
    | createAssignment draws request | assignNextWork draws _ _ _ _ _ request =>
      by_cases mine : key = request.attemptId
      · exact Or.inr (mine ▸ assigns draws request _ rfl)
      · simp only [Plan.attemptAfter, if_neg mine] at waits
        exact Or.inl waits
    | accept | reject =>
      simp only [Plan.attemptAfter] at waits
      split at waits
      · cases waits
      · exact Or.inl waits
    | submit draws submission read attempted looked assignment attempt envelope saw admitted =>
      simp only [Plan.attemptAfter] at waits
      split at waits
      · split at waits <;> cases waits
      · exact Or.inl waits
  · intro key row id assignment found waits waited foundAssignment owner waiting
    have kept (same : (plan.assignmentAfter platform id assignment).status = assignment.status) :
        Backed after key AssignmentStatus.waiting :=
      backed_after performed key _ id assignment foundAssignment owner (same ▸ waiting)
    cases planned with
    | nothing | createAttempt | scheduleRetry | scheduleFallback | createAssignment
    | assignNextWork => exact kept rfl
    | accept draws assignmentId workerId expectedLeaseVersion leaseDurationMs read written
        expiresAt looked own created expiry =>
      by_cases same : id = assignmentId
      · subst same
        have started := stored_owner (evolved read looked) own foundAssignment
        simp [Plan.attemptAfter, ← owner, started, Scheduler.startAttempt] at waits
      · exact kept (by simp only [Plan.assignmentAfter, if_neg same])
    | reject draws assignmentId workerId read written looked own =>
      by_cases same : id = assignmentId
      · subst same
        have ended := stored_owner (evolved read looked) own foundAssignment
        simp [Plan.attemptAfter, ← owner, ended, Scheduler.endAttempt] at waits
      · exact kept (by simp only [Plan.assignmentAfter, if_neg same])
    | progress draws assignmentId workerId leaseToken expectedLeaseVersion leaseDurationMs read
        written expiresAt looked own matched expiry =>
      by_cases same : id = assignmentId
      · subst same
        have inRead := ((Scheduler.assignmentForWorker_ok_iff _ _ _ _).mp own).1
        have granted : written.leaseTokenHash ≠ none := by
          intro absent
          rw [absent] at matched
          cases matched.1
        have handed := not_waiting unclaimed (stays read looked) inRead (Or.inr granted)
          foundAssignment
        rw [handed] at waiting
        cases waiting
      · exact kept (by simp only [Plan.assignmentAfter, if_neg same])
    | submit draws submission read attempted looked written attempt envelope saw admitted =>
      by_cases same : id = submission.assignmentId
      · subst same
        have inSeen : read ∈ seen := List.mem_of_mem_take (saw ▸ List.mem_cons_self)
        have ended := stored_owner (evolved read inSeen) admitted.found foundAssignment
        simp only [Plan.attemptAfter, ← owner, ended, if_true] at waits
        split at waits <;> cases waits
      · exact kept (by simp only [Plan.assignmentAfter, if_neg same])
    | sweep draws read looked =>
      by_cases listed : id ∈ (Scheduler.expiredLeases (draws.utcText 0) read).map Prod.fst
      · obtain ⟨expired, inList, sameId⟩ := List.mem_map.mp listed
        subst sameId
        have inRead := (Store.Table.mem_entries_iff _ _ _).mp (List.mem_filter.mp inList).1
        have leased := Scheduler.expiredLeases_status _ read _ _ inRead listed
        have left : expired.2.status ≠ .created := by
          rcases leased with accepted | running <;> simp_all
        have handed := not_waiting unclaimed (stays read looked) inRead (Or.inl left)
          foundAssignment
        rw [handed] at waiting
        cases waiting
      · exact kept (by rw [Plan.assignmentAfter, Scheduler.expiredRow_status, if_neg listed])

end Steps

/-- Attempts and assignments agree after every interleaving of calls from a fresh
database in which no attempt starts as running or assigned and every sweep
sustains running attempts. -/
theorem agrees_along (platform : Platform) (initial : Db) (fresh : Fresh initial)
    (moves : List SchedulerMove)
    (sustained : Store.Along (Scheduler.move platform) (Store.Pool.AtWrites Sustains)
      (Store.Pool.idle initial) moves) :
    Agrees (Scheduler.interleaved platform initial moves).store := by
  have sound : (discipline platform).sound initial := by
    refine ⟨fresh.wellFormed, ?_⟩
    intro key row found
    rw [Store.Table.find?_of_entries_nil _ fresh.assignments] at found
    cases found
  have initially : Agrees initial := by
    simp [Agrees, Upholds, fresh.attempts]
  apply (discipline platform).invariant_along (fun db _ => Agrees db) Sustains
    (Store.Pool.idle initial) ((discipline platform).holds_idle initial sound) initially _ moves
    sustained
  intro op seen store result after replies holds evolved ending writing agrees
  cases result with
  | error error =>
    have unchanged := ending.1
    subst unchanged
    exact agrees
  | ok reply =>
    obtain ⟨plan, planned, performed⟩ := ending
    by_cases changed : after = store
    · subst changed
      exact agrees
    · have origin := SchedulerOp.plan_some platform op seen plan planned
      have near (earlier : Db) (inSeen : earlier ∈ seen) := (evolved earlier inSeen).1
      have stays (earlier : Db) (inSeen : earlier ∈ seen) := (evolved earlier inSeen).2
      have sustains := writing changed
      exact ⟨running_upheld origin performed near sustains agrees.1,
        assigned_upheld origin performed near stays holds.2 sustains agrees.2⟩

/-- Attempts and assignments agree after an assignment expired and a retry was
assigned, accepted and completed: by the time of the sweep the first attempt had
failed with its other assignment. -/
theorem agrees_along_sustained :
    Agrees (Scheduler.interleaved Scenario.platform Scenario.db (Scenario.oneByOne
      [Scenario.createAttempt 0, Scenario.assignNextWork 1,
        .createAssignment (Scenario.draws 2)
          (Scheduler.nextRequest "wrk_1" (Scenario.attemptId 0) "cap_1" "backend_1"),
        Scenario.accept 3 1 0, Scenario.reject 4 2, Scenario.sweep 5, Scenario.scheduleRetry 6 0,
        Scenario.assignNextWork 7, Scenario.accept 8 7 0, Scenario.submit 9 7 8])).store :=
  agrees_along Scenario.platform Scenario.db Scenario.db_fresh _ (by decide +kernel)

/-- A sweep expires the only assignment of a running attempt and leaves the
attempt running. -/
theorem swept_while_running :
    ∃ db, Reachable Scenario.platform db ∧ ¬ Agrees db :=
  ⟨Store.run (Scheduler.step Scenario.platform) Scenario.db
      [Scenario.createAttempt 0, Scenario.assignNextWork 1, Scenario.accept 2 1 0,
        Scenario.sweep 3],
    (Reachable.fresh Scenario.db_fresh).run _, by decide +kernel⟩

end Agreement

end TokenBank
