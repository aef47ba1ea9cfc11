import TokenBank.Scheduler.System

/-!
# Attempts and their numbers

Two things are decided by a read and written by a later transaction: which number
a new attempt gets, and which attempt is handed to a worker. Numbers are
consecutive as long as no attempt of the work unit is inserted between the read
and the insertion. An attempt has one assignment as long as none is inserted
between the two, and no caller asks for a second one: the selection of waiting
attempts is the only thing that looks at whether an attempt was assigned.
-/

namespace TokenBank

namespace Attempts

/-! ## One assignment per attempt -/

/-- No two assignments belong to the same attempt. -/
def OneAssignmentEach (db : Db) : Prop := db.assignments.Unique AssignmentRow.attemptId

/-- An assignment about to be stored is the first of its attempt, or its id is
stored already and it is refused for it. -/
abbrev FirstAssignment (draws : Draws) (attemptId : String) (store : Db) : Prop :=
  (∀ entry ∈ store.assignments.entries, entry.2.attemptId ≠ attemptId) ∨
    store.assignments.find? (Scheduler.assignmentId draws) ≠ none

/-- The same of a call that creates an assignment: for the attempt it names, or
for the one it selected. -/
def AssignsOnce : SchedulerOp → List Db → Db → Prop
  | .createAssignment draws request, _, store => FirstAssignment draws request.attemptId store
  | .assignNextWork draws _, _ :: waiting :: _, store =>
    ∀ selected ∈ Scheduler.nextAttempt waiting, FirstAssignment draws selected.1 store
  | _, _, _ => True

instance : (op : SchedulerOp) → (seen : List Db) → (store : Db) →
    Decidable (AssignsOnce op seen store)
  | .createAssignment draws request, _, store =>
    inferInstanceAs (Decidable (FirstAssignment draws request.attemptId store))
  | .assignNextWork draws _, _ :: waiting :: _, store =>
    inferInstanceAs (Decidable
      (∀ selected ∈ Scheduler.nextAttempt waiting, FirstAssignment draws selected.1 store))
  | .assignNextWork .., [], _ => .isTrue trivial
  | .assignNextWork .., [_], _ => .isTrue trivial
  | .createAttempt .., _, _ => .isTrue trivial
  | .acceptAssignment .., _, _ => .isTrue trivial
  | .rejectAssignment .., _, _ => .isTrue trivial
  | .progressAssignment .., _, _ => .isTrue trivial
  | .submitResult .., _, _ => .isTrue trivial
  | .scheduleRetry .., _, _ => .isTrue trivial
  | .scheduleFallback .., _, _ => .isTrue trivial
  | .sweepExpiredLeases .., _, _ => .isTrue trivial

/-- Performing a plan that stores no second assignment keeps one each.

Both operations that file an assignment file it under an absent id, so that by
assumption no stored assignment belongs to its attempt. -/
theorem performed_oneAssignmentEach {platform : Platform} {seen : List Db} {store after : Db}
    {op : SchedulerOp} {plan : Plan} {reply : Reply}
    (planned : SchedulerOp.Planned platform seen op plan)
    (performed : Performed platform store plan reply after)
    (writing : after ≠ store → AssignsOnce op seen store) (one : OneAssignmentEach store) :
    OneAssignmentEach after := by
  apply one.grow after.assignments plan.newAssignment (plan.assignmentAfter platform)
    performed.assignments
  · intro key row
    exact (plan.assignmentAfter_identity platform key row).1
  · intro left right leftRow rightRow newLeft newRight
    cases plan with
    | insertAssignment draws request workUnitId =>
      simp only [Plan.newAssignment, Option.ite_none_right_eq_some] at newLeft newRight
      exact newLeft.1.trans newRight.1.symm
    | _ => cases newLeft
  · intro key row filed other stored read
    have absent := performed.newAssignment_absent key row filed
    have changed : after ≠ store := by
      rintro rfl
      have found := performed.assignments key
      rw [filed, absent] at found
      cases found
    have unshared (draws : Draws) (request : Scheduler.AssignmentRequest) (workUnitId : String)
        (insertion : plan = .insertAssignment draws request workUnitId)
        (first : FirstAssignment draws request.attemptId store) :
        stored.attemptId ≠ row.attemptId := by
      subst insertion
      simp only [Plan.newAssignment, Option.ite_none_right_eq_some, Option.some.injEq] at filed
      obtain ⟨rfl, rfl⟩ := filed
      exact first.resolve_right (fun present => present absent) (other, stored)
        ((Store.Table.mem_entries_iff _ _ _).mpr read)
    cases planned with
    | createAssignment draws request => exact unshared draws request _ rfl (writing changed)
    | assignNextWork draws workerId nodes waiting looked rest request chosen attempt saw next =>
      subst saw
      exact unshared draws request _ rfl (writing changed _ next)
    | _ => cases filed

/-- Every attempt has at most one assignment after every interleaving of scheduler
calls in which no call stores a second one. -/
theorem one_assignment_per_attempt (platform : Platform) (initial : Db) (fresh : Fresh initial)
    (moves : List SchedulerMove)
    (once : Store.Along (Scheduler.move platform) (Store.Pool.AtWrites AssignsOnce)
      (Store.Pool.idle initial) moves) :
    OneAssignmentEach (Scheduler.interleaved platform initial moves).store := by
  apply Scheduler.invariant_along platform (fun db _ => OneAssignmentEach db) AssignsOnce initial
    fresh.wellFormed (Store.Table.unique_of_entries_nil _ _ fresh.assignments) _ moves once
  intro op seen store plan reply after replies _ _ planned performed writing one
  exact performed_oneAssignmentEach (op.plan_some platform seen plan planned) performed writing one

/-- The small database with a second worker. -/
def twoWorkers : Db :=
  { Scenario.db with
    capacityNodes := ⟨[("cap_1", ⟨some "wrk_1", ["backend_1"]⟩),
      ("cap_2", ⟨some "wrk_2", ["backend_2"]⟩)], by decide⟩ }

/-- The database with two workers is fresh. -/
theorem twoWorkers_fresh : Fresh twoWorkers := ⟨rfl, rfl, rfl, rfl⟩

/-- Assign the next waiting attempt to the second worker. -/
def assignNextWorkToSecond (call : Nat) : SchedulerOp :=
  .assignNextWork (Scenario.draws call) "wrk_2"

/-- Two workers ask for work one after the other: the second one finds no waiting
attempt. -/
theorem one_assignment_in_turn :
    OneAssignmentEach (Scheduler.interleaved Scenario.platform twoWorkers (Scenario.oneByOne
      [Scenario.createAttempt 0, Scenario.assignNextWork 1, assignNextWorkToSecond 2])).store :=
  one_assignment_per_attempt Scenario.platform twoWorkers twoWorkers_fresh _ (by decide +kernel)

/-- Two workers ask for work at the same time: both are assigned the one attempt. -/
theorem attempt_assigned_twice :
    ((Scheduler.interleaved Scenario.platform twoWorkers
      (Scenario.oneByOne [Scenario.createAttempt 0] ++
        Scenario.overlapping 1 3 (Scenario.assignNextWork 1)
          (assignNextWorkToSecond 2))).store.assignments.entries.map
            (fun entry => (entry.2.attemptId, entry.2.workerId))) =
      [(Scenario.attemptId 0, "wrk_1"), (Scenario.attemptId 0, "wrk_2")] := by
  decide +kernel

/-! ## Consecutive attempt numbers -/

/-- The attempts of every work unit are numbered 1, 2, 3 and so on, in the order in
which they were inserted. -/
def Numbered (db : Db) : Prop :=
  ∀ workUnitId, Scheduler.attemptNumbers db workUnitId =
    List.range' 1 (Scheduler.attemptNumbers db workUnitId).length

/-- The number read for an attempt about to be inserted is still the next one,
unless the insertion is refused for a missing reference or a used id. -/
abbrev NumberStands (draws : Draws) (workUnitId routePlanId policyDecisionId : String)
    (read store : Db) : Prop :=
  Scheduler.attemptReferences workUnitId routePlanId policyDecisionId store = true →
    store.executionAttempts.find? (Scheduler.attemptId draws) = none →
    Scheduler.nextAttemptNumber read workUnitId = Scheduler.nextAttemptNumber store workUnitId

/-- The same of a call that creates an attempt, for the work unit it names or for
that of the attempt it names. -/
def NumbersInTurn : SchedulerOp → List Db → Db → Prop
  | .createAttempt draws workUnitId routePlanId policyDecisionId _ _, read :: _, store =>
    NumberStands draws workUnitId routePlanId policyDecisionId read store
  | .scheduleRetry draws attemptId, found :: read :: _, store =>
    ∀ row ∈ found.executionAttempts.find? attemptId,
      NumberStands draws row.workUnitId row.routePlanId row.policyDecisionId read store
  | .scheduleFallback draws attemptId, found :: read :: _, store =>
    ∀ row ∈ found.executionAttempts.find? attemptId,
      NumberStands draws row.workUnitId row.routePlanId row.policyDecisionId read store
  | _, _, _ => True

instance : (op : SchedulerOp) → (seen : List Db) → (store : Db) →
    Decidable (NumbersInTurn op seen store)
  | .createAttempt draws workUnitId routePlanId policyDecisionId _ _, read :: _, store =>
    inferInstanceAs (Decidable
      (NumberStands draws workUnitId routePlanId policyDecisionId read store))
  | .scheduleRetry draws attemptId, found :: read :: _, store =>
    inferInstanceAs (Decidable (∀ row ∈ found.executionAttempts.find? attemptId,
      NumberStands draws row.workUnitId row.routePlanId row.policyDecisionId read store))
  | .scheduleFallback draws attemptId, found :: read :: _, store =>
    inferInstanceAs (Decidable (∀ row ∈ found.executionAttempts.find? attemptId,
      NumberStands draws row.workUnitId row.routePlanId row.policyDecisionId read store))
  | .createAttempt .., [], _ => .isTrue trivial
  | .scheduleRetry .., [], _ => .isTrue trivial
  | .scheduleRetry .., [_], _ => .isTrue trivial
  | .scheduleFallback .., [], _ => .isTrue trivial
  | .scheduleFallback .., [_], _ => .isTrue trivial
  | .createAssignment .., _, _ => .isTrue trivial
  | .assignNextWork .., _, _ => .isTrue trivial
  | .acceptAssignment .., _, _ => .isTrue trivial
  | .rejectAssignment .., _, _ => .isTrue trivial
  | .progressAssignment .., _, _ => .isTrue trivial
  | .submitResult .., _, _ => .isTrue trivial
  | .sweepExpiredLeases .., _, _ => .isTrue trivial

/-- The next number of a numbered work unit is one more than the count of its
attempts. -/
theorem next_of_numbered {db : Db} (numbered : Numbered db) (workUnitId : String) :
    Scheduler.nextAttemptNumber db workUnitId =
      (Scheduler.attemptNumbers db workUnitId).length + 1 := by
  rw [Scheduler.nextAttemptNumber, numbered workUnitId, Store.maximum_range', List.length_range']

/-- Inserting an attempt under the next number of its work unit keeps all work
units numbered. -/
theorem inserted_numbered {platform : Platform} {store after : Db} {plan : Plan} {reply : Reply}
    (performed : Performed platform store plan reply after) (numbered : Numbered store)
    (next : ∀ workUnitId, plan.newNumbers workUnitId = [] ∨
      plan.newNumbers workUnitId = [Scheduler.nextAttemptNumber store workUnitId]) :
    Numbered after := by
  intro workUnitId
  rw [performed.attemptNumbers]
  rcases next workUnitId with none | one
  · rw [none, List.append_nil]
    exact numbered workUnitId
  · rw [one, next_of_numbered numbered, List.length_append, List.length_singleton,
      List.range'_concat, ← numbered workUnitId, Nat.one_mul, Nat.add_comm 1]

/-- Performing a plan that was numbered in turn keeps all work units numbered.

Only an insertion of an attempt adds a number. Its references resolve and its id is
unused, so that by assumption the number it read is still the next one. -/
theorem performed_numbered {platform : Platform} {seen : List Db} {store after : Db}
    {op : SchedulerOp} {plan : Plan} {reply : Reply}
    (planned : SchedulerOp.Planned platform seen op plan)
    (performed : Performed platform store plan reply after)
    (writing : after ≠ store → NumbersInTurn op seen store) (numbered : Numbered store) :
    Numbered after := by
  apply inserted_numbered performed numbered
  have in_turn (draws : Draws) (workUnitId routePlanId policyDecisionId : String)
      (status : ExecutionAttemptStatus) (eventType : String) (read : Db)
      (insertion : plan = .insertAttempt draws workUnitId routePlanId policyDecisionId status
        eventType (Scheduler.nextAttemptNumber read workUnitId))
      (stands : after ≠ store →
        NumberStands draws workUnitId routePlanId policyDecisionId read store) :
      ∀ key, plan.newNumbers key = [] ∨
        plan.newNumbers key = [Scheduler.nextAttemptNumber store key] := by
    subst insertion
    have filed := performed.attempts (Scheduler.attemptId draws)
    cases performed with
    | insertAttempt _ _ _ _ _ _ _ after inserted =>
      obtain ⟨attempts, outbox, references, stored, events⟩ := inserted
      have absent := ((Store.Table.insert_some_iff _ _ _ _).mp stored).1
      have changed := stands (by
        intro same
        rw [same, absent] at filed
        simp [Plan.newAttempt] at filed) references absent
      intro key
      by_cases same : key = workUnitId
      · subst same
        exact Or.inr (by simp [Plan.newNumbers, changed])
      · exact Or.inl (by simp [Plan.newNumbers, same])
  cases planned with
  | createAttempt draws workUnitId routePlanId policyDecisionId status eventType read rest saw =>
    subst saw
    exact in_turn _ _ _ _ _ _ read rfl writing
  | scheduleRetry draws attemptId found read rest row saw attempted =>
    subst saw
    exact in_turn _ _ _ _ _ _ read rfl
      (fun changed => writing changed row ((Scheduler.attempt_ok_iff _ _ _).mp attempted))
  | scheduleFallback draws attemptId found read rest row saw attempted =>
    subst saw
    exact in_turn _ _ _ _ _ _ read rfl
      (fun changed => writing changed row ((Scheduler.attempt_ok_iff _ _ _).mp attempted))
  | _ => exact fun _ => Or.inl rfl

/-- The attempts of every work unit are numbered consecutively after every
interleaving of scheduler calls whose numbers still stand when they are used. -/
theorem attempt_numbers_consecutive (platform : Platform) (initial : Db) (fresh : Fresh initial)
    (moves : List SchedulerMove)
    (inTurn : Store.Along (Scheduler.move platform) (Store.Pool.AtWrites NumbersInTurn)
      (Store.Pool.idle initial) moves) :
    Numbered (Scheduler.interleaved platform initial moves).store := by
  apply Scheduler.invariant_along platform (fun db _ => Numbered db) NumbersInTurn initial
    fresh.wellFormed _ _ moves inTurn
  · intro workUnitId
    simp [Scheduler.attemptNumbers, fresh.attempts]
  · intro op seen store plan reply after replies _ _ planned performed writing numbered
    exact performed_numbered (op.plan_some platform seen plan planned) performed writing numbered

/-- An attempt is created and retried while a second one is created: the numbers
are read and used in turn. -/
theorem attempt_numbers_retried :
    Numbered (Scheduler.interleaved Scenario.platform Scenario.db (Scenario.oneByOne
      [Scenario.createAttempt 0, Scenario.scheduleRetry 1 0, Scenario.createAttempt 2])).store :=
  attempt_numbers_consecutive Scenario.platform Scenario.db Scenario.db_fresh _ (by decide +kernel)

/-- A retry that reads the next number before another one is inserted: two attempts
are numbered 2. -/
theorem attempt_number_used_twice :
    Scheduler.attemptNumbers (Scheduler.interleaved Scenario.platform Scenario.db
      (Scenario.oneByOne [Scenario.createAttempt 0] ++
        Scenario.overlapping 1 2 (Scenario.scheduleRetry 1 0)
          (Scenario.scheduleRetry 2 0))).store "wu_1" = [1, 2, 2] := by
  decide +kernel

end Attempts

end TokenBank
