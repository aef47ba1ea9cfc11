import TokenBank.Scheduler.System

/-!
# Leases

A lease is granted by accepting an assignment and advanced by progressing it. Both
go through one conditional update that compares and increments the version inside
the write transaction, so versions are never handed out twice, whatever else runs.

Being granted only once is another matter: the status is checked before the
transaction opens and the version is the caller's choice, so a grant is exclusive
exactly as long as every acceptance that matches the version still finds the
assignment created.

When calls run one at a time, the stored hash is that of the token granted last,
and only its holder passes the checks of a progress report or a submission.
-/

namespace TokenBank

namespace Leases

/-! ## Grants and versions among the replies -/

/-- The grant a call returned for an assignment. -/
def grantFor (assignmentId : String) : SchedulerOp × Reply → Option Scheduler.LeaseGrant
  | (_, .grant grant) => if grant.assignmentId = assignmentId then some grant else none
  | _ => none

/-- The grants returned for an assignment, in the order of their commits. -/
def grants (assignmentId : String) (replies : List (SchedulerOp × Reply)) :
    List Scheduler.LeaseGrant :=
  replies.filterMap (grantFor assignmentId)

/-- The version a successful acceptance or progress report of an assignment
expected, and the version it returned. -/
def leaseStep (assignmentId : String) : SchedulerOp × Reply → Option (Int × Int)
  | (.acceptAssignment _ target _ expectedLeaseVersion _, .grant grant) =>
    if target = assignmentId then some (expectedLeaseVersion, grant.leaseVersion) else none
  | (.progressAssignment _ target _ _ expectedLeaseVersion _, .progress reply) =>
    if target = assignmentId then some (expectedLeaseVersion, reply.leaseVersion) else none
  | _ => none

/-- The successful acceptances and progress reports of an assignment, in the order
of their commits. -/
def leaseSteps (assignmentId : String) (replies : List (SchedulerOp × Reply)) :
    List (Int × Int) :=
  replies.filterMap (leaseStep assignmentId)

section Replies

variable {platform : Platform} {store after : Db} {plan : Plan} {reply : Reply}

/-- A reply grants the token that its plan grants. -/
theorem grantFor_token (performed : Performed platform store plan reply after) (op : SchedulerOp)
    (key : String) : (grantFor key (op, reply)).map Scheduler.LeaseGrant.leaseToken =
      plan.granted key := by
  cases performed with
  | accept draws assignmentId workerId expectedLeaseVersion expiresAt assignment grant after
      accepted =>
    obtain ⟨row, outbox, found, version, fits, workUnit, events⟩ := accepted
    by_cases same : key = assignmentId
    · simp [grantFor, Plan.granted, same]
    · simp [grantFor, Plan.granted, same, Ne.symm same]
  | _ => rfl

/-- A plan that advances an assignment finds the version it expects. -/
theorem advances_found (performed : Performed platform store plan reply after) (key : String)
    (expected : Int) (advances : plan.advances key = some expected) :
    ∃ row, store.assignments.find? key = some row ∧ row.leaseVersion = expected := by
  cases plan with
  | accept draws assignmentId workerId expectedLeaseVersion expiresAt assignment =>
    simp only [Plan.advances, Option.ite_none_right_eq_some, Option.some.injEq] at advances
    obtain ⟨rfl, rfl⟩ := advances
    obtain ⟨row, found, version, -⟩ := performed.accept_version
    exact ⟨row, found, version⟩
  | progress draws assignmentId workerId expectedLeaseVersion expiresAt assignment =>
    simp only [Plan.advances, Option.ite_none_right_eq_some, Option.some.injEq] at advances
    obtain ⟨rfl, rfl⟩ := advances
    obtain ⟨row, found, version, -⟩ := performed.progress_version
    exact ⟨row, found, version⟩
  | _ => cases advances

/-- A reply to a call that advances an assignment returns the version after the
one the call expected. -/
theorem leaseStep_advances (op : SchedulerOp) (seen : List Db)
    (planned : SchedulerOp.Planned platform seen op plan)
    (performed : Performed platform store plan reply after) (key : String) :
    leaseStep key (op, reply) =
      (plan.advances key).map (fun expected => (expected, expected + 1)) := by
  cases planned with
  | accept draws assignmentId workerId expectedLeaseVersion leaseDurationMs =>
    obtain ⟨row, found, version, rfl⟩ := performed.accept_version
    by_cases same : key = assignmentId
    · simp [leaseStep, Plan.advances, same]
    · simp [leaseStep, Plan.advances, same, Ne.symm same]
  | progress draws assignmentId workerId leaseToken expectedLeaseVersion leaseDurationMs =>
    obtain ⟨row, found, version, rfl⟩ := performed.progress_version
    by_cases same : key = assignmentId
    · simp [leaseStep, Plan.advances, same]
    · simp [leaseStep, Plan.advances, same, Ne.symm same]
  | _ => rfl

end Replies

/-! ## Versions -/

/-- The versions of an assignment count its successful acceptances and progress
reports: the stored version is their number, and each of them expected the number
of those before it. -/
def Counted (key : String) (db : Db) (replies : List (SchedulerOp × Reply)) : Prop :=
  ∃ count : Nat,
    leaseSteps key replies =
      (List.range count).map (fun before : Nat => ((before : Int), (before : Int) + 1)) ∧
    (∀ row, db.assignments.find? key = some row → row.leaseVersion = count) ∧
    (db.assignments.find? key = none → count = 0)

/-- Performing any plan keeps the count. -/
theorem performed_counted {platform : Platform} {store after : Db} {plan : Plan} {reply : Reply}
    (key : String) (op : SchedulerOp) (seen : List Db) (replies : List (SchedulerOp × Reply))
    (planned : SchedulerOp.Planned platform seen op plan)
    (performed : Performed platform store plan reply after) (counted : Counted key store replies) :
    Counted key after (replies ++ [(op, reply)]) := by
  obtain ⟨count, steps, version, absent⟩ := counted
  have appended : leaseSteps key (replies ++ [(op, reply)]) = leaseSteps key replies ++
      ((plan.advances key).map (fun expected => (expected, expected + 1))).toList := by
    rw [leaseSteps, List.filterMap_append, ← leaseStep_advances op seen planned performed key]
    cases step : leaseStep key (op, reply) <;> simp [step, leaseSteps]
  cases advances : plan.advances key with
  | some expected =>
    obtain ⟨row, found, same⟩ := advances_found performed key expected advances
    have same_version : expected = count := same.symm.trans (version row found)
    subst same_version
    refine ⟨count + 1, ?_, ?_, ?_⟩
    · rw [appended, steps, advances, List.range_succ, List.map_append]
      rfl
    · intro later foundLater
      rw [performed.assignment_kept key row found, Option.some.injEq] at foundLater
      rw [← foundLater, Plan.assignmentAfter_version, advances, same]
      simp
    · intro missing
      rw [performed.assignment_kept key row found] at missing
      cases missing
  | none =>
    refine ⟨count, ?_, ?_, ?_⟩
    · rw [appended, steps, advances]
      simp
    · intro later foundLater
      rcases performed.assignment_origin key later foundLater with
        ⟨row, found, rfl⟩ | ⟨missing, filed⟩
      · rw [Plan.assignmentAfter_version, advances]
        simpa using version row found
      · rw [absent missing]
        cases plan with
        | insertAssignment draws request workUnitId =>
          simp only [Plan.newAssignment, Option.ite_none_right_eq_some, Option.some.injEq] at filed
          rw [← filed.2]
          rfl
        | _ => cases filed
    · intro missing
      apply absent
      cases found : store.assignments.find? key with
      | none => rfl
      | some row =>
        rw [performed.assignment_kept key row found] at missing
        cases missing

/-- After every interleaving of scheduler calls from a fresh database, the versions
returned for an assignment are 1, 2, 3 and so on in the order of the commits, and
no expected version was presented by two successful callers. -/
theorem lease_versions_consecutive (platform : Platform) (initial : Db) (fresh : Fresh initial)
    (moves : List SchedulerMove) (key : String) :
    let steps := leaseSteps key (Scheduler.interleaved platform initial moves).replies
    steps.map Prod.snd = (List.range steps.length).map (fun before : Nat => (before : Int) + 1) ∧
      (steps.map Prod.fst).Nodup := by
  have initially : Counted key initial [] :=
    ⟨0, rfl, fun row found => by
      simp [Store.Table.find?_of_entries_nil _ fresh.assignments] at found, fun _ => rfl⟩
  obtain ⟨count, steps, -, -⟩ := Scheduler.invariant_run platform (Counted key) initial
    fresh.wellFormed initially
    (fun op seen store plan reply after replies _ _ planned performed counted =>
      performed_counted key op seen replies (op.plan_some platform seen plan planned) performed
        counted) moves
  simp only [steps, List.map_map, List.length_map, List.length_range, Function.comp_def, true_and]
  have distinct : (List.range count).Nodup := List.nodup_range
  exact distinct.map (fun left right same => Int.ofNat.inj same)

/-- Two acceptances that both expect version 0, then two progress reports that both
expect version 1, each pair read before either of it writes. -/
def conflicting : List SchedulerMove :=
  Scenario.oneByOne [Scenario.createAttempt 0, Scenario.assignNextWork 1] ++
    Scenario.overlapping 2 1 (Scenario.accept 2 1 0) (Scenario.accept 3 1 0) ++
    Scenario.overlapping 4 1 (Scenario.progress 4 1 2 1) (Scenario.progress 5 1 2 1)

/-- Of each pair of callers that expect the same version, one succeeds. -/
theorem lease_versions_conflicting :
    let steps := leaseSteps (Scenario.assignmentId 1)
      (Scheduler.interleaved Scenario.platform Scenario.db conflicting).replies
    steps = [(0, 1), (1, 2)] ∧
      steps.map Prod.snd = (List.range steps.length).map (fun before : Nat => (before : Int) + 1) ∧
      (steps.map Prod.fst).Nodup :=
  ⟨by decide +kernel, lease_versions_consecutive Scenario.platform Scenario.db Scenario.db_fresh
    conflicting (Scenario.assignmentId 1)⟩

/-! ## Exclusive grants -/

/-- An acceptance that expects the stored version meets an assignment that is
still created when its transaction runs. -/
def AcceptsCreated : SchedulerOp → List Db → Db → Prop
  | .acceptAssignment _ assignmentId _ expectedLeaseVersion _, _, store =>
    ∀ row ∈ store.assignments.find? assignmentId, row.leaseVersion = expectedLeaseVersion →
      row.status = .created
  | _, _, _ => True

instance : (op : SchedulerOp) → (seen : List Db) → (store : Db) →
    Decidable (AcceptsCreated op seen store)
  | .acceptAssignment _ assignmentId _ expectedLeaseVersion _, _, store =>
    inferInstanceAs (Decidable (∀ row ∈ store.assignments.find? assignmentId,
      row.leaseVersion = expectedLeaseVersion → row.status = .created))
  | .createAttempt .., _, _ => .isTrue trivial
  | .createAssignment .., _, _ => .isTrue trivial
  | .assignNextWork .., _, _ => .isTrue trivial
  | .rejectAssignment .., _, _ => .isTrue trivial
  | .progressAssignment .., _, _ => .isTrue trivial
  | .submitResult .., _, _ => .isTrue trivial
  | .scheduleRetry .., _, _ => .isTrue trivial
  | .scheduleFallback .., _, _ => .isTrue trivial
  | .sweepExpiredLeases .., _, _ => .isTrue trivial

/-- An assignment was granted at most once, and if it was, its row stores the hash
of the granted token. -/
def Exclusive (platform : Platform) (key : String) (db : Db)
    (replies : List (SchedulerOp × Reply)) : Prop :=
  grants key replies = [] ∨ ∃ grant row, grants key replies = [grant] ∧
    db.assignments.find? key = some row ∧
    row.leaseTokenHash = some (Lease.leaseTokenHash platform grant.leaseToken) ∧
    row.status ≠ .created

section Grants

variable {platform : Platform} {store after : Db} {plan : Plan} {reply : Reply}

/-- One more reply adds the grant it carries. -/
theorem grants_append (key : String) (replies : List (SchedulerOp × Reply))
    (op : SchedulerOp) (reply : Reply) :
    grants key (replies ++ [(op, reply)]) =
      grants key replies ++ (grantFor key (op, reply)).toList := by
  rw [grants, List.filterMap_append]
  cases carried : grantFor key (op, reply) <;> simp [carried, grants]

/-- A plan that grants a token for an assignment advances it, and leaves it
accepted under the hash of the token. -/
theorem granted_row (performed : Performed platform store plan reply after) (key token : String)
    (granted : plan.granted key = some token) :
    ∃ row, after.assignments.find? key = some row ∧
      row.leaseTokenHash = some (Lease.leaseTokenHash platform token) ∧ row.status ≠ .created := by
  cases plan with
  | accept draws assignmentId workerId expectedLeaseVersion expiresAt assignment =>
    simp only [Plan.granted, Option.ite_none_right_eq_some, Option.some.injEq] at granted
    obtain ⟨rfl, rfl⟩ := granted
    obtain ⟨row, found, -, -⟩ := performed.accept_version
    refine ⟨_, performed.assignment_kept key row found, ?_, ?_⟩
    · rw [Plan.assignmentAfter_hash]
      simp [Plan.granted]
    · simp [Plan.assignmentAfter, Lease.LeaseUpdate.apply, Scheduler.acceptUpdate]
  | _ => cases granted

/-- Performing a plan keeps an assignment granted at most once, when an acceptance
still finds it created.

A plan that grants the assignment finds it created, so nothing was granted before.
Any other plan keeps the stored hash, and never turns the status back. -/
theorem performed_exclusive (key : String) (op : SchedulerOp) (seen : List Db)
    (replies : List (SchedulerOp × Reply))
    (planned : SchedulerOp.Planned platform seen op plan)
    (performed : Performed platform store plan reply after)
    (writing : after ≠ store → AcceptsCreated op seen store)
    (exclusive : Exclusive platform key store replies) :
    Exclusive platform key after (replies ++ [(op, reply)]) := by
  have carried := grantFor_token performed op key
  cases granted : plan.granted key with
  | some token =>
    rw [granted, Option.map_eq_some_iff] at carried
    obtain ⟨grant, replied, rfl⟩ := carried
    obtain ⟨row, found, created⟩ : ∃ row, store.assignments.find? key = some row ∧
        row.status = .created := by
      cases planned with
      | accept draws assignmentId workerId expectedLeaseVersion leaseDurationMs =>
        simp only [Plan.granted, Option.ite_none_right_eq_some] at granted
        obtain ⟨rfl, -⟩ := granted
        obtain ⟨row, found, version, -⟩ := performed.accept_version
        refine ⟨row, found, writing ?_ row found version⟩
        rintro rfl
        have kept := performed.assignment_kept key row found
        rw [found, Option.some.injEq] at kept
        have advanced := congrArg AssignmentRow.leaseVersion kept
        rw [Plan.assignmentAfter_version] at advanced
        simp only [Plan.advances, if_true, Option.isSome_some] at advanced
        omega
      | _ => cases granted
    have none_before : grants key replies = [] := by
      rcases exclusive with none | ⟨_, stored, _, here, _, taken⟩
      · exact none
      · have same_row := Option.some.inj (found.symm.trans here)
        subst same_row
        exact absurd created taken
    obtain ⟨later, foundLater, hash, taken⟩ := granted_row performed key grant.leaseToken granted
    refine Or.inr ⟨grant, later, ?_, foundLater, hash, taken⟩
    rw [grants_append, none_before, replied]
    rfl
  | none =>
    rw [granted, Option.map_eq_none_iff] at carried
    have same : grants key (replies ++ [(op, reply)]) = grants key replies := by
      rw [grants_append, carried]
      simp
    unfold Exclusive
    rw [same]
    rcases exclusive with none | ⟨grant, row, one, found, hash, taken⟩
    · exact Or.inl none
    · refine Or.inr ⟨grant, _, one, performed.assignment_kept key row found, ?_, ?_⟩
      · rw [Plan.assignmentAfter_hash, granted]
        simpa using hash
      · intro created
        exact taken (Plan.assignmentAfter_created platform plan key row created).1

end Grants

/-- In every interleaving in which an acceptance that expects the stored version
still meets a created assignment, an assignment is granted at most once, and its
row stores the hash of the granted token from then on. -/
theorem accept_exclusive (platform : Platform) (initial : Db)
    (reachable : Reachable platform initial) (moves : List SchedulerMove) (key : String)
    (created : Store.Along (Scheduler.move platform) (Store.Pool.AtWrites AcceptsCreated)
      (Store.Pool.idle initial) moves) :
    let ended := Scheduler.interleaved platform initial moves
    (grants key ended.replies).length ≤ 1 ∧ ∀ grant ∈ grants key ended.replies,
      (ended.store.assignments.find? key).bind AssignmentRow.leaseTokenHash =
        some (Lease.leaseTokenHash platform grant.leaseToken) := by
  have exclusive : Exclusive platform key (Scheduler.interleaved platform initial moves).store
      (Scheduler.interleaved platform initial moves).replies :=
    Scheduler.invariant_along platform (Exclusive platform key) AcceptsCreated initial
      reachable.wellFormed (Or.inl rfl)
      (fun op seen store plan reply after replies _ _ planned performed writing exclusive =>
        performed_exclusive key op seen replies (op.plan_some platform seen plan planned) performed
          writing exclusive) moves created
  rcases exclusive with none | ⟨grant, row, one, found, hash, -⟩
  · simp [none]
  · simp [one, found, hash]

/-- The database in which an attempt was assigned to the worker. -/
def assigned : Db :=
  Store.run (Scheduler.step Scenario.platform) Scenario.db
    [Scenario.createAttempt 0, Scenario.assignNextWork 1]

/-- The database with the assignment is reachable. -/
theorem assigned_reachable : Reachable Scenario.platform assigned :=
  (Reachable.fresh Scenario.db_fresh).run _

/-- Two overlapping acceptances that expect the same version: one is granted, and
the row keeps the hash of its token. -/
theorem accept_exclusive_same_version :
    let ended := Scheduler.interleaved Scenario.platform assigned
      (Scenario.overlapping 0 1 (Scenario.accept 2 1 0) (Scenario.accept 3 1 0))
    (grants (Scenario.assignmentId 1) ended.replies).length ≤ 1 ∧
      ∀ grant ∈ grants (Scenario.assignmentId 1) ended.replies,
        (ended.store.assignments.find? (Scenario.assignmentId 1)).bind
            AssignmentRow.leaseTokenHash =
          some (Lease.leaseTokenHash Scenario.platform grant.leaseToken) :=
  accept_exclusive Scenario.platform assigned assigned_reachable _ _ (by decide +kernel)

/-- Two overlapping acceptances, the second of which expects the version that the
first one writes: both are granted a token. -/
theorem overlapping_acceptances_granted_twice :
    (grants (Scenario.assignmentId 1) (Scheduler.interleaved Scenario.platform assigned
      (Scenario.overlapping 0 1 (Scenario.accept 2 1 0) (Scenario.accept 3 1 1))).replies).map
        Scheduler.LeaseGrant.leaseToken =
      [Lease.newLeaseToken (Scenario.draws 2), Lease.newLeaseToken (Scenario.draws 3)] := by
  decide +kernel

end Leases

end TokenBank
